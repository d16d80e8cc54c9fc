import WhereClause.Proofs.Reading
import WhereClause.Proofs.Spelling
import WhereClause.Sql.Token

/-! Tokens of spelled conditions.

The scanner finds in the text of a condition the tokens of its phrases, the names as they
were before they were quoted, and the placeholders with the numbers of the parameters.
-/

set_option autoImplicit false

namespace WhereClause.Sql

/-- The tokens of a text, under any limit that covers it. -/
def Scans (lexicon : Lexicon) (text : List Char) (tokens : List Token) : Prop :=
  ∀ limit, text.length ≤ limit → scan lexicon limit text = some tokens

def signs : List Char := ['@', '$', ':', '?']

/-- A lexicon whose names and placeholders do not start like anything in a phrase. -/
structure Lexicon.Apart (lexicon : Lexicon) : Prop where
  opening : lexicon.openQuote = '[' ∨ lexicon.openQuote = '`' ∨ lexicon.openQuote = '"'
  closing : lexicon.closeQuote ∉ [' ', ',', ')']
  unmarked : ∀ c, c ∉ signs → ∀ rest : List Char, scanMarker lexicon.marker (c :: rest) = none

theorem scanMarker_numbered_none {sign c : Char} (lead : List Char) (first : Nat) {rest : List Char}
    (other : c ≠ sign) : scanMarker (.numbered (sign :: lead) first) (c :: rest) = none := by
  simp [scanMarker, other.symm]

theorem Lexicon.shared_apart (dialect : Dialect) : (Lexicon.shared dialect).Apart where
  opening := dialect.openQuote_cases
  closing := dialect.closeQuote_apart
  unmarked c plain _ := scanMarker_numbered_none [] 0 (by rintro rfl; simp [signs] at plain)

theorem Lexicon.native_apart (dialect : Dialect) : (Lexicon.native dialect).Apart where
  opening := dialect.openQuote_cases
  closing := dialect.closeQuote_apart
  unmarked c plain rest := by
    simp only [signs, List.mem_cons, List.not_mem_nil, or_false, not_or] at plain
    cases dialect with
    | sqlServer => exact scanMarker_numbered_none ['p'] 1 plain.1
    | postgresql => exact scanMarker_numbered_none [] 1 plain.2.1
    | oracle => exact scanMarker_numbered_none [] 1 plain.2.2.1
    | sqlite => simp [Lexicon.native, nativeMarker, scanMarker, plain]
    | mySql => simp [Lexicon.native, nativeMarker, scanMarker, plain]

variable {lexicon : Lexicon}

namespace Scans

theorem nil : Scans lexicon [] [] := by
  intro limit _
  cases limit <;> rfl

theorem blank {rest : List Char} {tokens : List Token} (scans : Scans lexicon rest tokens) :
    Scans lexicon (' ' :: rest) tokens := by
  intro limit enough
  cases limit with
  | zero => simp at enough
  | succ limit =>
    simp only [scan, ↓reduceIte]
    exact scans limit (by simpa using enough)

theorem token {c : Char} {rest after : List Char} {token : Token} {tokens : List Token}
    (present : c ≠ ' ') (found : nextToken lexicon (c :: rest) = some (token, after))
    (shorter : after.length ≤ rest.length) (scans : Scans lexicon after tokens) :
    Scans lexicon (c :: rest) (token :: tokens) := by
  intro limit enough
  cases limit with
  | zero => simp at enough
  | succ limit =>
    -- a token costs one step of the limit, however many characters it has
    have behind := scans limit (by simp at enough; omega)
    simp only [scan, present, ↓reduceIte, found, behind, Option.map_some]

end Scans

theorem break_ends {rest : List Char} (stop : Mark.Break rest) :
    ∀ c ∈ rest.head?, c.isAlpha = false ∧ c.isDigit = false := by
  intro c member
  rcases stop c member with rfl | rfl | rfl <;> exact ⟨rfl, rfl⟩

theorem Lexicon.Apart.ne_openQuote (apart : lexicon.Apart) {c : Char}
    (plain : c ≠ '[' ∧ c ≠ '`' ∧ c ≠ '"') : c ≠ lexicon.openQuote := by
  intro same
  rcases apart.opening with quote | quote | quote
  · exact plain.1 (same.trans quote)
  · exact plain.2.1 (same.trans quote)
  · exact plain.2.2 (same.trans quote)

namespace Scans

/-- A word is read up to the first character that is no letter. -/
theorem word (apart : lexicon.Apart) (text : String) {rest : List Char} {tokens : List Token}
    (alphabetic : text.toList.all Char.isAlpha = true) (nonempty : text.toList ≠ [])
    (ends : ∀ c ∈ rest.head?, c.isAlpha = false) (scans : Scans lexicon rest tokens) :
    Scans lexicon (text.toList ++ rest) (.word text :: tokens) := by
  have inside := List.all_eq_true.mp alphabetic
  obtain ⟨taken, dropped⟩ := span_run inside ends
  obtain ⟨first, letters, spelled⟩ := List.exists_cons_of_ne_nil nonempty
  have letter := inside first (by simp [spelled])
  have present : first ≠ ' ' := by rintro rfl; simp at letter
  have unquoted : first ≠ lexicon.openQuote := by
    apply apart.ne_openQuote
    refine ⟨?_, ?_, ?_⟩ <;> rintro rfl <;> simp at letter
  rw [spelled, List.cons_append] at taken dropped ⊢
  refine Scans.token present ?_ (by simp) scans
  simp only [nextToken, unquoted, letter, ↓reduceIte, taken, dropped, ← spelled, String.ofList_toList]

theorem digit (apart : lexicon.Apart) {c : Char} {rest : List Char} {tokens : List Token}
    (numeric : c.isDigit = true) (noLetter : c.isAlpha = false)
    (ends : ∀ c ∈ rest.head?, c.isDigit = false) (scans : Scans lexicon rest tokens) :
    Scans lexicon (c :: rest) (.number (digitsValue [c]) :: tokens) := by
  have present : c ≠ ' ' := by rintro rfl; simp at numeric
  have unquoted : c ≠ lexicon.openQuote := by
    apply apart.ne_openQuote
    refine ⟨?_, ?_, ?_⟩ <;> rintro rfl <;> simp at numeric
  have inside : ∀ digit ∈ [c], digit.isDigit = true := by simpa using numeric
  obtain ⟨taken, dropped⟩ := span_run inside ends
  refine Scans.token present ?_ (Nat.le_refl _) scans
  simp only [List.cons_append, List.nil_append] at taken dropped
  simp only [nextToken, unquoted, noLetter, numeric, Bool.false_eq_true, ↓reduceIte, taken, dropped]

theorem symbol (apart : lexicon.Apart) {c : Char} {rest after : List Char} {token : Token}
    {tokens : List Token} (listed : c ∈ ['(', ')', ',', '=', '<', '>'])
    (found : scanSymbol (c :: rest) = some (token, after)) (shorter : after.length ≤ rest.length)
    (scans : Scans lexicon after tokens) : Scans lexicon (c :: rest) (token :: tokens) := by
  have kinds : c ≠ ' ' ∧ (c ≠ '[' ∧ c ≠ '`' ∧ c ≠ '"') ∧ c ∉ signs ∧ c.isAlpha = false ∧
      c.isDigit = false := by
    simp only [List.mem_cons, List.not_mem_nil, or_false] at listed
    rcases listed with rfl | rfl | rfl | rfl | rfl | rfl <;> decide
  obtain ⟨present, plain, noSign, noLetter, noDigit⟩ := kinds
  have unquoted := apart.ne_openQuote plain
  have unmarked := apart.unmarked c noSign rest
  refine Scans.token present ?_ shorter scans
  simp only [nextToken, unquoted, noLetter, noDigit, Bool.false_eq_true, ↓reduceIte, unmarked,
    found, Option.orElse_none]

theorem openParen (apart : lexicon.Apart) {rest : List Char} {tokens : List Token}
    (scans : Scans lexicon rest tokens) : Scans lexicon ('(' :: rest) (.openParen :: tokens) :=
  symbol apart (by simp) rfl (Nat.le_refl _) scans

theorem closeParen (apart : lexicon.Apart) {rest : List Char} {tokens : List Token}
    (scans : Scans lexicon rest tokens) : Scans lexicon (')' :: rest) (.closeParen :: tokens) :=
  symbol apart (by simp) rfl (Nat.le_refl _) scans

theorem comparison (apart : lexicon.Apart) (op : Comparison) {rest : List Char}
    {tokens : List Token} (scans : Scans lexicon rest tokens) :
    Scans lexicon (op.sql.toList ++ ' ' :: rest) (.comparison op :: tokens) := by
  have behind := scans.blank
  cases op with
  | eq => exact symbol apart (by decide) rfl (Nat.le_refl _) behind
  | lt => exact symbol apart (by decide) rfl (Nat.le_refl _) behind
  | gt => exact symbol apart (by decide) rfl (Nat.le_refl _) behind
  | ne => exact symbol apart (by decide) rfl (Nat.le_succ _) behind
  | le => exact symbol apart (by decide) rfl (Nat.le_succ _) behind
  | ge => exact symbol apart (by decide) rfl (Nat.le_succ _) behind

end Scans

theorem scanName_cons {close c : Char} {text : List Char} (other : c ≠ close) (more : text ≠ []) :
    scanName close (c :: text) =
      (scanName close text).map fun (name, after) => (c :: name, after) := by
  cases text with
  | nil => exact absurd rfl more
  | cons next rest => simp only [scanName, other, ↓reduceIte]

/-- Scanning undoes the doubling of closing quotes, up to the first that stands alone. -/
theorem scanName_escapeClosing {close : Char} {rest : List Char}
    (ends : ∀ c ∈ rest.head?, c ≠ close) (name : List Char) :
    scanName close (escapeClosing close name ++ close :: rest) = some (name, rest) := by
  induction name with
  | nil =>
    cases rest with
    | nil => simp [escapeClosing, scanName]
    | cons c rest => simp [escapeClosing, scanName, ends c rfl]
  | cons c name ih =>
    simp only [escapeClosing] at ih
    -- a closing quote of the name was doubled, and the pair is read as one
    by_cases doubled : c = close
    · simp [escapeClosing, doubled, scanName, ih]
    · have single : escapeClosing close (c :: name) = c :: escapeClosing close name := by
        simp [escapeClosing, doubled]
      rw [single, List.cons_append, scanName_cons doubled (by simp), escapeClosing, ih]
      rfl

namespace Scans

/-- A quoted name is read as the name it stands for, whatever characters the name has. -/
theorem name (apart : lexicon.Apart) {rest : List Char} {tokens : List Token} (column : String)
    (ends : ∀ c ∈ rest.head?, c ≠ lexicon.closeQuote) (scans : Scans lexicon rest tokens) :
    Scans lexicon ((quoteWith lexicon.openQuote lexicon.closeQuote column).toList ++ rest)
      (.name column :: tokens) := by
  have quoted : (quoteWith lexicon.openQuote lexicon.closeQuote column).toList ++ rest =
      lexicon.openQuote :: (escapeClosing lexicon.closeQuote column.toList ++
        lexicon.closeQuote :: rest) := by
    simp [quoteWith]
  have present : lexicon.openQuote ≠ ' ' := by
    rcases apart.opening with quote | quote | quote <;> rw [quote] <;> decide
  rw [quoted]
  refine Scans.token present ?_ ?_ scans
  · simp [nextToken, scanName_escapeClosing ends]
  · simp
    omega

end Scans

theorem digitsValue_toDigits (value : Nat) : digitsValue (Nat.toDigits 10 value) = value := by
  have read := Nat.ofDigitChars_ten_toDigits (n := value)
  rwa [Nat.ofDigitChars_eq_foldl] at read

theorem scanMarker_numbered (lead : List Char) (first value : Nat) {rest : List Char}
    (stop : Mark.Break rest) :
    scanMarker (.numbered lead first) (lead ++ (toString value).toList ++ rest) =
      some (.param (value - first), rest) := by
  have digits : ∀ c ∈ Nat.toDigits 10 value, c.isDigit = true :=
    fun c member => Nat.isDigit_of_mem_toDigits (by decide) (by decide) member
  obtain ⟨taken, dropped⟩ := span_run digits fun c member => (break_ends stop c member).2
  have some : Nat.toDigits 10 value ≠ [] := Nat.toDigits_ne_nil
  simp [scanMarker, taken, dropped, digitsValue_toDigits, some]

/-- Placeholders that a marker describes: a sign and perhaps a letter and digits, read as a
token in front of a break. -/
structure Marker.Writes (marker : Marker) (placeholder : Nat → String) (token : Nat → Token) :
    Prop where
  spelled : ∀ index, ∃ sign ∈ signs, ∃ text, (placeholder index).toList = sign :: text ∧
    ∀ c ∈ text, c = 'p' ∨ c.isDigit = true
  read : ∀ index rest, Mark.Break rest →
    scanMarker marker ((placeholder index).toList ++ rest) = some (token index, rest)

theorem digit_of_toString {value : Nat} {c : Char} (member : c ∈ (toString value).toList) :
    c.isDigit = true := by
  have digit : c ∈ Nat.toDigits 10 value := by simpa using member
  exact Nat.isDigit_of_mem_toDigits (by decide) (by decide) digit

theorem Marker.shared_writes :
    Marker.Writes (.numbered ['@'] 0) (fun index => "@" ++ toString index) .param where
  spelled index :=
    ⟨'@', by decide, (toString index).toList, by simp, fun _ member => .inr (digit_of_toString member)⟩
  read index rest stop := by simpa using scanMarker_numbered ['@'] 0 index stop

def nativeToken : Dialect → Nat → Token
  | .sqlite, _ => .anonymous
  | .mySql, _ => .anonymous
  | _, index => .param index

theorem Marker.native_writes (dialect : Dialect) :
    (nativeMarker dialect).Writes (fun index => dialect.placeholder (index + 1))
      (nativeToken dialect) where
  spelled index := by
    have digits := fun c member => Or.inr (a := c = 'p') (@digit_of_toString (index + 1) c member)
    cases dialect with
    | sqlServer =>
      refine ⟨'@', by decide, 'p' :: (toString (index + 1)).toList, by simp [Dialect.placeholder], ?_⟩
      rintro c (_ | ⟨_, member⟩)
      · exact .inl rfl
      · exact digits c member
    | postgresql => exact ⟨'$', by decide, _, by simp [Dialect.placeholder], digits⟩
    | oracle => exact ⟨':', by decide, _, by simp [Dialect.placeholder], digits⟩
    | sqlite => exact ⟨'?', by decide, [], by simp [Dialect.placeholder], by simp⟩
    | mySql => exact ⟨'?', by decide, [], by simp [Dialect.placeholder], by simp⟩
  read index rest stop := by
    cases dialect with
    | sqlServer =>
      simpa [Dialect.placeholder, nativeMarker, nativeToken] using
        scanMarker_numbered ['@', 'p'] 1 (index + 1) stop
    | postgresql =>
      simpa [Dialect.placeholder, nativeMarker, nativeToken] using
        scanMarker_numbered ['$'] 1 (index + 1) stop
    | oracle =>
      simpa [Dialect.placeholder, nativeMarker, nativeToken] using
        scanMarker_numbered [':'] 1 (index + 1) stop
    | sqlite => simp [Dialect.placeholder, nativeMarker, nativeToken, scanMarker]
    | mySql => simp [Dialect.placeholder, nativeMarker, nativeToken, scanMarker]

theorem Scans.marker (apart : lexicon.Apart) {placeholder : Nat → String} {token : Nat → Token}
    (writes : lexicon.marker.Writes placeholder token) (index : Nat) {rest : List Char}
    {tokens : List Token} (stop : Mark.Break rest) (scans : Scans lexicon rest tokens) :
    Scans lexicon ((placeholder index).toList ++ rest) (token index :: tokens) := by
  obtain ⟨sign, listed, text, spelled, _⟩ := writes.spelled index
  have read := writes.read index rest stop
  have kinds : sign ≠ ' ' ∧ (sign ≠ '[' ∧ sign ≠ '`' ∧ sign ≠ '"') ∧ sign.isAlpha = false ∧
      sign.isDigit = false := by
    simp only [signs, List.mem_cons, List.not_mem_nil, or_false] at listed
    rcases listed with rfl | rfl | rfl | rfl <;> decide
  obtain ⟨present, plain, noLetter, noDigit⟩ := kinds
  have unquoted := apart.ne_openQuote plain
  rw [spelled, List.cons_append] at read ⊢
  refine Scans.token present ?_ (by simp) scans
  simp only [nextToken, unquoted, noLetter, noDigit, Bool.false_eq_true, ↓reduceIte, read,
    Option.orElse_some]

end Sql

open Sql

def Phrase.tokens : Phrase → List Token
  | .openParen => [.openParen]
  | .closeParen => [.closeParen]
  | .notOpen => [.word "NOT", .openParen]
  | .connective word => [.word word.sql]
  | .comparison op => [.comparison op]
  | .nullTest false => [.word "IS", .word "NULL"]
  | .nullTest true => [.word "IS", .word "NOT", .word "NULL"]
  | .amongOpen => [.word "IN", .openParen]
  | .arrayOpen => [.comparison .eq, .word "ANY", .openParen]
  | .tableOpen => [.word "IN", .openParen, .word "SELECT", .word "V", .word "FROM"]
  | .comma => [.comma]
  | .never => [.number 1, .comparison .eq, .number 0]

/-- The text of a phrase is read as its tokens; a loose one needs a break behind it. -/
theorem Phrase.scans {lexicon : Lexicon} (apart : lexicon.Apart) (phrase : Phrase)
    {rest : List Char} {tokens : List Token}
    (stop : (Mark.fixed phrase).loose = true → Mark.Break rest)
    (scans : Scans lexicon rest tokens) :
    Scans lexicon (phrase.text.toList ++ rest) (phrase.tokens ++ tokens) := by
  have blankEnds : ∀ rest : List Char, ∀ c ∈ (' ' :: rest).head?, c.isAlpha = false := by
    rintro rest c ⟨⟩
    rfl
  cases phrase with
  | openParen =>
    rw [show openParen.text.toList ++ rest = '(' :: rest by simp [text]]
    exact scans.openParen apart
  | closeParen =>
    rw [show closeParen.text.toList ++ rest = ')' :: rest by simp [text]]
    exact scans.closeParen apart
  | comma =>
    rw [show comma.text.toList ++ rest = ',' :: ' ' :: rest by simp [text]]
    exact scans.blank.symbol apart (by simp) rfl (Nat.le_refl _)
  | comparison op =>
    rw [show (comparison op).text.toList ++ rest = ' ' :: (op.sql.toList ++ ' ' :: rest) by
      simp [text]]
    exact (scans.comparison apart op).blank
  | connective word =>
    rw [show (connective word).text.toList ++ rest = ' ' :: (word.sql.toList ++ ' ' :: rest) by
      simp [text]]
    have joined := scans.blank.word apart word.sql (by cases word <;> decide)
      (by cases word <;> decide) (blankEnds rest)
    exact joined.blank
  | notOpen =>
    rw [show notOpen.text.toList ++ rest = "NOT".toList ++ ' ' :: '(' :: rest by simp [text]]
    exact (scans.openParen apart).blank.word apart "NOT" (by decide) (by decide) (blankEnds _)
  | amongOpen =>
    rw [show amongOpen.text.toList ++ rest = ' ' :: ("IN".toList ++ ' ' :: '(' :: rest) by
      simp [text]]
    exact ((scans.openParen apart).blank.word apart "IN" (by decide) (by decide) (blankEnds _)).blank
  | arrayOpen =>
    rw [show arrayOpen.text.toList ++ rest =
      ' ' :: (Comparison.eq.sql.toList ++ ' ' :: ("ANY".toList ++ '(' :: rest)) by
      simp [text, Comparison.sql]]
    have any := (scans.openParen apart).word apart "ANY" (by decide) (by decide) (by simp)
    exact (any.comparison apart .eq).blank
  | tableOpen =>
    rw [show tableOpen.text.toList ++ rest = ' ' :: ("IN".toList ++ ' ' :: '(' ::
      ("SELECT".toList ++ ' ' :: ("V".toList ++ ' ' :: ("FROM".toList ++ ' ' :: rest)))) by
      simp [text]]
    have source := scans.blank.word apart "FROM" (by decide) (by decide) (blankEnds _)
    have column := source.blank.word apart "V" (by decide) (by decide) (blankEnds _)
    have chosen := column.blank.word apart "SELECT" (by decide) (by decide) (blankEnds _)
    have opened := (chosen.openParen apart).blank
    exact (opened.word apart "IN" (by decide) (by decide) (blankEnds _)).blank
  | nullTest present =>
    have ends := fun c member => (break_ends (stop rfl) c member).1
    have last := scans.word apart "NULL" (by decide) (by decide) ends
    cases present with
    | false =>
      rw [show (nullTest false).text.toList ++ rest =
        ' ' :: ("IS".toList ++ ' ' :: ("NULL".toList ++ rest)) by simp [text]]
      exact (last.blank.word apart "IS" (by decide) (by decide) (blankEnds _)).blank
    | true =>
      rw [show (nullTest true).text.toList ++ rest =
        ' ' :: ("IS".toList ++ ' ' :: ("NOT".toList ++ ' ' :: ("NULL".toList ++ rest))) by
        simp [text]]
      have denied := last.blank.word apart "NOT" (by decide) (by decide) (blankEnds _)
      exact (denied.blank.word apart "IS" (by decide) (by decide) (blankEnds _)).blank
  | never =>
    rw [show never.text.toList ++ rest =
      '1' :: ' ' :: (Comparison.eq.sql.toList ++ ' ' :: '0' :: rest) by
      simp [text, Mapping.alwaysFalse, Comparison.sql]]
    have zero := scans.digit apart (c := '0') rfl rfl fun c member =>
      (break_ends (stop rfl) c member).2
    exact ((zero.comparison apart .eq).blank).digit apart rfl rfl (by simp)

namespace Mark

def tokensFrom (token : Nat → Token) : (next : Nat) → List Mark → List Token
  | _, [] => []
  | next, .fixed phrase :: rest => phrase.tokens ++ tokensFrom token next rest
  | next, .name column :: rest => .name column :: tokensFrom token next rest
  | next, .bound _ :: rest => token next :: tokensFrom token (next + 1) rest

theorem Orderly.scans {lexicon : Lexicon} (apart : lexicon.Apart) {placeholder : Nat → String}
    {token : Nat → Token} (writes : lexicon.marker.Writes placeholder token) {marks : List Mark}
    (orderly : Orderly marks) (next : Nat) :
    Scans lexicon (textFrom (quoteWith lexicon.openQuote lexicon.closeQuote) placeholder next marks)
      (tokensFrom token next marks) := by
  induction marks generalizing next with
  | nil => exact .nil
  | cons mark marks ih =>
    cases mark with
    | fixed phrase =>
      exact phrase.scans apart (fun loose => orderly.break_behind loose _ _ next)
        (ih orderly.tail next)
    | name column =>
      have stop := orderly.break_behind rfl (quoteWith lexicon.openQuote lexicon.closeQuote)
        placeholder next
      -- a closing quote right behind the name would be read as doubled
      refine (ih orderly.tail next).name apart column fun c member same => ?_
      exact apart.closing (same ▸ by simpa using stop c member)
    | bound value =>
      have stop := orderly.break_behind rfl (quoteWith lexicon.openQuote lexicon.closeQuote)
        placeholder (next + 1)
      exact (ih orderly.tail (next + 1)).marker apart writes next stop

theorem numberFrom_phrase (next : Nat) (phrase : Phrase) (rest : List Token) :
    numberFrom next (phrase.tokens ++ rest) = phrase.tokens ++ numberFrom next rest := by
  cases phrase with
  | nullTest present => cases present <;> rfl
  | _ => rfl

/-- Tokens of marks that carry their numbers are not counted again. -/
theorem numberFrom_params (start next : Nat) (marks : List Mark) :
    numberFrom start (tokensFrom .param next marks) = tokensFrom .param next marks := by
  induction marks generalizing next with
  | nil => rfl
  | cons mark marks ih =>
    cases mark with
    | fixed phrase => rw [tokensFrom, numberFrom_phrase, ih]
    | name column => simp only [tokensFrom, numberFrom, ih]
    | bound value => simp only [tokensFrom, numberFrom, ih]

theorem numberFrom_anonymous (start next : Nat) (marks : List Mark) :
    numberFrom start (tokensFrom (fun _ => .anonymous) next marks) =
      tokensFrom .param start marks := by
  induction marks generalizing start next with
  | nil => rfl
  | cons mark marks ih =>
    cases mark with
    | fixed phrase => rw [tokensFrom, numberFrom_phrase, ih, tokensFrom]
    | name column => simp only [tokensFrom, numberFrom, ih]
    | bound value => simp only [tokensFrom, numberFrom, ih]

theorem numberFrom_native (dialect : Dialect) (marks : List Mark) :
    numberFrom 0 (tokensFrom (nativeToken dialect) 0 marks) = tokensFrom .param 0 marks := by
  cases dialect with
  | sqlite => exact numberFrom_anonymous 0 0 marks
  | mySql => exact numberFrom_anonymous 0 0 marks
  | _ => exact numberFrom_params 0 0 marks

variable {marks : List Mark} (orderly : Orderly marks) (dialect : Dialect) {text : String}
include orderly

theorem tokens_sharedFrom {next : Nat} (spelled : text.toList =
      textFrom dialect.style.quote (fun index => "@" ++ toString index) next marks) :
    tokens (.shared dialect) text = some (tokensFrom .param next marks) := by
  have scanned := orderly.scans (Lexicon.shared_apart dialect) Marker.shared_writes next
  have whole := scanned text.length (by rw [← String.length_toList, spelled]; exact Nat.le_refl _)
  rw [tokens, spelled]
  refine (congrArg (Option.map (numberFrom 0)) whole).trans ?_
  simp only [Option.map_some, numberFrom_params]

theorem tokens_shared (spelled : text.toList =
      textFrom dialect.style.quote (fun index => "@" ++ toString index) 0 marks) :
    tokens (.shared dialect) text = some (tokensFrom .param 0 marks) :=
  tokens_sharedFrom orderly dialect spelled

/-- The text that is sent to a database starts with a word of its own. -/
theorem tokens_native (spelled : text.toList =
      textFrom dialect.style.quote (fun index => dialect.placeholder (index + 1)) 0 marks) :
    tokens (.native dialect) ("WHERE " ++ text) =
      some (.word "WHERE" :: tokensFrom .param 0 marks) := by
  have apart := Lexicon.native_apart dialect
  have scanned := (orderly.scans apart (Marker.native_writes dialect) 0).blank.word apart "WHERE"
    (by decide) (by decide) (by simp)
  have written : ("WHERE " ++ text).toList = "WHERE".toList ++ ' ' :: text.toList := by simp
  rw [tokens, written, spelled]
  have whole := scanned ("WHERE " ++ text).length (by
    rw [← String.length_toList, written, spelled]
    exact Nat.le_refl _)
  refine (congrArg (Option.map (numberFrom 0)) whole).trans ?_
  simp only [Option.map_some, numberFrom, numberFrom_native]

end Mark

end WhereClause
