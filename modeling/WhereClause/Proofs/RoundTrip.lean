import WhereClause.Proofs.Wording

/-! Reading a predicate back from its text.

Booleans, integers, decimals, strings and lists of these are written as literals, and members and
variables as paths. A predicate built from operands that are written so is read back from its own
text, decimals with their places, provided that no path which is no null test ends like one and
that the variables have the values that the predicate captured.
-/

set_option autoImplicit false

namespace WhereClause

open Reader

namespace Value

inductive Writable : Value → Prop where
  | bool (value : Bool) : Writable (.bool value)
  | int (value : Int32) : Writable (.int value)
  | bigInt (value : Int64) : Writable (.bigInt value)
  | decimal (value : Decimal) (unsigned : value.mantissa = 0 → value.negative = false) :
      Writable (.decimal value)
  | string (value : String) : Writable (.string value)
  | list (items : List Value) (writable : ∀ item ∈ items, Writable item) : Writable (.ofItems items)

theorem quotedOnto_eq (text : String) (after : List Char) :
    quotedOnto text after = '"' :: (text.toList.flatMap escapeChar ++ '"' :: after) := by
  have escaped (chars : List Char) :
      chars.foldr (fun c rest => escapeChar c ++ rest) ('"' :: after) =
        chars.flatMap escapeChar ++ '"' :: after := by
    induction chars with
    | nil => rfl
    | cons c chars ih => rw [List.foldr_cons, ih, List.flatMap_cons, List.append_assoc]
  rw [quotedOnto, escaped]

/-- Escapes are undone, up to the closing quote. -/
theorem stringBody_escaped (chars rest : List Char) :
    stringBody (chars.flatMap escapeChar ++ '"' :: rest) = .done chars rest := by
  induction chars with
  | nil => rfl
  | cons c chars ih =>
    rw [List.flatMap_cons, List.append_assoc]
    by_cases backslash : c = '\\'
    · subst backslash
      simp [escapeChar, stringBody, ih]
    · by_cases quote : c = '"'
      · subst quote
        simp [escapeChar, stringBody, ih]
      · simp [escapeChar, backslash, quote, stringBody_plain quote backslash, ih]

/-- In front of whatever follows, a value is written as a literal that stands for it. -/
def Stands (value : Value) : Prop :=
  ∃ text, LiteralText text value ∧ ∀ after, value.charsOnto after = text ++ after

theorem itemsOnto_eq {first : Value} {rest : List Value}
    (stands : ∀ item ∈ first :: rest, item.Stands) :
    ∃ (text : List Char) (items : List Item), LiteralText text first ∧
      (∀ item ∈ items, Gap item.before ∧ Gap item.after) ∧
      (∀ item ∈ items, LiteralText item.text item.value) ∧ items.map Item.value = rest ∧
      ∀ after, itemsOnto (first :: rest) after = text ++ (items.flatMap Item.chars ++ after) := by
  induction rest generalizing first with
  | nil =>
    obtain ⟨text, written, onto⟩ := stands first List.mem_cons_self
    exact ⟨text, [], written, by simp, by simp, rfl, onto⟩
  | cons next rest ih =>
    obtain ⟨text, written, onto⟩ := stands first List.mem_cons_self
    obtain ⟨nextText, items, nextWritten, spaced, literals, rfl, itemsOnto⟩ :=
      ih fun item member => stands item (List.mem_cons_of_mem _ member)
    let item : Item := { before := [], after := [' '], text := nextText, value := next }
    refine ⟨text, item :: items, written, ?_, ?_, rfl, fun after => ?_⟩
    · exact List.forall_mem_cons.mpr ⟨⟨.nil, .blank⟩, spaced⟩
    · exact List.forall_mem_cons.mpr ⟨nextWritten, literals⟩
    · rw [Value.itemsOnto, onto, itemsOnto]
      simp [item, Item.chars]

theorem stands_ofItems {items : List Value} (stands : ∀ item ∈ items, item.Stands) :
    (ofItems items).Stands := by
  cases items with
  | nil => exact ⟨"[]".toList, .empty .nil, fun after => rfl⟩
  | cons first rest =>
    obtain ⟨text, items, written, spaced, literals, rfl, onto⟩ := itemsOnto_eq stands
    refine ⟨_, .list .nil written spaced literals .nil, fun after => ?_⟩
    rw [ofItems, charsOnto, onto]
    simp

theorem Writable.stands {value : Value} (writable : value.Writable) : value.Stands := by
  induction writable with
  | bool value =>
    have yes : ("true", Value.bool true) ∈ constantWords := List.mem_cons_self
    have no : ("false", Value.bool false) ∈ constantWords := List.mem_cons_of_mem _ List.mem_cons_self
    cases value with
    | true => exact ⟨_, .word yes, fun after => rfl⟩
    | false => exact ⟨_, .word no, fun after => rfl⟩
  | int value => exact ⟨_, .number (numberText_int value), fun after => by rw [charsOnto]⟩
  | bigInt value => exact ⟨_, .number (numberText_bigInt value), fun after => by simp [charsOnto]⟩
  | decimal value unsigned =>
    exact ⟨_, .number (numberText_decimal value unsigned), fun after => by simp [charsOnto]⟩
  | string value =>
    refine ⟨'"' :: (value.toList.flatMap escapeChar ++ ['"']), ?_, fun after => ?_⟩
    · have written := LiteralText.string (stringBody_escaped value.toList [])
      rwa [String.ofList_toList] at written
    · simp [charsOnto, quotedOnto_eq]
  | list items _ stands => exact stands_ofItems stands

theorem Writable.written {value : Value} (writable : value.Writable) :
    LiteralText value.render.toList value := by
  obtain ⟨text, written, onto⟩ := writable.stands
  rwa [render, String.toList_ofList, onto, List.append_nil]

end Value

namespace Operand

def Refers (scope : Variables) : Operand → Prop
  | .constant _ _ => False
  | .field path => path.Proper
  | .captured path value => path.Proper ∧ scope.get? path.dotted = some value

/-- A constant that a literal stands for, or a path that does not end like a null test. -/
def Legible (scope : Variables) : Operand → Prop
  | .constant value type => value.Writable ∧ type = value.type
  | operand => operand.Refers scope ∧ operand.path.Plain

variable {scope : Variables} {operand : Operand}

theorem Refers.written (refers : operand.Refers scope) :
    ReferenceText defaultParameter scope operand.render.toList operand := by
  cases operand with
  | constant value type => exact refers.elim
  | field path =>
    have spelled : (render (.field path)).toList =
        defaultParameter.toList ++ '.' :: path.dotted.toList := by
      simp [render, defaultParameter]
    rw [spelled]
    exact .field path refers
  | captured path value =>
    obtain ⟨proper, held⟩ := refers
    have spelled : (render (.captured path value)).toList = '$' :: path.dotted.toList := by
      simp [render]
    rw [spelled]
    exact .captured path value proper held

theorem Legible.written (legible : operand.Legible scope) :
    OperandText defaultParameter scope operand.render.toList operand := by
  cases operand with
  | constant value type =>
    obtain ⟨writable, rfl⟩ := legible
    have written := writable.written
    exact .literal written.trimmed ((readLiteral_eq_ok written.trimmed).mpr written)
  | field path => exact .reference legible.1.written legible.2
  | captured path value => exact .reference legible.1.written legible.2

end Operand

namespace Predicate

/-- A predicate whose operands can be read back. A null test stands behind any path. -/
def Legible (scope : Variables) : Predicate → Prop
  | .compare _ left right => left.Legible scope ∧ right.Legible scope
  | .not inner => inner.Legible scope
  | .and left right => left.Legible scope ∧ right.Legible scope
  | .or left right => left.Legible scope ∧ right.Legible scope
  | .isNull tested => tested.Refers scope
  | .isNotNull tested => tested.Refers scope
  | .member item collection => item.Legible scope ∧ ∀ value ∈ collection, value.Writable
  | .truth tested => tested.Legible scope

variable {scope : Variables} {predicate : Predicate}

theorem written_joined (word : Word) {sign : String} (known : sign ∈ word.signs)
    {first second : List Char} {left right : Predicate}
    (leftWritten : PredicateText defaultParameter scope .atom first left)
    (rightWritten : PredicateText defaultParameter scope .atom second right) :
    PredicateText defaultParameter scope .atom
      ('(' :: (first ++ (' ' :: (sign.toList ++ (' ' :: second))) ++ [')']))
      (word.predicate left right) := by
  have tight : Apart sign.toList ([' '] ++ second) := fun _ => .cons (by decide) second
  have leftLifted : PredicateText defaultParameter scope word.tighter first left := by
    cases word with
    | and => exact leftWritten
    | or => exact .lift .and leftWritten
  have rightLifted : PredicateText defaultParameter scope word.tighter second right := by
    cases word with
    | and => exact rightWritten
    | or => exact .lift .and rightWritten
  exact .group [] [] .nil
    (.join word sign [' '] [' '] (.lift word leftLifted) .blank known .blank rightLifted
      (.blank first _) tight) .nil

/-- Every predicate is written so that it can stand next to any connective. -/
theorem Legible.written (legible : predicate.Legible scope) :
    PredicateText defaultParameter scope .atom predicate.render.toList predicate := by
  -- each case cuts the text the way the texts of predicates are cut
  induction predicate with
  | compare op left right =>
    have spelled : (render (.compare op left right)).toList =
        left.render.toList ++ ([' '] ++ (op.symbol.toList ++ ([' '] ++ right.render.toList))) := by
      simp [render]
    rw [spelled]
    exact .compare op [' '] [' '] legible.1.written .blank .blank legible.2.written
  | not inner ih =>
    have spelled : (render (.not inner)).toList =
        "!".toList ++ ([] ++ '(' :: ([] ++ (inner.render.toList ++ ([] ++ [')'])))) := by
      simp [render]
    rw [spelled]
    exact .not "!" [] (by decide) .nil (.group [] [] .nil (ih legible) .nil)
      (fun _ => .cons (by decide) _)
  | and left right leftIh rightIh =>
    have spelled : (render (.and left right)).toList =
        '(' :: (left.render.toList ++ (' ' :: ("&&".toList ++ (' ' :: right.render.toList))) ++ [')']) := by
      simp [render]
    rw [spelled]
    exact written_joined .and (by decide) (leftIh legible.1) (rightIh legible.2)
  | or left right leftIh rightIh =>
    have spelled : (render (.or left right)).toList =
        '(' :: (left.render.toList ++ (' ' :: ("||".toList ++ (' ' :: right.render.toList))) ++ [')']) := by
      simp [render]
    rw [spelled]
    exact written_joined .or (by decide) (leftIh legible.1) (rightIh legible.2)
  | isNull tested =>
    have spelled : (render (.isNull tested)).toList =
        tested.render.toList ++ '.' :: (suffix false).toList := by
      simp [render, suffix]
    rw [spelled]
    exact .nullTest false (Operand.Refers.written legible)
  | isNotNull tested =>
    have spelled : (render (.isNotNull tested)).toList =
        tested.render.toList ++ '.' :: (suffix true).toList := by
      simp [render, suffix]
    rw [spelled]
    exact .nullTest true (Operand.Refers.written legible)
  | member item collection =>
    have spelled : (render (.member item collection)).toList = item.render.toList ++
        ([' '] ++ ("in".toList ++ ([' '] ++ (Operand.ofValue (.ofItems collection)).render.toList))) := by
      simp [render, Operand.ofValue, Operand.render]
    obtain ⟨itemLegible, writable⟩ := legible
    have listLegible : (Operand.ofValue (.ofItems collection)).Legible scope :=
      ⟨.list collection writable, rfl⟩
    rw [spelled]
    exact .member [' '] [' '] itemLegible.written .blank .blank listLegible.written rfl
      (.blank _ _) (fun _ => .cons (by decide) _)
  | truth tested => exact .truth (Operand.Legible.written legible)

/-- A predicate is read back from its own text. -/
theorem readPredicate_render (legible : predicate.Legible scope) :
    readPredicate predicate.render scope = .ok predicate := by
  have read := readPredicate_bare .nil (.lift .or (.lift .and legible.written)) .nil
  rwa [List.append_nil, List.nil_append, String.ofList_toList] at read

/-- A negative decimal with its last zero, lists inside a list, quotes and a backslash, the least
integers, and a variable whose path ends like a null test. -/
theorem readPredicate_render_nested :
    let least : Value := .int (-2147483648)
    let scope : Variables := { entries := [("since", .null .timestamp), ("limit.has_value", least)] }
    let price : Value :=
      .decimal { negative := true, mantissa := 250, scale := 2, fits := by decide,
                 scale_le := by decide }
    let words : Value := .ofItems [.string "say \"\\\"", .bigInt (-9223372036854775808)]
    let predicate : Predicate := .and
      (.not (.or (.compare .ge (.field ["price", "net"]) (.ofValue price))
        (.member (.captured ["since"] (.null .timestamp)) [words, .ofItems []])))
      (.isNotNull (.captured ["limit", "has_value"] least))
    let text := "(!((x.price.net >= -2.50m || $since in " ++
      "[[\"say \\\"\\\\\\\"\", -9223372036854775808L], []])) && $limit.has_value.has_value)"
    predicate.Legible scope ∧ predicate.render = text ∧
      readPredicate predicate.render scope = .ok predicate := by
  intro least scope price words predicate text
  have legible : predicate.Legible scope := by
    refine ⟨⟨⟨⟨⟨by decide, by decide⟩, by decide⟩, .decimal _ (by decide), rfl⟩,
      ⟨⟨⟨by decide, by decide⟩, rfl⟩, by decide⟩, ?_⟩, ⟨by decide, by decide⟩, rfl⟩
    have wordsWritable : words.Writable := .list _ (by
      simpa using And.intro (Value.Writable.string _) (Value.Writable.bigInt _))
    simpa using And.intro wordsWritable (Value.Writable.list [] (by simp))
  exact ⟨legible, by rfl, readPredicate_render legible⟩

end Predicate

end WhereClause
