import Mathlib.Data.List.Forall2

/-! What the success or the failure of a computation says about its steps. -/

set_option autoImplicit false

namespace WhereClause

variable {ε α β : Type}

theorem bind_eq_ok {first : Except ε α} {next : α → Except ε β} {result : β} :
    (first >>= next) = .ok result ↔ ∃ value, first = .ok value ∧ next value = .ok result := by
  cases first with
  | error issue => simp [bind, Except.bind]
  | ok value => simp [bind, Except.bind]

theorem bind_eq_error {first : Except ε α} {next : α → Except ε β} {issue : ε} :
    (first >>= next) = .error issue ↔
      first = .error issue ∨ ∃ value, first = .ok value ∧ next value = .error issue := by
  cases first with
  | error other => simp [bind, Except.bind]
  | ok value => simp [bind, Except.bind]

theorem pure_eq_ok {value result : α} : (pure value : Except ε α) = .ok result ↔ value = result := by
  simp [pure, Except.pure]

theorem map_eq_ok {transform : α → β} {first : Except ε α} {result : β} :
    first.map transform = .ok result ↔ ∃ value, first = .ok value ∧ transform value = result := by
  cases first with
  | error issue => simp [Except.map]
  | ok value => simp [Except.map]

theorem mapError_eq_ok {ε' : Type} {transform : ε → ε'} {first : Except ε α} {result : α} :
    first.mapError transform = .ok result ↔ first = .ok result := by
  cases first with
  | error issue => simp [Except.mapError]
  | ok value => simp [Except.mapError]

theorem mapM_eq_ok {step : α → Except ε β} {items : List α} {results : List β} :
    items.mapM step = .ok results ↔
      List.Forall₂ (fun item result => step item = .ok result) items results := by
  induction items generalizing results with
  | nil => simp [pure, Except.pure, eq_comm]
  | cons item items ih =>
    simp only [List.mapM_cons, bind_eq_ok, pure_eq_ok, ih, List.forall₂_cons_left_iff]
    constructor
    · rintro ⟨result, done, rest, restDone, same⟩
      exact ⟨result, rest, done, restDone, same.symm⟩
    · rintro ⟨result, rest, done, restDone, same⟩
      exact ⟨result, done, rest, restDone, same.symm⟩

theorem mapM_eq_some {step : α → Except ε β} {other : α → Option β}
    (agree : ∀ {item result}, step item = .ok result → other item = some result)
    {items : List α} {results : List β} (processed : items.mapM step = .ok results) :
    items.mapM other = some results := by
  have pairs := mapM_eq_ok.mp processed
  clear processed
  induction pairs with
  | nil => rfl
  | cons done _ ih => simp [List.mapM_cons, agree done, ih]

theorem mapM_some_iff {step : α → Option β} {items : List α} {results : List β} :
    items.mapM step = some results ↔
      List.Forall₂ (fun item result => step item = some result) items results := by
  induction items generalizing results with
  | nil => simp [eq_comm]
  | cons item items ih =>
    simp only [List.mapM_cons, Option.bind_eq_bind, Option.bind_eq_some_iff, Option.pure_def,
      Option.some.injEq, ih, List.forall₂_cons_left_iff]
    constructor
    · rintro ⟨result, done, rest, restDone, same⟩
      exact ⟨result, rest, done, restDone, same.symm⟩
    · rintro ⟨result, rest, done, restDone, same⟩
      exact ⟨result, done, rest, restDone, same.symm⟩

theorem exists_mapM_some {step : α → Option β} {items : List α}
    (each : ∀ item ∈ items, ∃ result, step item = some result) :
    ∃ results, items.mapM step = some results := by
  induction items with
  | nil => exact ⟨[], rfl⟩
  | cons item items ih =>
    obtain ⟨result, done⟩ := each item (by simp)
    obtain ⟨results, restDone⟩ := ih fun other member => each other (by simp [member])
    exact ⟨result :: results, by simp [done, restDone]⟩

theorem mapM_mem {step : α → Except ε β} {items : List α} {results : List β}
    (processed : items.mapM step = .ok results) {result : β} (member : result ∈ results) :
    ∃ item ∈ items, step item = .ok result := by
  have pairs := mapM_eq_ok.mp processed
  induction pairs with
  | nil => cases member
  | @cons item first items rest done _ ih =>
    rcases List.mem_cons.mp member with same | member
    · exact ⟨item, by simp, same ▸ done⟩
    · obtain ⟨other, found, otherDone⟩ := ih (mapM_eq_ok.mpr ‹_›) member
      exact ⟨other, by simp [found], otherDone⟩

theorem exists_mapM_eq_ok {step : α → Except ε β} {items : List α} :
    (∃ results, items.mapM step = .ok results) ↔ ∀ item ∈ items, ∃ result, step item = .ok result := by
  induction items with
  | nil => simp [pure, Except.pure]
  | cons item items ih =>
    simp only [List.mapM_cons, bind_eq_ok, pure_eq_ok, List.forall_mem_cons, ← ih]
    constructor
    · rintro ⟨_, result, done, rest, restDone, _⟩
      exact ⟨⟨result, done⟩, rest, restDone⟩
    · rintro ⟨⟨result, done⟩, rest, restDone⟩
      exact ⟨result :: rest, result, done, rest, restDone, rfl⟩

/-- Processing a list fails as the first item that fails does, whatever comes behind it. -/
theorem mapM_eq_error {step : α → Except ε β} {items : List α} {issue : ε} :
    items.mapM step = .error issue ↔ ∃ front item back, items = front ++ item :: back ∧
      (∀ earlier ∈ front, ∃ result, step earlier = .ok result) ∧ step item = .error issue := by
  constructor
  · intro failed
    induction items with
    | nil => cases failed
    | cons item items ih =>
      rw [List.mapM_cons, bind_eq_error] at failed
      rcases failed with here | ⟨result, done, failed⟩
      · exact ⟨[], item, items, rfl, by simp, here⟩
      · rcases bind_eq_error.mp failed with behind | ⟨_, _, impossible⟩
        · obtain ⟨front, other, back, rfl, earlier, here⟩ := ih behind
          refine ⟨item :: front, other, back, rfl, ?_, here⟩
          exact List.forall_mem_cons.mpr ⟨⟨result, done⟩, earlier⟩
        · cases impossible
  · rintro ⟨front, item, back, rfl, earlier, here⟩
    obtain ⟨results, done⟩ := exists_mapM_eq_ok.mpr earlier
    rw [List.mapM_append, done, List.mapM_cons, here]
    rfl

end WhereClause
