import Mathlib.Data.List.Forall2

/-! Failures on the way through a list. The way ends with the first member that fails, behind members
that do not, and has a result for each member otherwise. -/
namespace ShaderGraph

/-- A member of a list fails with an error, and no member in front of it fails. -/
def FirstFailure (fails : α → ε → Prop) (list : List α) (error : ε) : Prop :=
  ∃ front a back, list = front ++ a :: back ∧
    (∀ earlier ∈ front, ∀ other, ¬fails earlier other) ∧ fails a error

variable {fails : α → ε → Prop} {list : List α} {error : ε}

theorem not_firstFailure_nil : ¬FirstFailure fails [] error := by
  rintro ⟨front, a, back, split, _⟩
  simp at split

theorem firstFailure_cons {a : α} : FirstFailure fails (a :: list) error ↔
    fails a error ∨ (∀ other, ¬fails a other) ∧ FirstFailure fails list error := by
  constructor
  · rintro ⟨front, b, back, split, clean, failed⟩
    cases front with
    | nil =>
      obtain ⟨rfl, _⟩ := List.cons.inj split
      exact .inl failed
    | cons c front =>
      obtain ⟨rfl, rfl⟩ := List.cons.inj split
      obtain ⟨first, clean⟩ := List.forall_mem_cons.mp clean
      exact .inr ⟨first, front, b, back, rfl, clean, failed⟩
  · rintro (failed | ⟨first, front, b, back, rfl, clean, failed⟩)
    · exact ⟨[], a, list, rfl, by simp, failed⟩
    · exact ⟨a :: front, b, back, rfl, List.forall_mem_cons.mpr ⟨first, clean⟩, failed⟩

/-- Something fails first if anything fails. -/
theorem exists_firstFailure :
    (∃ error, FirstFailure fails list error) ↔ ∃ a ∈ list, ∃ error, fails a error := by
  constructor
  · rintro ⟨error, front, a, back, rfl, _, failed⟩
    exact ⟨a, by simp, error, failed⟩
  · intro failing
    induction list with
    | nil => simp at failing
    | cons a rest ih =>
      simp only [firstFailure_cons, exists_or, exists_and_left]
      by_cases first : ∃ error, fails a error
      · exact .inl first
      · refine .inr ⟨not_exists.mp first, ih ?_⟩
        obtain ⟨b, member, failed⟩ := failing
        rcases List.mem_cons.mp member with rfl | member
        · exact absurd failed first
        · exact ⟨b, member, failed⟩

/-- Lists whose members fail alike have the same first failure. -/
theorem firstFailure_congr {others : β → ε → Prop} {more : List β}
    (same : List.Forall₂ (fun a b => ∀ error, fails a error ↔ others b error) list more) :
    FirstFailure fails list error ↔ FirstFailure others more error := by
  induction same with
  | nil => exact iff_of_false not_firstFailure_nil not_firstFailure_nil
  | cons first _ ih => simp only [firstFailure_cons, first, ih]

theorem bind_eq_error {result : Except ε α} {f : α → Except ε β} :
    (result >>= f) = .error error ↔
      result = .error error ∨ ∃ a, result = .ok a ∧ f a = .error error := by
  cases result <;> simp [bind, Except.bind]

theorem bind_eq_ok {result : Except ε α} {f : α → Except ε β} {b : β} :
    (result >>= f) = .ok b ↔ ∃ a, result = .ok a ∧ f a = .ok b := by
  cases result <;> simp [bind, Except.bind]

theorem mapM_eq_error {f : α → Except ε β} : list.mapM f = .error error ↔
    FirstFailure (fun a error => f a = .error error) list error := by
  induction list with
  | nil => exact iff_of_false nofun not_firstFailure_nil
  | cons a rest ih =>
    rw [List.mapM_cons, firstFailure_cons, ← ih]
    cases first : f a with
    | error cause => simp [bind, Except.bind]
    | ok b => cases rest.mapM f <;> simp [bind, Except.bind, pure, Except.pure]

theorem mapM_eq_ok {f : α → Except ε β} {results : List β} : list.mapM f = .ok results ↔
    List.Forall₂ (fun a b => f a = .ok b) list results := by
  induction list generalizing results with
  | nil => simp [pure, Except.pure, eq_comm]
  | cons a rest ih =>
    rw [List.mapM_cons, List.forall₂_cons_left_iff]
    simp only [← ih]
    cases first : f a with
    | error cause => simp [bind, Except.bind]
    | ok b => cases rest.mapM f <;> simp [bind, Except.bind, pure, Except.pure, eq_comm]

/-- A fold ends with the first member that fails, if that does not depend on the state that it has come
to by then, as long as the state is sound. -/
theorem foldlM_eq_error {step : β → α → Except ε β} {sound : β → Prop}
    (failing : ∀ state a error, sound state → (step state a = .error error ↔ fails a error))
    (keeps : ∀ state a next, sound state → step state a = .ok next → sound next)
    {state : β} (start : sound state) :
    list.foldlM step state = .error error ↔ FirstFailure fails list error := by
  induction list generalizing state with
  | nil => exact iff_of_false nofun not_firstFailure_nil
  | cons a rest ih =>
    simp only [List.foldlM_cons, firstFailure_cons, ← failing state a _ start]
    cases first : step state a with
    | error cause => simp [bind, Except.bind]
    | ok next => simpa [bind, Except.bind] using ih (keeps state a next start first)

end ShaderGraph
