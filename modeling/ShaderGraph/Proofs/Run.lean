import ShaderGraph.Run

/-! Computations that succeed, as a relation between states. A chain of computations succeeds if and
only if each of them does. -/
namespace ShaderGraph.Run

def Returns (x : Run σ ε α) (s : σ) (a : α) (t : σ) : Prop :=
  (x s).result = .ok a ∧ (x s).state = t

variable {s t : σ}

theorem returns_pure {a b : α} : (Pure.pure a : Run σ ε α).Returns s b t ↔ b = a ∧ t = s := by
  simp [Returns, Pure.pure, Run.pure, eq_comm]

theorem returns_bind {x : Run σ ε α} {f : α → Run σ ε β} {b : β} :
    (x >>= f).Returns s b t ↔ ∃ a u, x.Returns s a u ∧ (f a).Returns u b t := by
  simp only [Returns, Bind.bind, Run.bind]
  constructor
  · intro succeeds
    cases first : x s with
    | mk result middle log =>
      cases result with
      | error error => simp [first] at succeeds
      | ok a => exact ⟨a, middle, ⟨rfl, rfl⟩, by simpa [first] using succeeds⟩
  · rintro ⟨a, u, ⟨found, rfl⟩, succeeds⟩
    cases first : x s with
    | mk result middle log =>
      obtain rfl : result = .ok a := by simpa [first] using found
      simpa [first] using succeeds

theorem returns_map {x : Run σ ε α} {f : α → β} {b : β} :
    (f <$> x).Returns s b t ↔ ∃ a, x.Returns s a t ∧ b = f a := by
  change (x >>= fun a => Pure.pure (f a)).Returns s b t ↔ _
  simp only [returns_bind, returns_pure]
  constructor
  · rintro ⟨a, _, found, rfl, rfl⟩
    exact ⟨a, found, rfl⟩
  · rintro ⟨a, found, rfl⟩
    exact ⟨a, t, found, rfl, rfl⟩

theorem returns_ofResult {result : Except ε α} {log : List Record} {a : α} :
    (ofResult result log).Returns s a t ↔ result = .ok a ∧ t = s := by
  simp [Returns, ofResult, eq_comm]

theorem ofResult_bind (a : α) (log : List Record) (f : α → Run σ ε β) (s : σ) :
    ((ofResult (.ok a) log >>= f) s).result = (f a s).result ∧
      ((ofResult (.ok a) log >>= f) s).state = (f a s).state :=
  ⟨rfl, rfl⟩

/-- Chains agree on a state if their first parts do, and their second parts on what comes of it. -/
theorem bind_congr_at {x y : Run σ ε α} {f g : α → Run σ ε β} (first : x s = y s)
    (rest : ∀ a, (y s).result = .ok a → f a (y s).state = g a (y s).state) :
    (x >>= f) s = (y >>= g) s := by
  simp only [Bind.bind, Run.bind, first]
  cases ended : y s with
  | mk result middle log =>
    cases result with
    | error error => rfl
    | ok a =>
      have same := rest a (by rw [ended])
      rw [ended] at same
      simp only [same]

theorem returns_note {records : List Record} {a : Unit} :
    (note records : Run σ ε Unit).Returns s a t ↔ t = s := by
  simp [note, returns_ofResult]

theorem mapError_eq_ok {result : Except ε α} {f : ε → δ} {a : α} :
    result.mapError f = .ok a ↔ result = .ok a := by
  cases result with
  | error error =>
    change (Except.error (f error) : Except δ α) = _ ↔ _
    simp
  | ok b =>
    change (Except.ok b : Except δ α) = _ ↔ _
    simp

theorem mapError_eq_error {result : Except ε α} {f : ε → δ} {error : δ} :
    result.mapError f = .error error ↔ ∃ cause, result = .error cause ∧ error = f cause := by
  cases result with
  | error cause =>
    change (Except.error (f cause) : Except δ α) = _ ↔ _
    simp [eq_comm]
  | ok a =>
    change (Except.ok a : Except δ α) = _ ↔ _
    simp

theorem toOption_eq_some {result : Except ε α} {a : α} :
    result.toOption = some a ↔ result = .ok a := by
  cases result <;> simp [Except.toOption]

theorem toOption_eq_none {result : Except ε α} :
    result.toOption = none ↔ ∃ error, result = .error error := by
  cases result <;> simp [Except.toOption]

theorem mapError_map (result : Except ε α) (f : α → β) (g : ε → δ) :
    (result.map f).mapError g = (result.mapError g).map f := by
  cases result <;> rfl

theorem returns_mapError {x : Run σ ε α} {f : ε → δ} {a : α} :
    (x.mapError f).Returns s a t ↔ x.Returns s a t :=
  and_congr_left fun _ => mapError_eq_ok

theorem mapError_mapError (result : Except ε α) (f : ε → δ) (g : δ → γ) :
    (result.mapError f).mapError g = result.mapError fun error => g (f error) := by
  cases result <;> rfl

theorem mapError_comp (x : Run σ ε α) (f : ε → δ) (g : δ → γ) :
    (x.mapError f).mapError g = x.mapError fun error => g (f error) := by
  funext s
  simp only [mapError, mapError_mapError]

theorem mapError_bind (x : Run σ ε α) (k : α → Run σ ε β) (f : ε → δ) :
    (x >>= k).mapError f = x.mapError f >>= fun a => (k a).mapError f := by
  funext s
  simp only [mapError, Bind.bind, Run.bind]
  cases x s with
  | mk result middle log => cases result <;> rfl

/-- From every state, two computations lead to the same state, fail alike, and have results that a
map takes to one another. What they log may differ. -/
def MapsTo (f : α → β) (x : Run σ ε α) (y : Run σ ε β) : Prop :=
  ∀ s, (y s).result = (x s).result.map f ∧ (y s).state = (x s).state

namespace MapsTo

variable {f : α → β} {x : Run σ ε α} {y : Run σ ε β}

theorem refl (x : Run σ ε α) : MapsTo id x x := by
  intro s
  cases (x s).result <;> exact ⟨rfl, rfl⟩

theorem pure {a : α} {b : β} (same : b = f a) : MapsTo f (Pure.pure a : Run σ ε α) (Pure.pure b) :=
  fun _ => ⟨congrArg Except.ok same, rfl⟩

theorem ofResult {first : Except ε α} {second : Except ε β} (same : second = first.map f)
    (log other : List Record) :
    MapsTo f (Run.ofResult first log : Run σ ε α) (Run.ofResult second other) :=
  fun _ => ⟨same, rfl⟩

theorem note (records others : List Record) :
    MapsTo id (Run.note records : Run σ ε Unit) (Run.note others) :=
  ofResult rfl records others

theorem bind {g : γ → δ} {k : α → Run σ ε γ} {l : β → Run σ ε δ} (first : MapsTo f x y)
    (rest : ∀ a, MapsTo g (k a) (l (f a))) : MapsTo g (x >>= k) (y >>= l) := by
  intro s
  obtain ⟨result, state⟩ := first s
  simp only [Bind.bind, Run.bind]
  cases left : x s with
  | mk found middle log =>
    cases right : y s with
    | mk mapped same other =>
      rw [left, right] at result state
      obtain rfl : same = middle := state
      obtain rfl : mapped = found.map f := result
      cases found with
      | error error => exact ⟨rfl, rfl⟩
      | ok a => exact rest a same

theorem mapError (same : MapsTo f x y) (g : ε → δ) : MapsTo f (x.mapError g) (y.mapError g) := by
  intro s
  obtain ⟨result, state⟩ := same s
  exact ⟨(congrArg (Except.mapError g) result).trans (mapError_map ..), state⟩

end MapsTo
end ShaderGraph.Run
