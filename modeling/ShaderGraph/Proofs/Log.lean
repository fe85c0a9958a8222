import ShaderGraph.Proofs.Run

/-! What computations log. The result and the log of a chain follow from those of its parts, whatever
state it starts from. -/
namespace ShaderGraph

def warnings (log : List Record) : List Record := log.filter (·.level = .warn)

theorem warnings_append (log more : List Record) :
    warnings (log ++ more) = warnings log ++ warnings more :=
  List.filter_append ..

theorem warnings_eq_self {log : List Record} (all : ∀ record ∈ log, record.level = .warn) :
    warnings log = log :=
  List.filter_eq_self.mpr fun record member => decide_eq_true (all record member)

theorem warnings_eq_nil {log : List Record} (details : ∀ record ∈ log, record.level = .debug) :
    warnings log = [] :=
  List.filter_eq_nil_iff.mpr fun record member => by simp [details record member]

theorem filter_not_debug {log : List Record} (calm : ∀ record ∈ log, record.level ≠ .info) :
    log.filter (·.level ≠ .debug) = warnings log := by
  refine List.filter_congr fun record member => ?_
  have quiet := calm record member
  cases level : record.level with
  | debug | warn => rfl
  | info => contradiction

/-- What may be logged before the first call: no summary, and nothing about inputs. -/
def Record.Early (record : Record) : Prop :=
  record.level ≠ .info ∧ ∀ diagnostic, record ≠ .unconnected diagnostic

theorem Record.Early.of_debug {record : Record} (detail : record.level = .debug) : record.Early := by
  refine ⟨by simp [detail], ?_⟩
  rintro diagnostic rfl
  contradiction

namespace Run

/-- From every state, the computation ends with a result and a log that stand in a relation. -/
def Writes (x : Run σ ε α) (p : Except ε α → List Record → Prop) : Prop :=
  ∀ s, p (x s).result (x s).log

namespace Writes

variable {x : Run σ ε α} {f : α → Run σ ε β} {p : Except ε α → List Record → Prop}
  {q : Except ε β → List Record → Prop} {log : List Record}

theorem pure {a : α} (holds : p (.ok a) []) : (Pure.pure a : Run σ ε α).Writes p :=
  fun _ => holds

theorem ofResult {result : Except ε α} (holds : p result log) :
    (Run.ofResult result log : Run σ ε α).Writes p :=
  fun _ => holds

theorem mapError {g : ε → δ} {p : Except δ α → List Record → Prop}
    (writes : x.Writes fun result log => p (result.mapError g) log) : (x.mapError g).Writes p :=
  writes

/-- The second part of a chain logs behind the first, unless that fails. -/
theorem bind (first : x.Writes p)
    (rest : ∀ a log, p (.ok a) log → (f a).Writes fun result more => q result (log ++ more))
    (fails : ∀ error log, p (.error error) log → q (.error error) log) : (x >>= f).Writes q := by
  intro s
  have began := first s
  simp only [Bind.bind, Run.bind]
  cases ended : x s with
  | mk result middle log =>
    rw [ended] at began
    cases result with
    | error error => exact fails error log began
    | ok a => exact rest a log began middle

theorem ofResult_bind {result : Except ε α}
    (rest : ∀ a, result = .ok a → (f a).Writes fun result more => q result (log ++ more))
    (fails : ∀ error, result = .error error → q (.error error) log) :
    (Run.ofResult result log >>= f).Writes q := by
  refine bind (p := fun ended written => ended = result ∧ written = log) (.ofResult ⟨rfl, rfl⟩) ?_ ?_
  · rintro a _ ⟨found, rfl⟩
    exact rest a found.symm
  · rintro error _ ⟨failed, rfl⟩
    exact fails error failed.symm

end Writes

def Quiet (x : Run σ ε α) : Prop := x.Writes fun _ log => ∀ record ∈ log, record.level = .debug

theorem Quiet.mapError {x : Run σ ε α} (quiet : x.Quiet) (f : ε → δ) : (x.mapError f).Quiet :=
  Writes.mapError quiet

theorem Quiet.map {x : Run σ ε α} (quiet : x.Quiet) (f : α → β) : (f <$> x).Quiet := by
  refine Writes.bind quiet (fun a log details => .pure ?_) fun _ _ details => details
  rwa [List.append_nil]

end Run
end ShaderGraph
