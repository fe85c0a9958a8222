import ShaderGraph.Proofs.Shader.Script
import ShaderGraph.Session

/-! Requests that fail. A compilation does not go on behind one, and its error tells the cause, so
that at most one request of a step fails. -/
namespace ShaderGraph

/-- A request that fails ends the script with an error that tells the cause, and no other error tells
one. -/
def Script.FailsBy (cause? : ε → Option LibraryError) : Script ε α → Prop
  | done (.ok _) => True
  | done (.error error) => cause? error = none
  | ask _ next =>
    (∀ cause, ∃ error, next (.error cause) = done (.error error) ∧ cause? error = some cause) ∧
      ∀ answer, (next (.ok answer)).FailsBy cause?

namespace Script.FailsBy

variable {cause? : ε → Option LibraryError} {script : Script ε α}

theorem pure (a : α) : (Pure.pure a : Script ε α).FailsBy cause? := trivial

theorem single (request : Request) : (Script.single request).FailsBy some :=
  ⟨fun cause => ⟨cause, rfl, rfl⟩, fun _ => trivial⟩

theorem bind {f : α → Script ε β} (first : script.FailsBy cause?)
    (rest : ∀ a, (f a).FailsBy cause?) : (script >>= f).FailsBy cause? := by
  induction script with
  | done result =>
    cases result with
    | error error => exact first
    | ok a => exact rest a
  | ask request next ih =>
    refine ⟨fun cause => ?_, fun answer => ih (.ok answer) (first.2 answer)⟩
    obtain ⟨error, ended, told⟩ := first.1 cause
    exact ⟨error, congrArg (Script.bind · f) ended, told⟩

theorem map (law : script.FailsBy cause?) (f : α → β) : (f <$> script).FailsBy cause? :=
  law.bind fun a => .pure (f a)

theorem mapError {cause? : δ → Option LibraryError} {f : ε → δ}
    (law : script.FailsBy fun error => cause? (f error)) : (script.mapError f).FailsBy cause? := by
  induction script with
  | done result => cases result <;> exact law
  | ask request next ih =>
    refine ⟨fun cause => ?_, fun answer => ih (.ok answer) (law.2 answer)⟩
    obtain ⟨error, ended, told⟩ := law.1 cause
    exact ⟨f error, congrArg (Script.mapError f) ended, told⟩

end Script.FailsBy

def ProgramError.cause? : ProgramError → Option LibraryError
  | metadata _ _ cause => some cause
  | invalidOverride .. => none

def CompileError.cause? : CompileError → Option LibraryError
  | program error => error.cause?
  | document _ | cycle _ => none

def StepError.cause? : StepError → Option LibraryError
  | library cause => some cause
  | compile error => error.cause?
  | read _ => none

theorem Feed.cause?_of_ofParams {graph : Graph} {node : GraphNode} {params : List Param}
    {feeds : List Feed} {error : ProgramError}
    (failed : ofParams graph node params = (feeds, some error)) : error.cause? = none := by
  induction params generalizing feeds with
  | nil => cases failed
  | cons param rest ih =>
    rw [ofParams] at failed
    split at failed
    · rename_i first
      obtain rfl := Option.some.inj (Prod.mk.inj failed).2
      rw [ofParam] at first
      split at first
      · contradiction
      · simp only at first
        split at first
        · split at first
          · contradiction
          · exact Except.error.inj first ▸ rfl
        · contradiction
    · exact ih (Prod.ext rfl (Prod.mk.inj failed).2)

namespace Program

theorem newSourceScript_failsBy (program : Program) (node : GraphNode) (signature : Signature) :
    (newSourceScript program node signature).FailsBy some := by
  rw [newSourceScript]
  split
  · exact .pure none
  · split
    · exact .pure none
    · exact (Script.FailsBy.single _).map some

theorem feeds_failsBy (graph : Graph) (node : GraphNode) (params : List Param) :
    (Script.done (feeds graph node params)).FailsBy ProgramError.cause? := by
  rw [feeds]
  split
  · exact Feed.cause?_of_ofParams ‹_›
  · trivial

theorem addNodeScript_failsBy (graph : Graph) (supplied : SortedSet String) (program : Program)
    (node : GraphNode) :
    (addNodeScript graph supplied program node).FailsBy ProgramError.cause? := by
  rw [addNodeScript]
  split
  · exact .pure program
  · refine .bind (.mapError (.single _)) fun signature => ?_
    refine .bind (.mapError (newSourceScript_failsBy program node signature)) fun source => ?_
    exact (feeds_failsBy graph node signature.inputs).bind fun feeds => .pure _

theorem foldlM_addNodeScript_failsBy (graph : Graph) (supplied : SortedSet String)
    (program : Program) (nodes : List GraphNode) :
    (nodes.foldlM (addNodeScript graph supplied) program).FailsBy ProgramError.cause? := by
  induction nodes generalizing program with
  | nil => exact .pure program
  | cons node rest ih =>
    rw [List.foldlM_cons]
    exact (addNodeScript_failsBy graph supplied program node).bind ih

end Program

/-- An error that arises without a request tells no cause. -/
theorem Script.FailsBy.done_mapError (result : Except ε α) {f : ε → CompileError}
    (tells : ∀ error, (f error).cause? = none) :
    (Script.done (result.mapError f)).FailsBy CompileError.cause? := by
  cases result with
  | error error => exact tells error
  | ok a => trivial

theorem compileScript_failsBy (supplied : SortedSet String) (document : GraphDocument) :
    (compileScript supplied document).FailsBy CompileError.cause? := by
  rw [compileScript]
  refine (Script.FailsBy.done_mapError _ fun _ => rfl).bind fun graph => ?_
  refine (Script.FailsBy.done_mapError _ fun _ => rfl).bind fun scheduled => ?_
  have calls := Program.foldlM_addNodeScript_failsBy scheduled.graph supplied
    (.beforeCalls scheduled.graph) scheduled.nodes
  exact .bind (.mapError calls) fun program => .pure _

theorem compileTextScript_failsBy (supplied : SortedSet String) (text : String) :
    (compileTextScript supplied text).FailsBy CompileError.cause? :=
  (Script.FailsBy.done_mapError _ fun _ => rfl).bind (compileScript_failsBy supplied)

end ShaderGraph
