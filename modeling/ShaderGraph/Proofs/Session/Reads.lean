import ShaderGraph.Proofs.Session.Kept
import ShaderGraph.Proofs.Shader.Failure

/-! What a store has served over a session. A document that was read is kept, or it was malformed, or
it was read past the library. -/
namespace ShaderGraph

def Library.kept (library : Library σ) : Nat := library.cached + library.sources.size

def LibraryError.isMalformed : LibraryError → Bool
  | malformed .. => true
  | read .. | source .. => false

namespace Request

variable {library : Library MemoryStore} {request : Request}

def failure? [ResourceStore σ] (library : Library σ) (request : Request) : Option LibraryError :=
  match (request.ask library).result with
  | .error cause => some cause
  | .ok _ => none

theorem isMalformed_missing (request : Request) : request.missing.isMalformed = false := by
  cases request <;> rfl

/-- A document that was read fails to answer only if it is malformed. -/
theorem isMalformed_of_decode {text : String} {cause : LibraryError}
    (failed : request.decode text = .error cause) : cause.isMalformed = true := by
  cases request with
  | signature function =>
    rw [decode] at failed
    cases parsed : Signature.parse function text with
    | error error =>
      rw [parsed] at failed
      exact Except.error.inj failed ▸ rfl
    | ok signature =>
      rw [parsed] at failed
      contradiction
  | source function path => contradiction

theorem kept_keep (absent : request.kept? library = none) (answer : request.Answer) :
    (request.keep library answer).kept = library.kept + 1 := by
  cases request with
  | signature function =>
    have size := Table.size_insert absent answer
    simp only [keep, Library.kept, Library.cached, size]
    omega
  | source function path =>
    have size := Table.size_insert absent answer
    simp only [keep, Library.kept, Library.cached, size]
    omega

theorem reads_keep (request : Request) (library : Library MemoryStore) (answer : request.Answer) :
    (request.keep library answer).store.reads = library.store.reads := by
  cases request <;> rfl

/-- What a request reads is kept, unless it is malformed. -/
theorem reads_perform (library : Library MemoryStore) (request : Request) :
    (perform library request).store.reads + library.kept =
      library.store.reads + (perform library request).kept +
        (request.failure? library).toList.countP LibraryError.isMalformed := by
  cases kept : request.kept? library with
  | some answer => simp [perform_of_kept kept, failure?, ask_of_kept kept]
  | none =>
    rw [failure?, (ask_of_not_kept kept).1, perform_of_not_kept kept, settle, answer]
    cases library.store.documents.get? request.path.canonical with
    | none => simp [isMalformed_missing]
    | some text =>
      simp only
      cases decoded : request.decode text with
      | error cause =>
        simp only [served, Library.kept, Library.cached, Option.toList_some, List.countP_singleton,
          isMalformed_of_decode decoded, if_true]
        omega
      | ok answer =>
        rw [kept_keep ((kept?_served request library).trans kept), reads_keep]
        simp only [served, Library.kept, Library.cached, Option.toList_none, List.countP_nil]
        omega

end Request

namespace Action

def failure? (session : Session) : Action → Option LibraryError
  | ask request => request.failure? session
  | put .. | read _ => none

/-- Reads a document past the library that is there. -/
def finds (session : Session) : Action → Bool
  | read path => (session.store.read path).1.toOption.isSome
  | ask _ | put .. => false

/-- What an action reads is kept, unless it is malformed or read past the library. -/
theorem reads_perform (session : Session) (action : Action) :
    (perform session action).store.reads + session.kept =
      session.store.reads + (perform session action).kept +
        (action.failure? session).toList.countP LibraryError.isMalformed +
        (action.finds session).toNat := by
  cases action with
  | ask request => exact Request.reads_perform session request
  | put path text => rfl
  | read path =>
    simp only [perform, failure?, finds, MemoryStore.read]
    cases session.store.documents.get? path.canonical with
    | none => rfl
    | some text => exact Nat.add_right_comm ..

end Action

namespace Session

def failures : List Action → Session → List LibraryError
  | [], _ => []
  | action :: rest, session =>
    (action.failure? session).toList ++ failures rest (action.perform session)

def directReads : List Action → Session → Nat
  | [], _ => 0
  | action :: rest, session => (action.finds session).toNat + directReads rest (action.perform session)

theorem failures_append (front back : List Action) (session : Session) :
    failures (front ++ back) session =
      failures front session ++ failures back (perform front session) := by
  induction front generalizing session with
  | nil => rfl
  | cons action rest ih =>
    rw [List.cons_append, failures, ih, failures, List.append_assoc]
    rfl

theorem directReads_append (front back : List Action) (session : Session) :
    directReads (front ++ back) session =
      directReads front session + directReads back (perform front session) := by
  induction front generalizing session with
  | nil => exact (Nat.zero_add _).symm
  | cons action rest ih =>
    rw [List.cons_append, directReads, ih, directReads, Nat.add_assoc]
    rfl

/-- The reads that are not kept are those of malformed documents and those past the library. -/
theorem reads_perform (actions : List Action) (session : Session) :
    (perform actions session).store.reads + session.kept =
      session.store.reads + (perform actions session).kept +
        (failures actions session).countP LibraryError.isMalformed +
        directReads actions session := by
  induction actions generalizing session with
  | nil => rfl
  | cons action rest ih =>
    have first := action.reads_perform session
    have later := ih (action.perform session)
    rw [failures, directReads, List.countP_append]
    simp only [perform, List.foldl_cons] at later ⊢
    omega

/-- The one request of a step that fails, if any, is the last, and the step fails with it. -/
theorem failures_requests {script : Script ε α} {cause? : ε → Option LibraryError}
    (law : script.FailsBy cause?) (session : Session) :
    failures ((script.requests session).map .ask) session =
      match (script.run session).1 with
      | .error error => (cause? error).toList
      | .ok _ => [] := by
  induction script generalizing session with
  | done result =>
    cases result with
    | error error =>
      have silent : cause? error = none := law
      simp only [Script.run, silent]
      rfl
    | ok a => rfl
  | ask request next ih =>
    have here : failures (((Script.ask request next).requests session).map .ask) session =
        (request.failure? session).toList ++ failures
          ((((next (request.ask session).result).requests (request.perform session))).map .ask)
          (request.perform session) := rfl
    rw [here, Script.run, Request.failure?]
    cases answered : (request.ask session).result with
    | error cause =>
      obtain ⟨error, ended, told⟩ := law.1 cause
      simp only [ended, Script.requests, Script.run, told]
      rfl
    | ok answer => exact ih (.ok answer) (law.2 answer) _

end Session

namespace Step

theorem failsBy_of_plan {step : Step} {script : Script StepError Answer}
    (plan : step.plan = .inl script) : script.FailsBy StepError.cause? := by
  cases step <;> cases plan <;> refine .map ?_ _
  case load function => exact .mapError (.single (.signature function))
  case source function path => exact .mapError (.single (.source function path))
  case compile supplied text => exact .mapError (compileTextScript_failsBy _ text)
  case compileDocument supplied document => exact .mapError (compileScript_failsBy _ document)

def finds (step : Step) (outcome : Outcome Session StepError Answer) : Bool :=
  match step with
  | read _ => outcome.result.toOption.isSome
  | _ => false

end Step

def Outcome.failure? (outcome : Outcome Session StepError Answer) : Option LibraryError :=
  match outcome.result with
  | .error error => error.cause?
  | .ok _ => none

namespace Session

theorem failures_actions (step : Step) (session : Session) :
    failures (step.actions session) session = (take step session).failure?.toList := by
  cases plan : step.plan with
  | inl script =>
    have result : (take step session).result = (script.run session).1 :=
      congrArg Prod.fst (take_follows plan session)
    rw [Step.actions, plan, failures_requests (Step.failsBy_of_plan plan), Outcome.failure?, result]
    cases (script.run session).1 <;> rfl
  | inr action =>
    rw [Step.actions, plan]
    cases step <;> cases plan
    · rfl
    · rfl
    · rename_i path
      simp only [take, readStore, Outcome.failure?, MemoryStore.read]
      cases session.store.documents.get? path.canonical <;> rfl

theorem directReads_asks (requests : List Request) (session : Session) :
    directReads (requests.map .ask) session = 0 := by
  induction requests generalizing session with
  | nil => rfl
  | cons request rest ih => exact (Nat.zero_add _).trans (ih _)

theorem directReads_actions (step : Step) (session : Session) :
    directReads (step.actions session) session = (step.finds (take step session)).toNat := by
  cases plan : step.plan with
  | inl script =>
    rw [Step.actions, plan]
    refine (directReads_asks _ session).trans ?_
    cases step <;> cases plan <;> rfl
  | inr action =>
    rw [Step.actions, plan]
    cases step <;> cases plan
    · rfl
    · rfl
    · rename_i path
      simp only [directReads, Action.finds, Step.finds, take, readStore, MemoryStore.read]
      cases session.store.documents.get? path.canonical <;> rfl

/-- The library fails to answer at most once in a step, which then fails with the cause. -/
theorem failures_history (steps : List Step) (session : Session) :
    failures (history steps session) session = (run steps session).filterMap Outcome.failure? := by
  induction steps generalizing session with
  | nil => rfl
  | cons step rest ih =>
    rw [history, failures_append, failures_actions, ← state_take, ih, run, List.filterMap_cons]
    cases (take step session).failure? <;> rfl

theorem directReads_history (steps : List Step) (session : Session) :
    directReads (history steps session) session =
      (steps.zip (run steps session)).countP fun (step, outcome) => step.finds outcome := by
  induction steps generalizing session with
  | nil => rfl
  | cons step rest ih =>
    rw [history, directReads_append, directReads_actions, ← state_take, ih, run, List.zip_cons_cons,
      List.countP_cons, Nat.add_comm]
    cases found : step.finds (take step session) <;> simp [found]

variable {start : Session} {past : List Action} {place : String}

theorem mem_sources_perform {action : Action}
    (member : place ∈ (action.perform start).sources.keys) :
    place ∈ start.sources.keys ∨ ∃ path : ResourcePath, path.canonical = place := by
  cases action with
  | put path text => exact .inl member
  | read path => exact .inl member
  | ask request =>
    change place ∈ (request.perform start).sources.keys at member
    cases kept : request.kept? start with
    | some answer => exact .inl (Request.perform_of_kept kept ▸ member)
    | none =>
      rw [Request.perform_of_not_kept kept, Request.settle] at member
      split at member
      · exact .inl member
      · split at member
        · exact .inl member
        · cases request with
          | signature function => exact .inl member
          | source function path =>
            by_cases here : place = path.canonical
            · exact .inr ⟨path, here.symm⟩
            · obtain ⟨text, found⟩ := Table.mem_keys.mp member
              have before := (Table.get?_insert ..).symm.trans found
              rw [if_neg here] at before
              exact .inl (Table.mem_keys.mpr ⟨text, before⟩)

/-- Sources are kept under canonical paths. -/
theorem exists_canonical_eq (empty : start.sources.keys = [])
    (member : place ∈ (perform past start).sources.keys) :
    ∃ path : ResourcePath, path.canonical = place := by
  have known : place ∈ start.sources.keys ∨ ∃ path : ResourcePath, path.canonical = place := by
    clear empty
    induction past generalizing start with
    | nil => exact .inl member
    | cons action rest ih =>
      rcases ih member with before | written
      · exact mem_sources_perform before
      · exact .inr written
  rw [empty] at known
  exact known.resolve_left List.not_mem_nil

theorem mem_signatures_iff (store : MemoryStore) (past : List Action) (function : String) :
    function ∈ (perform past (.ofStore store)).signatures.keys ↔
      ∃ signature, Answered (.ofStore store) past (.signature function) signature := by
  rw [Table.mem_keys]
  constructor
  · rintro ⟨signature, kept⟩
    obtain ⟨before, other, behind, reply, split, same, returns, _⟩ :=
      kept?_origin (.signature function) rfl kept
    cases other with
    | source name path => cases same
    | signature name =>
      cases same
      exact ⟨reply, before, behind, split, returns⟩
  · rintro ⟨signature, answered⟩
    exact ⟨signature, answered.kept?⟩

theorem mem_sources_iff (store : MemoryStore) (past : List Action) (place : String) :
    place ∈ (perform past (.ofStore store)).sources.keys ↔
      ∃ path text, path.canonical = place ∧ Sourced (.ofStore store) past path text := by
  constructor
  · intro member
    obtain ⟨path, rfl⟩ := exists_canonical_eq rfl member
    obtain ⟨text, kept⟩ := Table.mem_keys.mp member
    have kept : (Request.source "" path).kept? (perform past (.ofStore store)) = some text := kept
    obtain ⟨before, other, behind, reply, split, same, returns, _⟩ := kept?_origin _ rfl kept
    cases other with
    | signature name => cases same
    | source name other =>
      exact ⟨path, reply, rfl, name, other, Sum.inr.inj same, before, behind, split, returns⟩
  · rintro ⟨path, text, rfl, sourced⟩
    exact Table.mem_keys.mpr ⟨text, sourced.get?⟩

/-- On a library that has read nothing before, the store has served each signature that is kept once,
and each source once, and besides the documents that were malformed, each time that they were loaded,
and those read past the library. Signatures are kept by the name of their function, sources by the
canonical form of their path. -/
theorem reads_accounted (store : MemoryStore) (steps : List Step) :
    let fresh : Session := .ofStore store
    let past := history steps fresh
    let final := after steps fresh
    final.store.reads = store.reads + final.cached + final.sources.size +
        (failures past fresh).countP LibraryError.isMalformed + directReads past fresh ∧
      (∀ function, function ∈ final.signatures.keys ↔
        ∃ signature, Answered fresh past (.signature function) signature) ∧
      (∀ place, place ∈ final.sources.keys ↔
        ∃ path text, path.canonical = place ∧ Sourced fresh past path text) ∧
      failures past fresh = (run steps fresh).filterMap Outcome.failure? ∧
      directReads past fresh =
        (steps.zip (run steps fresh)).countP fun (step, outcome) => step.finds outcome := by
  intro fresh past final
  have whole : perform past fresh = final := perform_history steps fresh
  refine ⟨?_, ?_, ?_, failures_history steps fresh, directReads_history steps fresh⟩
  · have reads := reads_perform past fresh
    rw [whole] at reads
    -- A fresh library keeps nothing, so all that is kept in the end was read.
    rw [show fresh.kept = 0 from rfl, Library.kept, ← Nat.add_assoc] at reads
    exact reads
  · intro function
    rw [← whole]
    exact mem_signatures_iff store past function
  · intro place
    rw [← whole]
    exact mem_sources_iff store past place

end Session
end ShaderGraph
