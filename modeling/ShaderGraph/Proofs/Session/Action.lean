import ShaderGraph.Proofs.Shader.Script
import ShaderGraph.Session

/-! What the steps of a session do to its library. A load, a source or a compilation asks the
library by a script, any other step acts on the store. -/
namespace ShaderGraph

inductive Action where
  | ask (request : Request)
  | put (path : ResourcePath) (text : String)
  | read (path : ResourcePath)
  deriving DecidableEq, Repr

namespace Action

def perform (session : Session) : Action → Session
  | ask request => request.perform session
  | put path text => { session with store := session.store.insert path text }
  | read path => { session with store := (session.store.read path).2 }

def writes : Action → Bool
  | put .. => true
  | ask _ | read _ => false

variable {session : Session}

theorem perform_read (session : Session) (path : ResourcePath) :
    perform session (.read path) =
      if session.store.documents.get? path.canonical = none then session
      else Request.served session := by
  simp only [perform, MemoryStore.read]
  cases session.store.documents.get? path.canonical with
  | none => rfl
  | some text => rfl

/-- Only requests add to what a library keeps. -/
theorem kept?_perform_put (request : Request) (session : Session) (path : ResourcePath)
    (text : String) : request.kept? (perform session (.put path text)) = request.kept? session := by
  cases request <;> rfl

theorem kept?_perform_read (request : Request) (session : Session) (path : ResourcePath) :
    request.kept? (perform session (.read path)) = request.kept? session := by
  cases request <;> rfl

theorem kept?_perform_of_kept {request : Request} {answer : request.Answer}
    (kept : request.kept? session = some answer) (action : Action) :
    request.kept? (perform session action) = some answer := by
  cases action with
  | ask other => exact Request.kept?_perform_of_kept kept other
  | put path text => rw [kept?_perform_put, kept]
  | read path => rw [kept?_perform_read, kept]

variable {action other : Action}

theorem documents_perform (unwritten : action.writes = false) (session : Session) :
    (perform session action).store.documents = session.store.documents := by
  cases action with
  | ask request => exact Request.documents_perform session request
  | put path text => contradiction
  | read path =>
    rw [perform_read]
    split <;> rfl

theorem current_perform (current : session.Current) (unwritten : action.writes = false) :
    (perform session action).Current := by
  cases action with
  | ask request => exact current.perform request
  | put path text => contradiction
  | read path =>
    intro request answer kept
    rw [documents_perform unwritten]
    exact current request answer (by rwa [kept?_perform_read] at kept)

theorem perform_ask_read (session : Session) (request : Request) (path : ResourcePath) :
    perform (perform session (.ask request)) (.read path) =
      perform (perform session (.read path)) (.ask request) := by
  simp only [perform_read]
  simp only [perform, Request.documents_perform]
  split
  · rfl
  · exact (Request.perform_served session request).symm

/-- On documents that stay, it makes no difference which of two actions comes first. -/
theorem perform_comm (unwritten : action.writes = false) (unwrittenOther : other.writes = false)
    (session : Session) :
    perform (perform session action) other = perform (perform session other) action := by
  cases action with
  | put path text => contradiction
  | ask request =>
    cases other with
    | put path text => contradiction
    | ask other => exact Request.perform_comm session request other
    | read path => exact perform_ask_read session request path
  | read path =>
    cases other with
    | put path text => contradiction
    | ask request => exact (perform_ask_read session request path).symm
    | read other =>
      simp only [perform_read]
      by_cases first : session.store.documents.get? path.canonical = none <;>
        by_cases second : session.store.documents.get? other.canonical = none <;>
        simp [first, second, Request.served]

end Action

namespace Step

/-- The script of a step that asks the library, or else what the step does to the store. -/
def plan : Step → Script StepError Answer ⊕ Action
  | load function => .inl (.signature <$> (Script.single (.signature function)).mapError .library)
  | source function path => .inl (.text <$> (Script.single (.source function path)).mapError .library)
  | compile supplied text =>
    .inl (.shader <$> (compileTextScript (.ofList supplied) text).mapError .compile)
  | compileDocument supplied document =>
    .inl (.shader <$> (compileScript (.ofList supplied) document).mapError .compile)
  | put path text => .inr (.put path text)
  | putFunction function text => .inr (.put (functionPath function) text)
  | read path => .inr (.read path)

def actions (session : Session) (step : Step) : List Action :=
  match step.plan with
  | .inl script => (script.requests session).map .ask
  | .inr action => [action]

def writes : Step → Bool
  | put .. | putFunction .. => true
  | load _ | source .. | compile .. | compileDocument .. | read _ => false

end Step

namespace Session

theorem take_follows {step : Step} {script : Script StepError Answer}
    (plan : step.plan = .inl script) : (take step).Follows script := by
  cases step with
  | load function =>
    cases plan
    exact ((Run.Follows.single (.signature function)).mapError _).map _
  | source function path =>
    cases plan
    exact ((Run.Follows.single (.source function path)).mapError _).map _
  | compile supplied text =>
    cases plan
    exact ((compileText_follows _ text).mapError _).map _
  | compileDocument supplied document =>
    cases plan
    exact ((compile_follows _ document).mapError _).map _
  | put path text => cases plan
  | putFunction function text => cases plan
  | read path => cases plan

def perform (actions : List Action) (session : Session) : Session :=
  actions.foldl Action.perform session

def after (steps : List Step) (session : Session) : Session :=
  ((run steps session).getLast?.map Outcome.state).getD session

def history : List Step → Session → List Action
  | [], _ => []
  | step :: rest, session => step.actions session ++ history rest (take step session).state

theorem state_take (step : Step) (session : Session) :
    (take step session).state = perform (step.actions session) session := by
  cases plan : step.plan with
  | inl script =>
    have state : (take step session).state = (script.run session).2 :=
      congrArg Prod.snd (take_follows plan session)
    rw [state, script.state_run, Step.actions, plan, perform, List.foldl_map]
    rfl
  | inr action =>
    rw [Step.actions, plan]
    cases step <;> cases plan <;> rfl

theorem after_cons (step : Step) (rest : List Step) (session : Session) :
    after (step :: rest) session = after rest (take step session).state := by
  rw [after, after, run]
  cases rest <;> simp [run, List.getLast?_cons]

/-- A session is what its actions make of it. -/
theorem perform_history (steps : List Step) (session : Session) :
    perform (history steps session) session = after steps session := by
  induction steps generalizing session with
  | nil => rfl
  | cons step rest ih =>
    rw [after_cons, ← ih, history, perform, List.foldl_append, ← perform, ← perform, state_take]

def waveStore : MemoryStore :=
  (MemoryStore.empty.insertFunction "wave" "").insertFunction "broken" "]"

def halfBroken : GraphDocument where
  nodes := [⟨"a", "wave", none⟩, ⟨"b", "broken", none⟩]
  edges := []
  settings := []

end Session
end ShaderGraph
