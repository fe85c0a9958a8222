import ShaderGraph.Proofs.Session.Action

/-! Sessions that write nothing. Every step comes to what it comes to on a library that has read
nothing, and the steps may be taken in any order. -/
namespace ShaderGraph

/-- A step that neither asks the library nor writes reads a document. -/
theorem Step.eq_read_of_plan {step : Step} {action : Action} (unwritten : step.writes = false)
    (plan : step.plan = .inr action) : ∃ path, step = .read path ∧ action = .read path := by
  cases step with
  | read path =>
    cases plan
    exact ⟨path, rfl, rfl⟩
  | put path text => contradiction
  | putFunction function text => contradiction
  | load function => cases plan
  | source function path => cases plan
  | compile supplied text => cases plan
  | compileDocument supplied document => cases plan

namespace Session

variable {session other : Session}

/-- Between libraries that keep nothing but what their stores say, only the documents make a
difference. -/
theorem take_of_current {step : Step} (unwritten : step.writes = false) (current : session.Current)
    (currentOther : other.Current) (same : session.store.documents = other.store.documents) :
    (take step session).result = (take step other).result ∧
      step.actions session = step.actions other := by
  cases plan : step.plan with
  | inl script =>
    have here : (take step session).result = (script.run session).1 :=
      congrArg Prod.fst (take_follows plan session)
    have there : (take step other).result = (script.run other).1 :=
      congrArg Prod.fst (take_follows plan other)
    obtain ⟨results, requests⟩ := script.run_eq_of_current current currentOther same
    rw [here, there, Step.actions, Step.actions, plan]
    exact ⟨results, congrArg (List.map Action.ask) requests⟩
  | inr action =>
    obtain ⟨path, rfl, rfl⟩ := Step.eq_read_of_plan unwritten plan
    refine ⟨?_, rfl⟩
    simp only [take, readStore, MemoryStore.read, same]
    cases other.store.documents.get? path.canonical <;> rfl

theorem actions_unwritten {step : Step} (unwritten : step.writes = false) (session : Session) :
    ∀ action ∈ step.actions session, action.writes = false := by
  intro action member
  cases plan : step.plan with
  | inl script =>
    rw [Step.actions, plan] at member
    obtain ⟨request, _, rfl⟩ := List.mem_map.mp member
    rfl
  | inr only =>
    obtain ⟨path, rfl, rfl⟩ := Step.eq_read_of_plan unwritten plan
    obtain rfl := List.mem_singleton.mp member
    rfl

variable {actions others : List Action}

theorem documents_perform (unwritten : ∀ action ∈ actions, action.writes = false)
    (session : Session) : (perform actions session).store.documents = session.store.documents := by
  induction actions generalizing session with
  | nil => rfl
  | cons action rest ih =>
    obtain ⟨first, later⟩ := List.forall_mem_cons.mp unwritten
    exact (ih later _).trans (Action.documents_perform first session)

theorem current_perform (unwritten : ∀ action ∈ actions, action.writes = false)
    (current : session.Current) : (perform actions session).Current := by
  induction actions generalizing session with
  | nil => exact current
  | cons action rest ih =>
    obtain ⟨first, later⟩ := List.forall_mem_cons.mp unwritten
    exact ih later (Action.current_perform current first)

theorem perform_perm (perm : actions.Perm others)
    (unwritten : ∀ action ∈ actions, action.writes = false) (session : Session) :
    perform actions session = perform others session :=
  perm.foldl_eq' (fun action member other memberOther session =>
    Action.perform_comm (unwritten action member) (unwritten other memberOther) session) session

/-- The induction carries that the library is in step with its documents, which are those of
`base`. -/
theorem run_of_current {base : Session} (currentBase : base.Current) {steps : List Step}
    (unwritten : ∀ step ∈ steps, step.writes = false) (current : session.Current)
    (same : session.store.documents = base.store.documents) :
    (run steps session).map Outcome.result = steps.map (fun step => (take step base).result) ∧
      history steps session = steps.flatMap (·.actions base) := by
  induction steps generalizing session with
  | nil => exact ⟨rfl, rfl⟩
  | cons step rest ih =>
    obtain ⟨first, later⟩ := List.forall_mem_cons.mp unwritten
    obtain ⟨result, actions⟩ := take_of_current first current currentBase same
    have silent := actions_unwritten first session
    have stays : (take step session).state.Current := by
      rw [state_take]
      exact current_perform silent current
    have documents : (take step session).state.store.documents = base.store.documents := by
      rw [state_take, documents_perform silent, same]
    obtain ⟨results, history⟩ := ih later stays documents
    simp only [run, Session.history, List.map_cons, List.flatMap_cons]
    rw [result, results, actions, history]
    exact ⟨rfl, rfl⟩

/-- What a library has read before makes no difference to what a step comes to, and neither does
the order of the steps to what is kept and read in the end. -/
theorem run_as_alone (store : MemoryStore) (steps : List Step)
    (unwritten : ∀ step ∈ steps, step.writes = false) :
    let fresh : Session := .ofStore store
    let alone := fun step => (take step fresh).result
    (run steps fresh).map Outcome.result = steps.map alone ∧
      ∀ others : List Step, others.Perm steps →
        (run others fresh).map Outcome.result = others.map alone ∧
          after others fresh = after steps fresh := by
  intro fresh alone
  have current : fresh.Current := Library.current_ofStore store
  have first := run_of_current current unwritten current rfl
  refine ⟨first.1, fun others perm => ?_⟩
  have unwrittenOthers : ∀ step ∈ others, step.writes = false :=
    fun step member => unwritten step (perm.mem_iff.mp member)
  have second := run_of_current current unwrittenOthers current rfl
  refine ⟨second.1, ?_⟩
  have silent : ∀ action ∈ history others fresh, action.writes = false := by
    rw [second.2]
    intro action member
    obtain ⟨step, among, member⟩ := List.mem_flatMap.mp member
    exact actions_unwritten (unwrittenOthers step among) fresh action member
  have reordered : (history others fresh).Perm (history steps fresh) := by
    rw [first.2, second.2]
    exact perm.flatMap_right _
  rw [← perform_history, ← perform_history, perform_perm reordered silent]

/-- The compilation fails when it has read the metadata of one function. -/
def halfBrokenSteps : List Step :=
  [.compileDocument [] halfBroken, .load "wave", .load "broken"]

theorem halfBroken_as_alone :
    let fresh : Session := .ofStore waveStore
    (run halfBrokenSteps.reverse fresh).map Outcome.result =
        halfBrokenSteps.reverse.map (fun step => (take step fresh).result) ∧
      after halfBrokenSteps.reverse fresh = after halfBrokenSteps fresh ∧
      (run halfBrokenSteps fresh).map (·.result.toOption.isSome) = [false, true, false] ∧
      (after halfBrokenSteps fresh).signatures.keys = ["wave"] ∧
      (after halfBrokenSteps fresh).store.reads = 3 := by
  intro fresh
  have law := (run_as_alone waveStore halfBrokenSteps (by decide)).2 _ (List.reverse_perm _)
  exact ⟨law.1, law.2, by decide +kernel, by decide +kernel, by decide +kernel⟩

end Session
end ShaderGraph
