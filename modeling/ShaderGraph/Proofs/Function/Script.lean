import ShaderGraph.Proofs.Function.Request

/-! Computations on a library as scripts of requests. All that a computation has from a library are
answers, so that its result and what becomes of the library are told by the script alone. -/
namespace ShaderGraph

/-- A computation that asks a library, and goes on as the answer is. -/
inductive Script (ε α : Type) where
  | done (result : Except ε α)
  | ask (request : Request) (next : Except LibraryError request.Answer → Script ε α)

namespace Script

def bind : Script ε α → (α → Script ε β) → Script ε β
  | done (.error error), _ => done (.error error)
  | done (.ok a), f => f a
  | ask request next, f => ask request fun answer => (next answer).bind f

instance : Monad (Script ε) where
  pure a := done (.ok a)
  bind := bind

def mapError (f : ε → δ) : Script ε α → Script δ α
  | done result => done (result.mapError f)
  | ask request next => ask request fun answer => (next answer).mapError f

def single (request : Request) : Script LibraryError request.Answer := ask request done

section
variable [ResourceStore σ]

def run : Script ε α → Library σ → Except ε α × Library σ
  | done result, library => (result, library)
  | ask request next, library =>
    (next (request.ask library).result).run (request.perform library)

def requests : Script ε α → Library σ → List Request
  | done _, _ => []
  | ask request next, library =>
    request :: (next (request.ask library).result).requests (request.perform library)

theorem state_run (script : Script ε α) (library : Library σ) :
    (script.run library).2 = (script.requests library).foldl Request.perform library := by
  induction script generalizing library with
  | done result => rfl
  | ask request next ih => exact ih _ _

theorem run_bind (script : Script ε α) (f : α → Script ε β) (library : Library σ) :
    (script >>= f).run library =
      match script.run library with
      | (.error error, state) => (.error error, state)
      | (.ok a, state) => (f a).run state := by
  induction script generalizing library with
  | done result => cases result <;> rfl
  | ask request next ih => exact ih _ _

theorem run_mapError (script : Script ε α) (f : ε → δ) (library : Library σ) :
    (script.mapError f).run library =
      ((script.run library).1.mapError f, (script.run library).2) := by
  induction script generalizing library with
  | done result => rfl
  | ask request next ih => exact ih _ _

theorem requests_bind (script : Script ε α) (f : α → Script ε β) (library : Library σ) :
    (script >>= f).requests library = script.requests library ++
      match script.run library with
      | (.error _, _) => []
      | (.ok a, state) => (f a).requests state := by
  induction script generalizing library with
  | done result => cases result <;> rfl
  | ask request next ih => exact congrArg (request :: ·) (ih _ _)

theorem requests_mapError (script : Script ε α) (f : ε → δ) (library : Library σ) :
    (script.mapError f).requests library = script.requests library := by
  induction script generalizing library with
  | done result => rfl
  | ask request next ih => exact congrArg (request :: ·) (ih _ _)

/-- A script that succeeds leads from one library to another, by some requests. -/
def Leads (script : Script ε α) (library : Library σ) (asked : List Request) (a : α)
    (later : Library σ) : Prop :=
  script.run library = (.ok a, later) ∧ script.requests library = asked

variable {library later : Library σ} {asked : List Request}

theorem leads_done {result : Except ε α} {a : α} :
    (done result).Leads library asked a later ↔ result = .ok a ∧ asked = [] ∧ later = library := by
  constructor
  · rintro ⟨ended, rfl⟩
    obtain ⟨same, rfl⟩ := Prod.mk.inj ended
    exact ⟨same, rfl, rfl⟩
  · rintro ⟨rfl, rfl, rfl⟩
    exact ⟨rfl, rfl⟩

theorem leads_pure {a b : α} : (pure a : Script ε α).Leads library asked b later ↔
    b = a ∧ asked = [] ∧ later = library := by
  refine leads_done.trans (and_congr_left fun _ => ?_)
  rw [Except.ok.injEq, eq_comm]

theorem leads_single {request : Request} {answer : request.Answer} :
    (single request).Leads library asked answer later ↔
      (request.ask library).result = .ok answer ∧ asked = [request] ∧
        later = request.perform library := by
  simp [Leads, single, run, requests, eq_comm, and_assoc, and_comm]

theorem leads_bind {script : Script ε α} {f : α → Script ε β} {b : β} :
    (script >>= f).Leads library asked b later ↔ ∃ front a middle back,
      script.Leads library front a middle ∧ (f a).Leads middle back b later ∧
        asked = front ++ back := by
  simp only [Leads, run_bind, requests_bind]
  cases ended : script.run library with
  | mk result state =>
    cases result with
    | error error => simp
    | ok a =>
      constructor
      · rintro ⟨succeeds, rfl⟩
        exact ⟨_, a, state, _, ⟨rfl, rfl⟩, ⟨succeeds, rfl⟩, rfl⟩
      · rintro ⟨_, _, _, _, ⟨same, rfl⟩, ⟨succeeds, rfl⟩, rfl⟩
        obtain ⟨first, rfl⟩ := Prod.mk.inj same
        obtain rfl := Except.ok.inj first
        exact ⟨succeeds, rfl⟩

theorem leads_map {script : Script ε α} {f : α → β} {b : β} :
    (f <$> script).Leads library asked b later ↔
      ∃ a, script.Leads library asked a later ∧ b = f a := by
  change (script >>= fun a => pure (f a)).Leads library asked b later ↔ _
  simp only [leads_bind, leads_pure]
  constructor
  · rintro ⟨front, a, middle, _, leads, ⟨rfl, rfl, rfl⟩, rfl⟩
    exact ⟨a, by rwa [List.append_nil], rfl⟩
  · rintro ⟨a, leads, rfl⟩
    exact ⟨asked, a, later, [], leads, ⟨rfl, rfl, rfl⟩, (List.append_nil asked).symm⟩

theorem leads_mapError {script : Script ε α} {f : ε → δ} {a : α} :
    (script.mapError f).Leads library asked a later ↔ script.Leads library asked a later := by
  rw [Leads, Leads, run_mapError, requests_mapError, Prod.mk.injEq, Run.mapError_eq_ok,
    ← Prod.mk.injEq]

end

/-- From libraries that keep nothing but what their stores say, with the same documents in them, a
script comes to the same result by the same requests. -/
theorem run_eq_of_current {library other : Library MemoryStore} (script : Script ε α)
    (current : library.Current) (currentOther : other.Current)
    (same : library.store.documents = other.store.documents) :
    (script.run library).1 = (script.run other).1 ∧
      script.requests library = script.requests other := by
  induction script generalizing library other with
  | done result => exact ⟨rfl, rfl⟩
  | ask request next ih =>
    have answers : (request.ask library).result = (request.ask other).result := by
      rw [current.result_ask, currentOther.result_ask, same]
    have documents : (request.perform library).store.documents =
        (request.perform other).store.documents := by
      rw [Request.documents_perform, Request.documents_perform, same]
    have rest := ih (request.ask library).result (current.perform request)
      (currentOther.perform request) documents
    simp only [run, requests]
    rw [← answers]
    exact ⟨rest.1, congrArg (request :: ·) rest.2⟩

end Script

def Library.reply [ResourceStore σ] (library : Library σ) (request : Request) :
    Except LibraryError request.Answer :=
  (request.ask library).result

def Library.AnswersAs (now start : Library MemoryStore) : Prop :=
  ∀ request, now.reply request = start.reply request

namespace Script

/-- The result of a script whose requests have given answers. -/
def replied (reply : (request : Request) → Except LibraryError request.Answer) :
    Script ε α → Except ε α
  | done result => result
  | ask request next => (next (reply request)).replied reply

section
variable {reply : (request : Request) → Except LibraryError request.Answer}

theorem replied_bind (script : Script ε α) (f : α → Script ε β) :
    (script >>= f).replied reply = script.replied reply >>= fun a => (f a).replied reply := by
  induction script with
  | done result => cases result <;> rfl
  | ask request next ih => exact ih _

theorem replied_map (script : Script ε α) (f : α → β) :
    (f <$> script).replied reply = (script.replied reply).map f := by
  refine (replied_bind script fun a => pure (f a)).trans ?_
  cases script.replied reply <;> rfl

theorem replied_mapError (script : Script ε α) (f : ε → δ) :
    (script.mapError f).replied reply = (script.replied reply).mapError f := by
  induction script with
  | done result => rfl
  | ask request next ih => exact ih _

theorem replied_foldlM (step : β → α → Script ε β) (list : List α) (start : β) :
    (list.foldlM step start).replied reply =
      list.foldlM (fun state a => (step state a).replied reply) start := by
  induction list generalizing start with
  | nil => rfl
  | cons a rest ih => simp only [List.foldlM_cons, replied_bind, ih]

end

variable {start now : Library MemoryStore}

theorem answersAs_perform (answers : now.AnswersAs start) (request : Request) :
    (request.perform now).AnswersAs start :=
  fun other => (Request.result_ask_perform now request other).trans (answers other)

/-- Over documents in memory, all answers are those that the library gives at the start. -/
theorem run_eq_replied (script : Script ε α) (answers : now.AnswersAs start) :
    (script.run now).1 = script.replied start.reply ∧ (script.run now).2.AnswersAs start := by
  induction script generalizing now with
  | done result => exact ⟨rfl, answers⟩
  | ask request next ih =>
    rw [replied, ← answers request]
    exact ih _ (answersAs_perform answers request)

end Script

/-- From every library, the computation has the result of the script and leaves the same library. -/
def Run.Follows [ResourceStore σ] (x : Run (Library σ) ε α) (script : Script ε α) : Prop :=
  ∀ library, ((x library).result, (x library).state) = script.run library

namespace Run.Follows

variable [ResourceStore σ] {x : Run (Library σ) ε α} {script : Script ε α}

theorem ofResult (result : Except ε α) (log : List Record) :
    Follows (Run.ofResult result log : Run (Library σ) ε α) (.done result) :=
  fun _ => rfl

theorem pure (a : α) : Follows (Pure.pure a : Run (Library σ) ε α) (Pure.pure a) :=
  fun _ => rfl

theorem single (request : Request) :
    Follows (request.ask : Run (Library σ) LibraryError request.Answer) (.single request) :=
  fun _ => rfl

theorem bind {f : α → Run (Library σ) ε β} {g : α → Script ε β} (first : Follows x script)
    (rest : ∀ a, Follows (f a) (g a)) : Follows (x >>= f) (script >>= g) := by
  intro library
  rw [Script.run_bind, ← first library]
  simp only [Bind.bind, Run.bind]
  cases x library with
  | mk result state log =>
    cases result with
    | error error => rfl
    | ok a => exact rest a state

theorem note {f : Unit → Run (Library σ) ε α} (records : List Record)
    (rest : Follows (f ()) script) : Follows (Run.note records >>= f) script := by
  intro library
  exact rest library

theorem map (follows : Follows x script) (f : α → β) : Follows (f <$> x) (f <$> script) :=
  follows.bind fun a => .pure (f a)

theorem mapError (follows : Follows x script) (f : ε → δ) :
    Follows (x.mapError f) (script.mapError f) := by
  intro library
  rw [Script.run_mapError, ← follows library]
  rfl

/-- What follows a script has the result of the answers at the start, and leaves the answers as they
are. -/
theorem replied {x : Run (Library MemoryStore) ε α} (follows : Follows x script)
    {start now : Library MemoryStore} (answers : now.AnswersAs start) :
    (x now).result = script.replied start.reply ∧ (x now).state.AnswersAs start := by
  have ended := script.run_eq_replied answers
  rwa [← follows now] at ended

end Run.Follows
end ShaderGraph
