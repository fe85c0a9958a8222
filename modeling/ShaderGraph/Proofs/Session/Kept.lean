import ShaderGraph.Proofs.Session.Action

/-! What a library keeps over a session in which documents change: the answer to the first request
that succeeds. -/
namespace ShaderGraph
namespace Session

variable {start : Session} {past : List Action} {request : Request}

/-- The request has succeeded, whatever has become of the documents since. -/
def Answered (start : Session) (past : List Action) (request : Request)
    (answer : request.Answer) : Prop :=
  ∃ before behind, past = before ++ .ask request :: behind ∧
    (request.ask (perform before start)).result = .ok answer

def Sourced (start : Session) (past : List Action) (path : ResourcePath) (text : String) : Prop :=
  ∃ function other, other.canonical = path.canonical ∧
    Answered start past (.source function other) text

theorem perform_append (before behind : List Action) (session : Session) :
    perform (before ++ behind) session = perform behind (perform before session) :=
  List.foldl_append

theorem kept?_perform_of_kept {session : Session} {answer : request.Answer}
    (kept : request.kept? session = some answer) (actions : List Action) :
    request.kept? (perform actions session) = some answer := by
  induction actions generalizing session with
  | nil => exact kept
  | cons action rest ih => exact ih (Action.kept?_perform_of_kept kept action)

theorem Answered.kept? {answer : request.Answer} (answered : Answered start past request answer) :
    request.kept? (perform past start) = some answer := by
  obtain ⟨before, behind, rfl, returns⟩ := answered
  rw [perform_append]
  exact kept?_perform_of_kept (Request.kept?_perform_of_returns returns) behind

theorem Sourced.get? {path : ResourcePath} {text : String} (sourced : Sourced start past path text) :
    (perform past start).sources.get? path.canonical = some text := by
  obtain ⟨function, other, same, answered⟩ := sourced
  rw [← same]
  exact answered.kept?

/-- Whatever is kept has been found in the documents by the first request that asked for it with
success. -/
theorem kept?_origin (request : Request) {answer : request.Answer}
    (absent : request.kept? start = none)
    (kept : request.kept? (perform past start) = some answer) :
    ∃ before other behind reply, past = before ++ .ask other :: behind ∧
      other.slot = request.slot ∧ (other.ask (perform before start)).result = .ok reply ∧
      request.kept? (perform before start) = none ∧
      request.answer (perform before start).store.documents = .ok answer := by
  induction past generalizing start with
  | nil => exact absurd (kept.symm.trans absent) (Option.some_ne_none answer)
  | cons action rest ih =>
    cases here : request.kept? (Action.perform start action) with
    | none =>
      obtain ⟨before, other, behind, reply, rfl, found⟩ := ih here kept
      exact ⟨action :: before, other, behind, reply, rfl, found⟩
    | some added =>
      -- What this action adds is still kept at the end.
      obtain rfl : added = answer :=
        Option.some.inj ((kept?_perform_of_kept here rest).symm.trans kept)
      cases action with
      | put path text => simp [Action.kept?_perform_put, absent] at here
      | read path => simp [Action.kept?_perform_read, absent] at here
      | ask other =>
        have here : request.kept? (other.perform start) = some added := here
        obtain ⟨reply, returns⟩ := Request.returns_of_adds absent here
        rw [Request.kept?_perform, absent, Option.none_or] at here
        split at here
        · rename_i same
          exact ⟨[], other, rest, reply, rfl, same.symm, returns, absent,
            Run.toOption_eq_some.mp here⟩
        · contradiction

/-- As long as no request for it has succeeded, an answer is not kept. -/
theorem kept?_of_never (request : Request) (absent : request.kept? start = none)
    (never : ∀ other reply, other.slot = request.slot → ¬ Answered start past other reply) :
    request.kept? (perform past start) = none := by
  cases kept : request.kept? (perform past start) with
  | none => rfl
  | some answer =>
    obtain ⟨before, other, behind, reply, split, same, returns, _⟩ :=
      kept?_origin request absent kept
    exact absurd ⟨before, behind, split, returns⟩ (never other reply same)

/-- What the past means for the loads that follow it. What was loaded once is not read again, and is
what the document said when it was first loaded. A load that fails keeps nothing, so that it has no
part in what becomes of later ones. -/
structure Remembers (start : Session) (past : List Action) : Prop where
  load_answered : ∀ {function signature}, Answered start past (.signature function) signature →
    Library.load function (perform past start) = ⟨.ok signature, perform past start, []⟩
  loadSource_answered : ∀ {path text}, Sourced start past path text → ∀ function,
    Library.loadSource function path (perform past start) = ⟨.ok text, perform past start, []⟩
  signature_origin : ∀ {function signature},
    (perform past start).signatures.get? function = some signature →
      ∃ before behind text, past = before ++ .ask (.signature function) :: behind ∧
        (∀ earlier, ¬ Answered start before (.signature function) earlier) ∧
        (Library.load function (perform before start)).result = .ok signature ∧
        (perform before start).store.documents.get? (functionPath function).canonical = some text ∧
        Signature.parse function text = .ok signature
  load_fails : ∀ {function cause},
    (Library.load function (perform past start)).result = .error cause →
      let failed := (Library.load function (perform past start)).state
      failed.signatures = (perform past start).signatures ∧
        failed.sources = (perform past start).sources
  loadSource_fails : ∀ {function path cause},
    (Library.loadSource function path (perform past start)).result = .error cause →
      let failed := (Library.loadSource function path (perform past start)).state
      failed.signatures = (perform past start).signatures ∧
        failed.sources = (perform past start).sources
  load_repaired : ∀ {function cause},
    (Library.load function (perform past start)).result = .error cause →
      ∀ {since text signature},
        let later := perform since (perform past start)
        (∀ earlier, ¬ Answered (perform past start) since (.signature function) earlier) →
        later.store.documents.get? (functionPath function).canonical = some text →
        Signature.parse function text = .ok signature →
        (Library.load function later).result = .ok signature
  loadSource_repaired : ∀ {function path cause},
    (Library.loadSource function path (perform past start)).result = .error cause →
      ∀ {since text},
        let later := perform since (perform past start)
        (∀ earlier, ¬ Sourced (perform past start) since path earlier) →
        later.store.documents.get? path.canonical = some text →
        (Library.loadSource function path later).result = .ok text

theorem remembers_ofStore (store : MemoryStore) (past : List Action) :
    Remembers (.ofStore store) past where
  load_answered answered := Request.ask_of_kept answered.kept?
  loadSource_answered {path text} sourced function := by
    have kept : (Request.source function path).kept? (perform past (.ofStore store)) = some text :=
      sourced.get?
    exact Request.ask_of_kept kept
  signature_origin {function signature} kept := by
    obtain ⟨before, other, behind, reply, split, same, _, absent, found⟩ :=
      kept?_origin (.signature function) rfl kept
    cases other with
    | source name path => cases same
    | signature name =>
      cases same
      obtain ⟨text, holds, parsed⟩ := Request.answer_signature_eq_ok.mp found
      have returns := (Request.ask_of_not_kept absent).1.trans found
      have first (earlier : Signature) : ¬ Answered _ before (.signature function) earlier :=
        fun answered => Option.some_ne_none earlier (answered.kept?.symm.trans absent)
      exact ⟨before, behind, text, split, first, returns, holds, parsed⟩
  load_fails {function _} fails := Request.tables_perform_of_fails (.signature function) fails
  loadSource_fails {function path _} fails :=
    Request.tables_perform_of_fails (.source function path) fails
  load_repaired {function _} fails since text signature never holds parsed := by
    have absent : (Request.signature function).kept?
        (perform since (perform past (.ofStore store))) = none := by
      refine kept?_of_never _ (Request.kept?_eq_none_of_fails _ fails) ?_
      intro other reply same answered
      cases other with
      | source name path => cases same
      | signature name =>
        cases same
        exact never reply answered
    exact (Request.ask_of_not_kept absent).1.trans
      (Request.answer_signature_eq_ok.mpr ⟨text, holds, parsed⟩)
  loadSource_repaired {function path _} fails since text never holds := by
    have absent : (Request.source function path).kept?
        (perform since (perform past (.ofStore store))) = none := by
      refine kept?_of_never _ (Request.kept?_eq_none_of_fails _ fails) ?_
      intro other reply same answered
      cases other with
      | signature name => cases same
      | source name other => exact never reply ⟨name, other, Sum.inr.inj same, answered⟩
    exact (Request.ask_of_not_kept absent).1.trans (Request.answer_source_eq_ok.mpr holds)

/-- A session is what its actions make of it, and at every moment of it, also in the middle of a
compilation, loads are bound by those that have succeeded before. -/
theorem remembers_of_history (store : MemoryStore) (steps : List Step) :
    let fresh : Session := .ofStore store
    perform (history steps fresh) fresh = after steps fresh ∧
      ∀ past, past <+: history steps fresh → Remembers fresh past :=
  ⟨perform_history steps _, fun past _ => remembers_ofStore store past⟩

/-- Behind a compilation that fails at the second function, the metadata of the first is spoilt and
that of the second is repaired. -/
def repairSteps : List Step :=
  [.compileDocument [] halfBroken, .putFunction "wave" "]",
    .putFunction "broken" "'source': 'a'"]

def sinceWave : List Action :=
  [.ask (.signature "broken"), .put (functionPath "wave") "]",
    .put (functionPath "broken") "'source': 'a'"]

theorem repair_remembered :
    let fresh : Session := .ofStore waveStore
    let now := after repairSteps fresh
    Library.load "wave" now = ⟨.ok ⟨"wave", [], [], none, ∅, ∅, ∅⟩, now, []⟩ ∧
      (Library.load "broken" now).result = .ok ⟨"broken", [], [], some "a", ∅, ∅, ∅⟩ := by
  intro fresh now
  obtain ⟨whole, law⟩ := remembers_of_history waveStore repairSteps
  have past : history repairSteps fresh = [.ask (.signature "wave")] ++ sinceWave := by
    decide +kernel
  constructor
  · have loaded : (Library.load "wave" fresh).result = .ok ⟨"wave", [], [], none, ∅, ∅, ∅⟩ :=
      Run.toOption_eq_some.mp (by decide +kernel)
    have load := (law _ (List.prefix_refl _)).load_answered ⟨[], sinceWave, past, loaded⟩
    rwa [whole] at load
  · have remembers := law [.ask (.signature "wave")] ⟨sinceWave, past.symm⟩
    obtain ⟨cause, fails⟩ : ∃ cause, (Library.load "broken"
        (perform [.ask (.signature "wave")] fresh)).result = .error cause :=
      Run.toOption_eq_none.mp (by decide +kernel)
    have absent : (perform sinceWave (perform [.ask (.signature "wave")] fresh)).signatures.get?
        "broken" = none := by decide +kernel
    have holds : (perform sinceWave
        (perform [.ask (.signature "wave")] fresh)).store.documents.get?
          (functionPath "broken").canonical = some "'source': 'a'" := by decide +kernel
    have parsed : Signature.parse "broken" "'source': 'a'" =
        .ok ⟨"broken", [], [], some "a", ∅, ∅, ∅⟩ :=
      Run.toOption_eq_some.mp (by decide +kernel)
    have load := remembers.load_repaired fails
      (fun earlier answered =>
        Option.some_ne_none earlier (answered.kept?.symm.trans absent)) holds parsed
    rwa [← perform_append, ← past, whole] at load

end Session
end ShaderGraph
