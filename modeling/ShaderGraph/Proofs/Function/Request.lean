import ShaderGraph.Function.Library
import ShaderGraph.Proofs.Run
import ShaderGraph.Proofs.Table

/-! What a library is asked for, and what it answers over documents in memory: what it keeps, and
otherwise what the document says that the store holds by then. -/
namespace ShaderGraph

inductive Request where
  | signature (function : String)
  | source (function : String) (path : ResourcePath)
  deriving DecidableEq, Repr

namespace Request

abbrev Answer : Request → Type
  | signature _ => Signature
  | source .. => String

def ask [ResourceStore σ] : (request : Request) → Run (Library σ) LibraryError request.Answer
  | signature function => Library.load function
  | source function path => Library.loadSource function path

def path : Request → ResourcePath
  | signature function => functionPath function
  | source _ path => path

def decode : (request : Request) → String → Except LibraryError request.Answer
  | signature function, text => (Signature.parse function text).mapError (.malformed function)
  | source .., text => .ok text

def missing : Request → LibraryError
  | signature function => .read function (functionPath function) (.noDocument (functionPath function))
  | source function path => .source function path (.noDocument path)

/-- What the documents of a store say, whatever a library keeps. -/
def answer (documents : Table String String) (request : Request) :
    Except LibraryError request.Answer :=
  match documents.get? request.path.canonical with
  | none => .error request.missing
  | some text => request.decode text

/-- Where a library keeps the answer: signatures by function, sources by path. -/
def slot : Request → String ⊕ String
  | signature function => .inl function
  | source _ path => .inr path.canonical

def kept? (library : Library σ) : (request : Request) → Option request.Answer
  | signature function => library.signatures.get? function
  | source _ path => library.sources.get? path.canonical

def keep (library : Library σ) : (request : Request) → request.Answer → Library σ
  | signature function, answer =>
    { library with signatures := library.signatures.insert function answer }
  | source _ path, answer => { library with sources := library.sources.insert path.canonical answer }

def served (library : Library MemoryStore) : Library MemoryStore :=
  { library with store := { library.store with reads := library.store.reads + 1 } }

/-- What becomes of a library that does not keep the answer. -/
def settle (documents : Table String String) (request : Request) (library : Library MemoryStore) :
    Library MemoryStore :=
  match documents.get? request.path.canonical with
  | none => library
  | some text =>
    match request.decode text with
    | .error _ => served library
    | .ok answer => request.keep (served library) answer

variable {library : Library MemoryStore} {request other : Request}

theorem ask_of_kept {answer : request.Answer} (kept : request.kept? library = some answer) :
    request.ask library = ⟨.ok answer, library, []⟩ := by
  cases request with
  | signature function =>
    have kept : library.signatures.get? function = some answer := kept
    simp only [ask, Library.load, kept]
  | source function path =>
    have kept : library.sources.get? path.canonical = some answer := kept
    simp only [ask, Library.loadSource, kept]

theorem ask_of_not_kept (absent : request.kept? library = none) :
    (request.ask library).result = request.answer library.store.documents ∧
      (request.ask library).state = request.settle library.store.documents library := by
  cases request with
  | signature function =>
    have absent : library.signatures.get? function = none := absent
    simp only [ask, Library.load, absent, ResourceStore.read, MemoryStore.read, answer, settle, path]
    cases library.store.documents.get? (functionPath function).canonical with
    | none => exact ⟨rfl, rfl⟩
    | some text =>
      simp only [decode]
      cases Signature.parse function text <;> exact ⟨rfl, rfl⟩
  | source function path =>
    have absent : library.sources.get? path.canonical = none := absent
    simp only [ask, Library.loadSource, absent, ResourceStore.read, MemoryStore.read, answer, settle,
      Request.path]
    cases library.store.documents.get? path.canonical <;> exact ⟨rfl, rfl⟩

theorem answer_signature_eq_ok {documents : Table String String} {function : String}
    {found : Signature} :
    (signature function).answer documents = .ok found ↔
      ∃ text, documents.get? (functionPath function).canonical = some text ∧
        Signature.parse function text = .ok found := by
  rw [answer, Request.path]
  cases documents.get? (functionPath function).canonical with
  | none => simp
  | some text => simp [decode, Run.mapError_eq_ok]

theorem answer_source_eq_ok {documents : Table String String} {function : String}
    {path : ResourcePath} {text : String} :
    (source function path).answer documents = .ok text ↔
      documents.get? path.canonical = some text := by
  rw [answer, Request.path]
  cases documents.get? path.canonical <;> simp [decode]

theorem result_ask (request : Request) (library : Library MemoryStore) :
    (request.ask library).result =
      match request.kept? library with
      | some answer => .ok answer
      | none => request.answer library.store.documents := by
  cases kept : request.kept? library with
  | some answer => rw [ask_of_kept kept]
  | none => exact (ask_of_not_kept kept).1

def perform [ResourceStore σ] (library : Library σ) (request : Request) : Library σ :=
  (request.ask library).state

theorem perform_of_kept {answer : request.Answer} (kept : request.kept? library = some answer) :
    perform library request = library := by
  rw [perform, ask_of_kept kept]

theorem perform_of_not_kept (absent : request.kept? library = none) :
    perform library request = request.settle library.store.documents library :=
  (ask_of_not_kept absent).2

theorem documents_settle (documents : Table String String) (request : Request)
    (library : Library MemoryStore) :
    (request.settle documents library).store.documents = library.store.documents := by
  rw [settle]
  split
  · rfl
  · split
    · rfl
    · cases request <;> rfl

@[simp] theorem documents_perform (library : Library MemoryStore) (request : Request) :
    (perform library request).store.documents = library.store.documents := by
  cases kept : request.kept? library with
  | some answer => rw [perform_of_kept kept]
  | none => rw [perform_of_not_kept kept, documents_settle]

/-- Answers with one slot are kept together. -/
theorem kept?_eq_none_of_slot_eq (same : other.slot = request.slot) :
    other.kept? library = none ↔ request.kept? library = none := by
  cases request with
  | signature function =>
    cases other with
    | signature function => cases same; rfl
    | source function path => cases same
  | source function path =>
    cases other with
    | signature function => cases same
    | source function path => simp only [kept?, Sum.inr.inj same]

theorem kept?_keep (request : Request) (library : Library σ) (answer : request.Answer) :
    request.kept? (request.keep library answer) = some answer := by
  cases request <;> exact (Table.get?_insert ..).trans (if_pos rfl)

theorem kept?_keep_of_slot_ne (apart : other.slot ≠ request.slot) (library : Library σ)
    (answer : request.Answer) : other.kept? (request.keep library answer) = other.kept? library := by
  cases request with
  | signature function =>
    cases other with
    | signature name =>
      exact (Table.get?_insert ..).trans (if_neg fun same => apart (congrArg Sum.inl same))
    | source name path => rfl
  | source function path =>
    cases other with
    | signature name => rfl
    | source name other =>
      exact (Table.get?_insert ..).trans (if_neg fun same => apart (congrArg Sum.inr same))

theorem kept?_served (request : Request) (library : Library MemoryStore) :
    request.kept? (served library) = request.kept? library := by
  cases request <;> rfl

theorem kept?_settle_of_slot_ne (apart : other.slot ≠ request.slot)
    (documents : Table String String) (library : Library MemoryStore) :
    other.kept? (request.settle documents library) = other.kept? library := by
  rw [settle]
  split
  · rfl
  · split
    · exact kept?_served other library
    · exact (kept?_keep_of_slot_ne apart _ _).trans (kept?_served other library)

/-- Only what the documents say is kept from then on. -/
theorem kept?_settle (absent : request.kept? library = none) (documents : Table String String) :
    request.kept? (request.settle documents library) = (request.answer documents).toOption := by
  rw [settle, answer]
  cases documents.get? request.path.canonical with
  | none => exact absent
  | some text =>
    simp only
    cases request.decode text with
    | error cause => exact (kept?_served request library).trans absent
    | ok answer => exact kept?_keep request _ answer

theorem toOption_answer_source (function : String) (path : ResourcePath)
    (documents : Table String String) :
    ((source function path).answer documents).toOption = documents.get? path.canonical := by
  rw [answer, Request.path]
  cases documents.get? path.canonical <;> rfl

/-- A request adds the answers of its slot to what is kept, as far as there are any, and takes
nothing away. -/
theorem kept?_perform (library : Library MemoryStore) (request other : Request) :
    other.kept? (perform library request) =
      (other.kept? library).or (if other.slot = request.slot then
        (other.answer library.store.documents).toOption else none) := by
  cases kept : request.kept? library with
  | some answer =>
    rw [perform_of_kept kept]
    split
    · rename_i same
      have found : other.kept? library ≠ none := by
        rw [Ne, kept?_eq_none_of_slot_eq same, kept]
        exact Option.some_ne_none answer
      obtain ⟨found, holds⟩ := Option.ne_none_iff_exists'.mp found
      rw [holds, Option.some_or]
    · exact Option.or_none.symm
  | none =>
    rw [perform_of_not_kept kept]
    split
    · rename_i same
      rw [(kept?_eq_none_of_slot_eq same).mpr kept, Option.none_or]
      cases request with
      | signature function =>
        cases other with
        | signature name =>
          cases same
          exact kept?_settle kept _
        | source name path => cases same
      | source function path =>
        cases other with
        | signature name => cases same
        | source name other =>
          have here := kept?_settle kept library.store.documents
          rw [toOption_answer_source] at here ⊢
          simp only [kept?, Sum.inr.inj same] at here ⊢
          exact here
    · rename_i apart
      rw [kept?_settle_of_slot_ne apart, Option.or_none]

theorem kept?_perform_of_slot_ne (apart : other.slot ≠ request.slot)
    (library : Library MemoryStore) :
    other.kept? (perform library request) = other.kept? library := by
  rw [kept?_perform, if_neg apart, Option.or_none]

/-- What is kept stays. -/
theorem kept?_perform_of_kept {answer : other.Answer} (kept : other.kept? library = some answer)
    (request : Request) : other.kept? (perform library request) = some answer := by
  rw [kept?_perform, kept, Option.some_or]

theorem kept?_perform_of_returns {answer : request.Answer}
    (returns : (request.ask library).result = .ok answer) :
    request.kept? (perform library request) = some answer := by
  rw [result_ask] at returns
  rw [kept?_perform, if_pos rfl]
  cases kept : request.kept? library with
  | some found =>
    rw [kept] at returns
    exact congrArg some (Except.ok.inj returns)
  | none =>
    have returns : request.answer library.store.documents = .ok answer := by rwa [kept] at returns
    rw [Option.none_or, Run.toOption_eq_some, returns]

theorem kept?_eq_none_of_fails (request : Request) {cause : LibraryError}
    (fails : (request.ask library).result = .error cause) : request.kept? library = none := by
  rw [result_ask] at fails
  cases kept : request.kept? library with
  | some found =>
    rw [kept] at fails
    contradiction
  | none => rfl

/-- A failure leaves no trace in what is kept. -/
theorem tables_perform_of_fails (request : Request) {cause : LibraryError}
    (fails : (request.ask library).result = .error cause) :
    (perform library request).signatures = library.signatures ∧
      (perform library request).sources = library.sources := by
  have absent := kept?_eq_none_of_fails request fails
  rw [(ask_of_not_kept absent).1, answer] at fails
  rw [perform_of_not_kept absent, settle]
  cases found : library.store.documents.get? request.path.canonical with
  | none => exact ⟨rfl, rfl⟩
  | some text =>
    simp only [found] at fails
    simp only [fails]
    exact ⟨rfl, rfl⟩

/-- The answer to a request stays, whatever else the library is asked. -/
theorem result_ask_perform (library : Library MemoryStore) (request other : Request) :
    (other.ask (perform library request)).result = (other.ask library).result := by
  rw [result_ask, result_ask, kept?_perform, documents_perform]
  cases other.kept? library with
  | some answer => rfl
  | none =>
    by_cases same : other.slot = request.slot
    · rw [Option.none_or, if_pos same]
      cases other.answer library.store.documents <;> rfl
    · rw [Option.none_or, if_neg same]

/-- Only a request that succeeds adds to what is kept. -/
theorem returns_of_adds {answer : other.Answer} (absent : other.kept? library = none)
    (added : other.kept? (perform library request) = some answer) :
    ∃ reply, (request.ask library).result = .ok reply := by
  cases returns : (request.ask library).result with
  | ok reply => exact ⟨reply, rfl⟩
  | error cause =>
    obtain ⟨signatures, sources⟩ := tables_perform_of_fails request returns
    have same : other.kept? (perform library request) = other.kept? library := by
      cases other with
      | signature function => simp only [kept?, signatures]
      | source function path => simp only [kept?, sources]
    rw [same, absent] at added
    contradiction

theorem perform_of_slot_eq (same : other.slot = request.slot) (library : Library MemoryStore) :
    perform library other = perform library request := by
  cases request with
  | signature function =>
    cases other with
    | signature name =>
      cases same
      rfl
    | source name path => cases same
  | source function path =>
    cases other with
    | signature name => cases same
    | source name other =>
      have canonical : other.canonical = path.canonical := Sum.inr.inj same
      simp only [perform, ask, Library.loadSource, ResourceStore.read, MemoryStore.read, canonical]
      cases library.sources.get? path.canonical with
      | some text => rfl
      | none => cases library.store.documents.get? path.canonical <;> rfl

theorem keep_comm (apart : request.slot ≠ other.slot) (library : Library σ)
    (answer : request.Answer) (reply : other.Answer) :
    other.keep (request.keep library answer) reply =
      request.keep (other.keep library reply) answer := by
  cases request with
  | signature function =>
    cases other with
    | signature name =>
      have apart : function ≠ name := fun same => apart (congrArg Sum.inl same)
      simp only [keep, Table.insert_comm _ apart]
    | source name path => rfl
  | source function path =>
    cases other with
    | signature name => rfl
    | source name other =>
      have apart : path.canonical ≠ other.canonical := fun same => apart (congrArg Sum.inr same)
      simp only [keep, Table.insert_comm _ apart]

theorem served_keep (request : Request) (library : Library MemoryStore) (answer : request.Answer) :
    served (request.keep library answer) = request.keep (served library) answer := by
  cases request <;> rfl

theorem settle_comm (apart : request.slot ≠ other.slot) (documents : Table String String)
    (library : Library MemoryStore) :
    other.settle documents (request.settle documents library) =
      request.settle documents (other.settle documents library) := by
  rw [settle, settle, settle, settle]
  cases documents.get? request.path.canonical with
  | none => rfl
  | some text =>
    cases documents.get? other.path.canonical with
    | none => rfl
    | some words =>
      simp only
      cases request.decode text with
      | error cause =>
        cases other.decode words with
        | error _ => rfl
        | ok reply => simp only [served_keep]
      | ok answer =>
        cases other.decode words with
        | error _ => simp only [served_keep]
        | ok reply => simp only [served_keep, keep_comm apart]

theorem settle_served (documents : Table String String) (request : Request)
    (library : Library MemoryStore) :
    request.settle documents (served library) = served (request.settle documents library) := by
  rw [settle, settle]
  cases documents.get? request.path.canonical with
  | none => rfl
  | some text =>
    simp only
    cases request.decode text with
    | error cause => rfl
    | ok answer => exact (served_keep request (served library) answer).symm

/-- It makes no difference what else the store has served. -/
theorem perform_served (library : Library MemoryStore) (request : Request) :
    perform (served library) request = served (perform library request) := by
  cases kept : request.kept? library with
  | some answer =>
    rw [perform_of_kept kept, perform_of_kept ((kept?_served request library).trans kept)]
  | none =>
    rw [perform_of_not_kept kept,
      perform_of_not_kept ((kept?_served request library).trans kept)]
    exact settle_served _ request library

/-- It makes no difference which of two requests comes first. -/
theorem perform_comm (library : Library MemoryStore) (request other : Request) :
    perform (perform library request) other = perform (perform library other) request := by
  by_cases same : request.slot = other.slot
  · rw [perform_of_slot_eq same, perform_of_slot_eq same]
  · cases kept : request.kept? library with
    | some answer =>
      rw [perform_of_kept kept, perform_of_kept (kept?_perform_of_kept kept other)]
    | none =>
      cases held : other.kept? library with
      | some reply =>
        rw [perform_of_kept held, perform_of_kept (kept?_perform_of_kept held request)]
      | none =>
        have first : request.kept? (perform library other) = none := by
          rw [kept?_perform_of_slot_ne same, kept]
        have second : other.kept? (perform library request) = none := by
          rw [kept?_perform_of_slot_ne (Ne.symm same), held]
        rw [perform_of_not_kept first, perform_of_not_kept second, documents_perform,
          documents_perform, perform_of_not_kept kept, perform_of_not_kept held, settle_comm same]

end Request

namespace Library

/-- All that a library keeps is what its store says now. -/
def Current (library : Library MemoryStore) : Prop :=
  ∀ request answer, Request.kept? library request = some answer →
    request.answer library.store.documents = .ok answer

theorem current_ofStore (store : MemoryStore) : (ofStore store).Current := by
  intro request answer kept
  cases request <;> cases kept

variable {library : Library MemoryStore}

theorem Current.result_ask (current : library.Current) (request : Request) :
    (request.ask library).result = request.answer library.store.documents := by
  rw [Request.result_ask]
  cases kept : request.kept? library with
  | some answer => exact (current request answer kept).symm
  | none => rfl

theorem Current.perform (current : library.Current) (request : Request) :
    (Request.perform library request).Current := by
  intro other answer kept
  rw [Request.documents_perform]
  rw [Request.kept?_perform, Option.or_eq_some_iff] at kept
  rcases kept with kept | ⟨_, added⟩
  · exact current other answer kept
  · split at added
    · exact Run.toOption_eq_some.mp added
    · contradiction

end Library
end ShaderGraph
