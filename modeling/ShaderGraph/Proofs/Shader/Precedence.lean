import ShaderGraph.Proofs.Graph.Cycle
import ShaderGraph.Proofs.Shader.Graph

/-! The order of failures. A text is parsed, and its graph is built and put in order, before a library
is asked for anything. What fails by then fails whatever the library holds, and leaves it as it is. -/
namespace ShaderGraph

/-- There is no graph for a text: it is not a document, or its document has no graph. -/
def Unread (supplied : SortedSet String) (text : String) (cause : DocumentError) : Prop :=
  GraphDocument.parse text = .error cause ∨
    ∃ document, GraphDocument.parse text = .ok document ∧
      (Graph.ofDocument document supplied).1 = .error cause

structure ReadAs (supplied : SortedSet String) (text : String) (document : GraphDocument)
    (graph : Graph) : Prop where
  parsed : GraphDocument.parse text = .ok document
  read : (Graph.ofDocument document supplied).1 = .ok graph

def Graph.ofText (supplied : SortedSet String) (text : String) : Except DocumentError Graph :=
  GraphDocument.parse text >>= fun document => (ofDocument document supplied).1

/-- How far the compilation of a text comes. The library has a part in it from the order of the nodes
on, and all that can fail from then on is the program. -/
inductive Reaches (supplied : SortedSet String) (text : String) (library : Library σ)
    (outcome : Outcome (Library σ) CompileError Shader) : Prop where
  | unread (cause : DocumentError) (unread : Unread supplied text cause)
      (result : outcome.result = .error (.document cause)) (state : outcome.state = library)
  | unordered (document : GraphDocument) (graph : Graph) (readAs : ReadAs supplied text document graph)
      (cycle : NamedCycle) (failed : graph.schedule.1 = .error cycle)
      (result : outcome.result = .error (.cycle cycle.names)) (state : outcome.state = library)
  | ordered (document : GraphDocument) (graph : Graph) (readAs : ReadAs supplied text document graph)
      (scheduled : ScheduledGraph) (ordered : graph.schedule.1 = .ok scheduled)
      (result : ∀ error, outcome.result = .error error → ∃ cause, error = .program cause)

variable {supplied : SortedSet String} {text : String}

theorem Unread.ofText {cause : DocumentError} (unread : Unread supplied text cause) :
    Graph.ofText supplied text = .error cause := by
  rcases unread with failed | ⟨document, parsed, failed⟩
  · rw [Graph.ofText, failed]
    rfl
  · rw [Graph.ofText, parsed]
    exact failed

theorem ReadAs.ofText {document : GraphDocument} {graph : Graph}
    (readAs : ReadAs supplied text document graph) : Graph.ofText supplied text = .ok graph := by
  rw [Graph.ofText, readAs.parsed]
  exact readAs.read

namespace Reaches

variable {library : Library σ} {outcome : Outcome (Library σ) CompileError Shader}

theorem document_iff (reaches : Reaches supplied text library outcome) (cause : DocumentError) :
    outcome.result = .error (.document cause) ↔ Unread supplied text cause := by
  cases reaches with
  | unread other unread result =>
    rw [result]
    constructor
    · rintro ⟨⟩
      exact unread
    · intro again
      rw [Except.error.inj (unread.ofText.symm.trans again.ofText)]
  | unordered document graph readAs cycle failed result =>
    rw [result]
    constructor
    · rintro ⟨⟩
    · exact fun unread => nomatch readAs.ofText.symm.trans unread.ofText
  | ordered document graph readAs scheduled ordered result =>
    constructor
    · intro failed
      obtain ⟨_, program⟩ := result _ failed
      cases program
    · exact fun unread => nomatch readAs.ofText.symm.trans unread.ofText

theorem cycle_iff (reaches : Reaches supplied text library outcome) {document : GraphDocument}
    {graph : Graph} (readAs : ReadAs supplied text document graph) :
    (∃ names, outcome.result = .error (.cycle names)) ↔ document.Cyclic := by
  rw [← (Graph.ofDocument_represents readAs.read).schedule_error_iff]
  cases reaches with
  | unread cause unread => exact nomatch readAs.ofText.symm.trans unread.ofText
  | unordered _ other again cycle failed result =>
    obtain rfl := Except.ok.inj (again.ofText.symm.trans readAs.ofText)
    exact iff_of_true ⟨_, result⟩ ⟨cycle, failed⟩
  | ordered _ other again scheduled ordered result =>
    obtain rfl := Except.ok.inj (again.ofText.symm.trans readAs.ofText)
    constructor
    · rintro ⟨names, failed⟩
      obtain ⟨_, program⟩ := result _ failed
      cases program
    · rintro ⟨cycle, failed⟩
      exact nomatch ordered.symm.trans failed

theorem circle (reaches : Reaches supplied text library outcome) {names : List String}
    (failed : outcome.result = .error (.cycle names)) :
    ∃ document graph, ReadAs supplied text document graph ∧ document.Circle names := by
  cases reaches with
  | unread cause unread result => exact nomatch result.symm.trans failed
  | unordered document graph readAs cycle unordered result =>
    cases result.symm.trans failed
    have represents := Graph.ofDocument_represents readAs.read
    exact ⟨document, graph, readAs, represents.circle_of_schedule unordered⟩
  | ordered document graph readAs scheduled ordered result =>
    obtain ⟨_, program⟩ := result _ failed
    cases program

/-- What fails before the program leaves the library alone. -/
theorem state_eq (reaches : Reaches supplied text library outcome) {error : CompileError}
    (failed : outcome.result = .error error) (early : ∀ cause, error ≠ .program cause) :
    outcome.state = library := by
  cases reaches with
  | unread _ _ _ state => exact state
  | unordered _ _ _ _ _ _ state => exact state
  | ordered _ _ _ _ _ result =>
    obtain ⟨cause, program⟩ := result _ failed
    exact absurd program (early cause)

end Reaches

variable [ResourceStore σ]

namespace Graph

variable {graph : Graph}

theorem compile_of_unordered {cycle : NamedCycle} (failed : graph.schedule.1 = .error cycle)
    (supplied : SortedSet String) (library : Library σ) :
    (graph.compile supplied library).result = .error (.cycle cycle.names) ∧
      (graph.compile supplied library).state = library := by
  simp only [compile, failed]
  exact ⟨rfl, rfl⟩

theorem compile_of_ordered {scheduled : ScheduledGraph} (ordered : graph.schedule.1 = .ok scheduled)
    (library : Library σ) :
    (graph.compile supplied library).result =
      ((Program.ofScheduled scheduled supplied library).result.mapError .program).map
        Shader.ofProgram := by
  simp only [compile, ordered, Except.mapError, Bind.bind, Run.bind, Run.ofResult, Run.mapError]
  cases Program.ofScheduled scheduled supplied library with
  | mk result state log => cases result <;> rfl

end Graph

theorem compileText_of_parsed {document : GraphDocument}
    (parsed : GraphDocument.parse text = .ok document) (supplied : SortedSet String)
    (library : Library σ) :
    (compileText supplied text library).result = (compile supplied document library).result ∧
      (compileText supplied text library).state = (compile supplied document library).state := by
  rw [compileText, parsed]
  exact Run.ofResult_bind document [] (compile supplied) library

theorem compileText_reaches (supplied : SortedSet String) (text : String) (library : Library σ) :
    Reaches supplied text library (compileText supplied text library) := by
  cases parsed : GraphDocument.parse text with
  | error cause =>
    refine .unread cause (.inl parsed) ?_ ?_ <;> rw [compileText, parsed] <;> rfl
  | ok document =>
    obtain ⟨result, state⟩ := compileText_of_parsed parsed supplied library
    cases read : (Graph.ofDocument document supplied).1 with
    | error cause =>
      obtain ⟨failed, kept⟩ := compile_of_unread read library
      exact .unread cause (.inr ⟨document, parsed, read⟩) (result.trans failed) (state.trans kept)
    | ok graph =>
      obtain ⟨built, after⟩ := compile_of_read read library
      cases ordered : graph.schedule.1 with
      | error cycle =>
        obtain ⟨failed, kept⟩ := Graph.compile_of_unordered ordered supplied library
        exact .unordered document graph ⟨parsed, read⟩ cycle ordered
          ((result.trans built).trans failed) ((state.trans after).trans kept)
      | ok scheduled =>
        refine .ordered document graph ⟨parsed, read⟩ scheduled ordered fun error failed => ?_
        rw [result, built, Graph.compile_of_ordered ordered] at failed
        cases made : (Program.ofScheduled scheduled supplied library).result with
        | error cause =>
          rw [made] at failed
          exact ⟨cause, (Except.error.inj failed).symm⟩
        | ok program =>
          rw [made] at failed
          cases failed

/-- The compilation of a text fails with an error about the document if and only if there is no graph
for it, and otherwise with a cycle if and only if the document has one, whatever the library holds. The
names on the cycle are then joined by edges. By both failures the library stays as it is, whatever its
store keeps account of, so that no resource is asked for. -/
theorem compileText_fails_in_order (supplied : SortedSet String) (text : String)
    (library : Library σ) :
    let outcome := compileText supplied text library
    (∀ cause, outcome.result = .error (.document cause) ↔ Unread supplied text cause) ∧
    (∀ document graph, ReadAs supplied text document graph →
      ((∃ names, outcome.result = .error (.cycle names)) ↔ document.Cyclic)) ∧
    (∀ names, outcome.result = .error (.cycle names) →
      (∃ document graph, ReadAs supplied text document graph ∧ document.Circle names) ∧
        outcome.state = library) ∧
    ∀ cause, outcome.result = .error (.document cause) → outcome.state = library := by
  intro outcome
  have reaches : Reaches supplied text library outcome := compileText_reaches supplied text library
  refine ⟨reaches.document_iff, fun document graph => reaches.cycle_iff, fun names failed => ?_,
    fun cause failed => ?_⟩
  · exact ⟨reaches.circle failed, reaches.state_eq failed fun _ => nofun⟩
  · exact reaches.state_eq failed fun _ => nofun

structure AskedStore where
  documents : MemoryStore
  asked : List ResourcePath

instance : ResourceStore AskedStore where
  read store path :=
    let (answer, documents) := store.documents.read path
    (answer, ⟨documents, store.asked ++ [path]⟩)

def unasked : Library AskedStore := .ofStore ⟨.empty, []⟩

/-- The edge leads from the node to itself, though it spells the name otherwise. The library does not
hold its function. -/
def ownInput : String :=
  "'nodes':\n- 'name': 'a::b'\n  'model': \x7b'name': 'f'\x7d\n'edges':\n" ++
    "- 'from': \x7b'name': 'a_b', 'interface': 'y'\x7d\n  'to': \x7b'name': 'a::b', 'interface': 'x'\x7d"

theorem ownInput_fails :
    ((compileText ∅ ownInput unasked).result = .error (.cycle ["a_b"]) ∧
      (compileText ∅ ownInput unasked).state.store.asked = [] ∧
      ∃ document graph, ReadAs ∅ ownInput document graph ∧ document.Cyclic ∧
        document.Circle ["a_b"]) ∧
    ∃ cause, Unread ∅ "]" cause ∧ (compileText ∅ "]" unasked).state.store.asked = [] := by
  constructor
  · obtain ⟨_, cyclic, cycles, _⟩ := compileText_fails_in_order ∅ ownInput unasked
    have told : (match (compileText ∅ ownInput unasked).result with
      | .error (.cycle names) => names
      | _ => []) = ["a_b"] := by decide +kernel
    split at told
    · rename_i names failed
      subst told
      obtain ⟨⟨document, graph, readAs, circle⟩, state⟩ := cycles ["a_b"] failed
      have own : document.Cyclic := (cyclic document graph readAs).mp ⟨["a_b"], failed⟩
      exact ⟨failed, by rw [state]; rfl, document, graph, readAs, own, circle⟩
    · contradiction
  · obtain ⟨documents, _, _, unchanged⟩ := compileText_fails_in_order ∅ "]" unasked
    obtain ⟨cause, failed⟩ : ∃ cause, GraphDocument.parse "]" = .error cause :=
      Run.toOption_eq_none.mp (by decide +kernel)
    have unread : Unread ∅ "]" cause := .inl failed
    have state := unchanged cause ((documents cause).mpr unread)
    exact ⟨cause, unread, by rw [state]; rfl⟩

end ShaderGraph
