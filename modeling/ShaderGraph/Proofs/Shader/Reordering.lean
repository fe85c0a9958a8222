import ShaderGraph.Proofs.Graph.Scheduled
import ShaderGraph.Proofs.Program.Scheduled
import ShaderGraph.Proofs.Shader.Graph

/-! The order of edges. Edges into different inputs can change places, but for those into varyings,
which are assigned in the order of their edges. -/
namespace ShaderGraph

def Edge.feeds (e : Edge) (node input : String) : Bool :=
  normalizeName e.target.node = node ∧ e.target.interface = input

namespace Graph

def assigns (graph : Graph) (e : Edge) : Bool :=
  (graph.node? (normalizeName e.target.node)).any (·.kind = .varying)

def rebind (graph : Graph) (bindings : List Binding) : Graph := { graph with bindings }

end Graph

/-- The edges of the document in another order. Those into one input keep their order, and so do all
edges into varyings. -/
structure GraphDocument.Reorders (document : GraphDocument) (supplied : SortedSet String)
    (edges : List Edge) : Prop where
  perm : edges.Perm document.edges
  inputs : ∀ node input,
    edges.filter (·.feeds node input) = document.edges.filter (·.feeds node input)
  varyings : ∀ graph, (Graph.ofDocument document supplied).1 = .ok graph →
    edges.filter graph.assigns = document.edges.filter graph.assigns

namespace Graph

variable {graph : Graph} {bindings : List Binding}

theorem find?_reverse (p : α → Bool) (list : List α) :
    list.reverse.find? p = (list.filter p).getLast? := by
  rw [← List.head?_filter, List.filter_reverse, List.head?_reverse]

/-- An input is fed by the last edge into it. -/
theorem binding?_rebind (graph : Graph) (edges : List Edge) (node input : String) :
    (graph.rebind (edges.map fun e => (graph.resolve e).binding)).binding? node input =
      ((edges.filter (·.feeds node input)).getLast?).map fun e =>
        (graph.resolve e).sourceVariable := by
  rw [binding?, rebind, find?_reverse, List.filter_map, List.getLast?_map, Option.map_map]
  rfl

theorem schedule_rebind (graph : Graph) (bindings : List Binding) :
    (graph.rebind bindings).schedule =
      (graph.schedule.1.map fun s => { s with graph := s.graph.rebind bindings },
        graph.schedule.2) := by
  have same : ShaderGraph.schedule (graph.rebind bindings).nodes.keys
      (graph.rebind bindings).constraints =
      ShaderGraph.schedule graph.nodes.keys graph.constraints := rfl
  rw [schedule, schedule, same]
  cases ShaderGraph.schedule graph.nodes.keys graph.constraints <;> rfl

end Graph

variable [ResourceStore σ]

namespace Program

theorem addNode_rebind {graph : Graph} {bindings : List Binding} (supplied : SortedSet String)
    (same : ∀ node input, (graph.rebind bindings).binding? node input = graph.binding? node input) :
    (addNode (graph.rebind bindings) supplied :
        Program → GraphNode → Run (Library σ) ProgramError Program) = addNode graph supplied := by
  funext program node
  exact addNode_congr same supplied program node node.id

theorem ofScheduled_rebind {s : ScheduledGraph} {bindings : List Binding}
    (supplied : SortedSet String)
    (same : ∀ node input,
      (s.graph.rebind bindings).binding? node input = s.graph.binding? node input) :
    (ofScheduled { s with graph := s.graph.rebind bindings } supplied :
        Run (Library σ) ProgramError Program) = ofScheduled s supplied := by
  rw [ofScheduled, addNode_rebind supplied same]
  rfl

end Program

/-- A graph whose inputs are fed the same is compiled the same. -/
theorem Graph.compile_rebind {graph : Graph} {bindings : List Binding} (supplied : SortedSet String)
    (same : ∀ node input, (graph.rebind bindings).binding? node input = graph.binding? node input) :
    ((graph.rebind bindings).compile supplied : Run (Library σ) CompileError Shader) =
      graph.compile supplied := by
  rw [compile, compile, schedule_rebind]
  cases found : graph.schedule with
  | mk ordered log =>
    cases ordered with
    | error cycle => rfl
    | ok s =>
      obtain ⟨own, _⟩ := schedule_eq_ok (congrArg Prod.fst found)
      rw [← own] at same
      have made : (Program.ofScheduled { s with graph := s.graph.rebind bindings } supplied :
          Run (Library σ) ProgramError Program) = _ := Program.ofScheduled_rebind supplied same
      funext library
      simp only [Except.map, Except.mapError, Bind.bind, Run.bind, Run.ofResult, made]
      rfl

namespace Graph

variable {document : GraphDocument} {supplied : SortedSet String} {edges : List Edge}

theorem epilogue_eq (graph : Graph) (edges : List Edge) :
    (edges.map graph.resolve).filterMap ResolvedEdge.assignment? =
      (edges.filter graph.assigns).filterMap fun e => (graph.resolve e).assignment? := by
  rw [List.filterMap_map, List.filterMap_filter]
  apply List.filterMap_congr
  intro e _
  have written : (graph.resolve e).assignment? =
      if graph.assigns e then
        some ⟨(graph.resolve e).targetName, (graph.resolve e).sourceVariable⟩
      else none := rfl
  rw [Function.comp, written]
  split <;> rfl

/-- Edges in another order give the same constraints and assignments. -/
theorem withEdges_reordered {base : Graph} {first second : List Edge} (perm : second.Perm first)
    (varyings : second.filter base.assigns = first.filter base.assigns) :
    base.withEdges (second.map base.resolve) =
      (base.withEdges (first.map base.resolve)).rebind
        (second.map fun e => (base.resolve e).binding) := by
  have constraints : SortedSet.ofList ((second.map base.resolve).filterMap ResolvedEdge.constraint?) =
      .ofList ((first.map base.resolve).filterMap ResolvedEdge.constraint?) :=
    SortedSet.ofList_eq_of_perm ((perm.map _).filterMap _)
  have epilogue : (second.map base.resolve).filterMap ResolvedEdge.assignment? =
      (first.map base.resolve).filterMap ResolvedEdge.assignment? := by
    rw [epilogue_eq, epilogue_eq, varyings]
  rw [withEdges, withEdges, rebind, constraints, epilogue, List.map_map]
  rfl

/-- The graph of a document depends on the order of its edges only by what they feed. -/
theorem ofDocument_reordered (reorders : document.Reorders supplied edges) :
    (ofDocument { document with edges } supplied).1 =
      (ofDocument document supplied).1.map fun graph =>
        graph.rebind (edges.map fun e => (graph.resolve e).binding) := by
  -- What is known of varyings is about the graph of the document, which the cases below take apart.
  have varyings := reorders.varyings
  revert varyings
  rw [ofDocument, ofDocument]
  cases settingTable document.settings with
  | error error => exact fun _ => rfl
  | ok settings =>
    cases made : readNodes settings 1 document.nodes with
    | mk nodes failure =>
      cases failure with
      | some error => exact fun _ => by simp only [made]; rfl
      | none =>
        intro varyings
        simp only [made] at varyings ⊢
        have into : edges.filter (ofNodes supplied nodes).assigns = document.edges.filter _ :=
          varyings ((ofNodes supplied nodes).withEdges _) rfl
        exact congrArg Except.ok (withEdges_reordered reorders.perm into)

end Graph

/-- A document whose edges are reordered compiles to the same shader from the same library, or fails
with the same error, as long as the edges into each input and those into varyings keep their order. -/
theorem compile_reordered {supplied : SortedSet String} {document : GraphDocument}
    {edges : List Edge} (reorders : document.Reorders supplied edges) (library : Library σ) :
    (compile supplied { document with edges } library).result =
        (compile supplied document library).result ∧
      (compile supplied { document with edges } library).state =
        (compile supplied document library).state := by
  have reread := Graph.ofDocument_reordered reorders
  cases read : (Graph.ofDocument document supplied).1 with
  | error cause =>
    rw [read] at reread
    obtain ⟨result, state⟩ := compile_of_unread read library
    obtain ⟨same, stays⟩ := compile_of_unread reread library
    exact ⟨same.trans result.symm, stays.trans state.symm⟩
  | ok graph =>
    rw [read] at reread
    obtain ⟨result, state⟩ := compile_of_read read library
    obtain ⟨same, stays⟩ := compile_of_read reread library
    rw [result, state, same, stays, Graph.compile_rebind]
    · exact ⟨rfl, rfl⟩
    · intro node input
      have bindings := (Graph.ofDocument_represents read).bindings
      have own : graph.binding? node input =
          (graph.rebind (document.edges.map fun e => (graph.resolve e).binding)).binding? node input := by
        rw [← bindings]
        rfl
      rw [own, Graph.binding?_rebind, Graph.binding?_rebind, reorders.inputs]

def fedTwice : GraphDocument where
  nodes :=
    [⟨"time", "float", none⟩, ⟨"gain", "float", none⟩, ⟨"wave", "sin", none⟩,
      ⟨"shade", "float", some (.mapping [(.string "type", .string "varying")])⟩]
  edges :=
    [⟨⟨"time", "value"⟩, ⟨"wave", "x"⟩⟩, ⟨⟨"gain", "value"⟩, ⟨"wave", "x"⟩⟩,
      ⟨⟨"wave", "y"⟩, ⟨"shade", "value"⟩⟩]
  settings := []

def assignedFirst : List Edge :=
  [⟨⟨"wave", "y"⟩, ⟨"shade", "value"⟩⟩, ⟨⟨"time", "value"⟩, ⟨"wave", "x"⟩⟩,
    ⟨⟨"gain", "value"⟩, ⟨"wave", "x"⟩⟩]

def sineLibrary : Library MemoryStore where
  store := .empty
  signatures := .ofList [("sin", ⟨"sin", [⟨"x", "float", 0⟩], [⟨"y", "float", 1⟩], none, ∅, ∅, ∅⟩)]
  sources := ∅

theorem fedTwice_reordered :
    (compile ∅ { fedTwice with edges := assignedFirst } sineLibrary).result.map
        (fun shader => shader.program.calls.map Call.inputs) = .ok [["gain"]] := by
  have reorders : fedTwice.Reorders ∅ assignedFirst := by
    constructor
    case perm => decide +kernel
    case inputs =>
      intro node input
      by_cases shade : Edge.feeds ⟨⟨"wave", "y"⟩, ⟨"shade", "value"⟩⟩ node input
      · obtain ⟨rfl, rfl⟩ := of_decide_eq_true shade
        decide +kernel
      · simp [fedTwice, assignedFirst, List.filter_cons, shade]
    case varyings =>
      intro graph read
      obtain rfl := Except.ok.inj ((rfl : (Graph.ofDocument fedTwice ∅).1 = .ok _).symm.trans read)
      decide +kernel
  rw [(compile_reordered reorders sineLibrary).1]
  rfl

end ShaderGraph
