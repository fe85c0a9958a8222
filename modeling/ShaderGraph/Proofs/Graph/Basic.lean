import Mathlib.Data.List.Nodup
import ShaderGraph.Graph.Basic
import ShaderGraph.Proofs.Order.Constraint
import ShaderGraph.Proofs.Table

/-! Graphs of documents: nodes numbered in the order of their declarations, names that mean the last
node declared with them, and edges read one by one. -/
namespace ShaderGraph

def Setting.entry (s : Setting) : Except DocumentError (String × NodeConfig) := do
  let config ← (NodeConfig.ofData s.data).mapError (.nodeConfig s.name)
  return (normalizeName s.name, config)

theorem settingTable_eq (settings : List Setting) :
    settingTable settings = (settings.mapM Setting.entry).map Table.ofList := by
  change settings.mapM Setting.entry >>= _ = _
  cases settings.mapM Setting.entry <;> rfl

/-- A node is what its declaration and its settings make of it. -/
theorem GraphNode.ofDeclaration_eq_ok {settings : Table String NodeConfig} {id : Nat}
    {d : NodeDeclaration} {node : GraphNode} : ofDeclaration settings id d = .ok node ↔
      ∃ config, d.config settings = .ok config ∧
        node = ⟨id, d.model ++ config.loadName.getD "", normalizeName d.name, config.nodeKind,
          config.inputs.getD ∅⟩ := by
  rw [ofDeclaration]
  cases d.config settings with
  | error cause => simp [bind, Except.bind]
  | ok config => simp [bind, Except.bind, pure, Except.pure, eq_comm]

theorem GraphNode.of_ofDeclaration {settings : Table String NodeConfig} {id : Nat}
    {d : NodeDeclaration} {node : GraphNode} (made : ofDeclaration settings id d = .ok node) :
    node.id = id ∧ node.name = normalizeName d.name := by
  obtain ⟨_, _, rfl⟩ := ofDeclaration_eq_ok.mp made
  exact ⟨rfl, rfl⟩

theorem readNodes_cons {settings : Table String NodeConfig} {id : Nat} {d : NodeDeclaration}
    {rest : List NodeDeclaration} {nodes : List GraphNode} :
    readNodes settings id (d :: rest) = (nodes, none) ↔
      ∃ node more, GraphNode.ofDeclaration settings id d = .ok node ∧
        readNodes settings (id + 1) rest = (more, none) ∧ nodes = node :: more := by
  rw [readNodes]
  cases GraphNode.ofDeclaration settings id d with
  | error cause => simp
  | ok node =>
    cases readNodes settings (id + 1) rest with
    | mk more failure => simp [eq_comm, and_comm]

/-- Nodes are numbered in the order of their declarations, and go by the normalized names. -/
theorem readNodes_eq {settings : Table String NodeConfig} {id : Nat} {ds : List NodeDeclaration}
    {nodes : List GraphNode} (read : readNodes settings id ds = (nodes, none)) :
    nodes.map GraphNode.id = List.range' id ds.length ∧
      nodes.map GraphNode.name = ds.map fun d => normalizeName d.name := by
  induction ds generalizing id nodes with
  | nil =>
    obtain ⟨rfl, _⟩ := Prod.mk.inj read
    exact ⟨rfl, rfl⟩
  | cons d rest ih =>
    obtain ⟨node, more, made, behind, rfl⟩ := readNodes_cons.mp read
    obtain ⟨number, name⟩ := GraphNode.of_ofDeclaration made
    obtain ⟨numbers, names⟩ := ih behind
    constructor
    · simp only [List.map_cons, List.length_cons, List.range'_succ, number, numbers]
    · simp only [List.map_cons, name, names]

/-- A node has the place of its declaration, and the number that comes of it. -/
theorem readNodes_placed {settings : Table String NodeConfig} {id place : Nat}
    {ds : List NodeDeclaration} {nodes : List GraphNode} {d : NodeDeclaration}
    (read : readNodes settings id ds = (nodes, none)) (declared : ds[place]? = some d) :
    ∃ node, nodes[place]? = some node ∧
      GraphNode.ofDeclaration settings (id + place) d = .ok node := by
  induction ds generalizing id place nodes with
  | nil => simp at declared
  | cons first rest ih =>
    obtain ⟨node, more, made, behind, rfl⟩ := readNodes_cons.mp read
    cases place with
    | zero =>
      obtain rfl := Option.some.inj declared
      exact ⟨node, rfl, made⟩
    | succ place =>
      obtain ⟨other, found, made⟩ := ih behind declared
      exact ⟨other, found, by rw [← made]; congr 1; omega⟩

/-- The nodes that are read are those of the declarations. -/
theorem mem_of_readNodes {settings : Table String NodeConfig} {id : Nat}
    {ds : List NodeDeclaration} {nodes : List GraphNode} {node : GraphNode}
    (read : readNodes settings id ds = (nodes, none)) :
    node ∈ nodes ↔ ∃ place d, ds[place]? = some d ∧
      GraphNode.ofDeclaration settings (id + place) d = .ok node := by
  constructor
  · intro member
    obtain ⟨place, found⟩ := List.getElem?_of_mem member
    have length : nodes.length = ds.length := by
      simpa using congrArg List.length (readNodes_eq read).2
    have bound : place < ds.length := length ▸ (List.getElem?_eq_some_iff.mp found).1
    have declared : ds[place]? = some ds[place] := List.getElem?_eq_getElem bound
    obtain ⟨other, here, made⟩ := readNodes_placed read declared
    obtain rfl := Option.some.inj (found.symm.trans here)
    exact ⟨place, _, declared, made⟩
  · rintro ⟨place, d, declared, made⟩
    obtain ⟨other, here, again⟩ := readNodes_placed read declared
    obtain rfl := Except.ok.inj (made.symm.trans again)
    exact List.mem_of_getElem? here

namespace Graph

/-- The graph of a document: its nodes in the order of their declarations, each under its own
number, and what each edge says, where names mean the last node declared with them. -/
structure Represents (graph : Graph) (document : GraphDocument) : Prop where
  numbered : graph.nodes.keys = List.range' 1 document.nodes.length
  named : graph.nodes.values.map GraphNode.name = document.nodes.map fun d => normalizeName d.name
  own : ∀ id node, graph.nodes.get? id = some node → node.id = id
  last : ∀ name, graph.node? name = graph.nodes.values.reverse.find? (·.name = name)
  bindings : graph.bindings = document.edges.map fun e => (graph.resolve e).binding
  constraints : ∀ c, c ∈ graph.constraints ↔
    ∃ e ∈ document.edges, (graph.resolve e).constraint? = some c
  epilogue : graph.epilogue = document.edges.filterMap fun e => (graph.resolve e).assignment?

theorem entries_ofNodes (supplied : SortedSet String) {nodes : List GraphNode}
    (ascending : (nodes.map GraphNode.id).Pairwise (· < ·)) :
    (ofNodes supplied nodes).nodes.entries = nodes.map fun node => (node.id, node) :=
  Table.entries_ofList (List.pairwise_map.mpr (List.pairwise_map.mp ascending))

theorem node?_ofNodes (supplied : SortedSet String) {nodes : List GraphNode}
    (ascending : (nodes.map GraphNode.id).Pairwise (· < ·)) (name : String) :
    (ofNodes supplied nodes).node? name = nodes.reverse.find? (·.name = name) := by
  have number : (ofNodes supplied nodes).names.get? name =
      (nodes.reverse.find? (·.name = name)).map GraphNode.id := by
    change (Table.ofList _).get? name = _
    rw [Table.get?_ofList, ← List.map_reverse, List.find?_map, Option.map_map]
    rfl
  rw [node?, number]
  cases found : nodes.reverse.find? (·.name = name) with
  | none => rfl
  | some node =>
    have member : node ∈ nodes := List.mem_reverse.mp (List.mem_of_find?_eq_some found)
    apply Table.get?_eq_some_iff.mpr
    rw [entries_ofNodes supplied ascending]
    exact List.mem_map_of_mem (f := fun node : GraphNode => (node.id, node)) member

theorem ofDocument_eq_ok {document : GraphDocument} {supplied : SortedSet String} {graph : Graph}
    (read : (ofDocument document supplied).1 = .ok graph) :
    ∃ settings nodes, settingTable document.settings = .ok settings ∧
      readNodes settings 1 document.nodes = (nodes, none) ∧
      graph = (ofNodes supplied nodes).withEdges
        (document.edges.map (ofNodes supplied nodes).resolve) := by
  rw [ofDocument] at read
  split at read
  · contradiction
  · rename_i settings kept
    cases made : readNodes settings 1 document.nodes with
    | mk nodes failure =>
      cases failure with
      | some error => simp [made] at read
      | none =>
        simp only [made, Except.ok.injEq] at read
        exact ⟨settings, nodes, kept, made, read.symm⟩

theorem ofDocument_represents {document : GraphDocument} {supplied : SortedSet String}
    {graph : Graph} (read : (ofDocument document supplied).1 = .ok graph) :
    graph.Represents document := by
  obtain ⟨settings, nodes, _, made, rfl⟩ := ofDocument_eq_ok read
  obtain ⟨numbers, names⟩ := readNodes_eq made
  have ascending : (nodes.map GraphNode.id).Pairwise (· < ·) :=
    numbers ▸ List.pairwise_lt_range'
  have entries := entries_ofNodes supplied ascending
  have values : (ofNodes supplied nodes).nodes.values = nodes := by
    simp [Table.values, entries, Function.comp_def]
  constructor
  case numbered =>
    change (ofNodes supplied nodes).nodes.entries.map Prod.fst = _
    rw [entries, List.map_map]
    exact numbers
  case named => exact (congrArg (List.map GraphNode.name) values).trans names
  case own =>
    intro id node found
    have member : (id, node) ∈ (ofNodes supplied nodes).nodes.entries :=
      Table.get?_eq_some_iff.mp found
    rw [entries] at member
    obtain ⟨_, _, same⟩ := List.mem_map.mp member
    obtain ⟨rfl, rfl⟩ := Prod.mk.inj same
    rfl
  case last =>
    intro name
    change _ = (ofNodes supplied nodes).nodes.values.reverse.find? (·.name = name)
    rw [values]
    exact node?_ofNodes supplied ascending name
  case bindings => exact List.map_map
  case constraints =>
    intro c
    refine SortedSet.mem_ofList.trans ?_
    simp only [List.mem_filterMap, List.mem_map, exists_exists_and_eq_and]
    rfl
  case epilogue => exact List.filterMap_map

namespace Represents

variable {graph : Graph} {document : GraphDocument} {name : String} {node : GraphNode}

theorem map_id_values (represents : graph.Represents document) :
    graph.nodes.values.map GraphNode.id = graph.nodes.keys := by
  simp only [Table.values, Table.keys, List.map_map]
  apply List.map_congr_left
  rintro ⟨id, node⟩ member
  exact represents.own id node (Table.get?_eq_some_iff.mpr member)

theorem values_nodup (represents : graph.Represents document) : graph.nodes.values.Nodup := by
  apply List.Nodup.of_map GraphNode.id
  rw [represents.map_id_values]
  exact graph.nodes.keys_nodup

theorem get?_of_mem (represents : graph.Represents document) (member : node ∈ graph.nodes.values) :
    graph.nodes.get? node.id = some node := by
  obtain ⟨⟨id, _⟩, entry, rfl⟩ := List.mem_map.mp member
  have found := Table.get?_eq_some_iff.mpr entry
  exact represents.own id _ found ▸ found

theorem mem_of_node? (represents : graph.Represents document) (found : graph.node? name = some node) :
    node ∈ graph.nodes.values ∧ node.name = name := by
  rw [represents.last] at found
  exact ⟨List.mem_reverse.mp (List.mem_of_find?_eq_some found), by simpa using List.find?_some found⟩

theorem exists_node? (represents : graph.Represents document) (member : node ∈ graph.nodes.values) :
    ∃ last, graph.node? node.name = some last := by
  apply Option.isSome_iff_exists.mp
  rw [represents.last, List.find?_isSome]
  exact ⟨node, List.mem_reverse.mpr member, by simp⟩

/-- An input is bound by the last edge into it, to the variable that the edge carries. -/
theorem binding?_eq_find? (represents : graph.Represents document) (node input : String) :
    graph.binding? node input = (document.edges.reverse.find? fun e =>
      normalizeName e.target.node = node ∧ e.target.interface = input).map
        fun e => (graph.resolve e).sourceVariable := by
  rw [binding?, represents.bindings, ← List.map_reverse, List.find?_map, Option.map_map]
  rfl

theorem constraint_mem (represents : graph.Represents document) {e : Edge} {source target : GraphNode}
    (member : e ∈ document.edges) (first : graph.node? (normalizeName e.source.node) = some source)
    (second : graph.node? (normalizeName e.target.node) = some target) :
    graph.constraints.Requires source.id target.id :=
  (represents.constraints _).mpr ⟨e, member, by simp [ResolvedEdge.constraint?, resolve, first, second]⟩

/-- A constraint is between the ends of an edge, which are both declared. -/
theorem edge_of_constraint (represents : graph.Represents document) {c : Constraint}
    (member : c ∈ graph.constraints) : ∃ e ∈ document.edges, ∃ source target,
      graph.node? (normalizeName e.source.node) = some source ∧
      graph.node? (normalizeName e.target.node) = some target ∧ c = ⟨source.id, target.id⟩ := by
  obtain ⟨e, edge, made⟩ := (represents.constraints c).mp member
  rw [ResolvedEdge.constraint?] at made
  split at made
  · rename_i source target first second
    exact ⟨e, edge, source, target, first, second, (Option.some.inj made).symm⟩
  · contradiction

/-- A node in a constraint is the last declared with its name, so that a node whose name is declared
again later stands in none. -/
theorem node?_of_endpoint (represents : graph.Represents document)
    (member : node ∈ graph.nodes.values) (endpoint : node.id ∈ graph.constraints.endpoints) :
    graph.node? node.name = some node := by
  have latest (name : String) (other : GraphNode) (found : graph.node? name = some other)
      (same : node.id = other.id) : graph.node? node.name = some node := by
    obtain ⟨known, rfl⟩ := represents.mem_of_node? found
    have numbers := represents.get?_of_mem known
    rw [← same, represents.get?_of_mem member] at numbers
    rwa [Option.some.inj numbers]
  obtain ⟨c, constrained, side⟩ := Constraints.mem_endpoints.mp endpoint
  obtain ⟨e, _, source, target, first, second, rfl⟩ := represents.edge_of_constraint constrained
  rcases side with same | same
  · exact latest _ source first same
  · exact latest _ target second same

end Represents

end Graph
end ShaderGraph
