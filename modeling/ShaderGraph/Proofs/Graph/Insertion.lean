import ShaderGraph.Proofs.Graph.Cycle
import ShaderGraph.Proofs.Graph.Setting
import ShaderGraph.Proofs.Order.Renumbering

/-! Documents with a node more. If nothing else goes by the name of the node, the graph is the one
without it, but for the node and for the numbers of the nodes behind it, and it is put in order like
the one without it. -/
namespace ShaderGraph

namespace GraphDocument

def withNode (document : GraphDocument) (place : Nat) (d : NodeDeclaration) : GraphDocument :=
  { document with nodes := document.nodes.take place ++ d :: document.nodes.drop place }

structure Unnamed (document : GraphDocument) (name : String) : Prop where
  nodes : ∀ d ∈ document.nodes, normalizeName d.name ≠ name
  sources : ∀ e ∈ document.edges, normalizeName e.source.node ≠ name
  targets : ∀ e ∈ document.edges, normalizeName e.target.node ≠ name
  settings : ∀ s ∈ document.settings, normalizeName s.name ≠ name

end GraphDocument

def NodeDeclaration.WellFormed (d : NodeDeclaration) : Prop :=
  ∀ data, d.data = some data → ∃ config, NodeConfig.ofData data = .ok config

namespace Renumbering

def skip (place : Nat) : Renumbering where
  number id := if id ≤ place then id else id + 1
  strict a b less := by
    change (if a ≤ place then a else a + 1) < (if b ≤ place then b else b + 1)
    split <;> split <;> omega

theorem number_skip_ne (place id : Nat) : (skip place).number id ≠ place + 1 := by
  simp only [skip]
  split <;> omega

variable (r : Renumbering)

def node (node : GraphNode) : GraphNode := { node with id := r.number node.id }

end Renumbering

section
variable {settings : Table String NodeConfig}

theorem readNodes_append {id : Nat} {front back : List NodeDeclaration} {nodes : List GraphNode} :
    readNodes settings id (front ++ back) = (nodes, none) ↔
      ∃ first second, readNodes settings id front = (first, none) ∧
        readNodes settings (id + front.length) back = (second, none) ∧
        nodes = first ++ second := by
  induction front generalizing id nodes with
  | nil =>
    constructor
    · exact fun read => ⟨[], nodes, rfl, read, rfl⟩
    · rintro ⟨first, second, none, read, rfl⟩
      obtain ⟨rfl, _⟩ := Prod.mk.inj none
      exact read
  | cons d rest ih =>
    have later : id + (d :: rest).length = id + 1 + rest.length := by
      rw [List.length_cons]
      omega
    simp only [List.cons_append, readNodes_cons, ih, later]
    constructor
    · rintro ⟨node, _, made, ⟨first, second, front, back, rfl⟩, rfl⟩
      exact ⟨node :: first, second, ⟨node, first, made, front, rfl⟩, back, rfl⟩
    · rintro ⟨_, second, ⟨node, first, made, front, rfl⟩, back, rfl⟩
      exact ⟨node, first ++ second, made, ⟨first, second, front, back, rfl⟩, rfl⟩

theorem ofDeclaration_renumbered (r : Renumbering) (id : Nat) (d : NodeDeclaration) :
    GraphNode.ofDeclaration settings (r.number id) d =
      (GraphNode.ofDeclaration settings id d).map r.node := by
  rw [GraphNode.ofDeclaration, GraphNode.ofDeclaration]
  cases d.config settings <;> rfl

/-- Nodes behind a place get the next number each if one is left out there. -/
theorem readNodes_skip {place id : Nat} (behind : place < id) (ds : List NodeDeclaration) :
    readNodes settings (id + 1) ds =
      ((readNodes settings id ds).1.map (Renumbering.skip place).node,
        (readNodes settings id ds).2) := by
  induction ds generalizing id with
  | nil => rfl
  | cons d rest ih =>
    have number : (Renumbering.skip place).number id = id + 1 := if_neg (by omega)
    rw [readNodes, readNodes, ← number, ofDeclaration_renumbered, number, ih (by omega)]
    cases GraphNode.ofDeclaration settings id d <;> rfl

/-- Nodes in front of a place keep their numbers. -/
theorem map_skip_of_le {place : Nat} {nodes : List GraphNode}
    (front : ∀ node ∈ nodes, node.id ≤ place) :
    nodes.map (Renumbering.skip place).node = nodes := by
  conv_rhs => rw [← List.map_id nodes]
  apply List.map_congr_left
  intro node member
  have number : (Renumbering.skip place).number node.id = node.id := if_pos (front node member)
  simp [Renumbering.node, number]

theorem keeps_of_readNodes {front : List NodeDeclaration} {first : List GraphNode}
    (read : readNodes settings 1 front = (first, none)) :
    first.map (Renumbering.skip front.length).node = first := by
  refine map_skip_of_le fun node member => ?_
  have number : node.id ∈ List.range' 1 front.length :=
    (readNodes_eq read).1 ▸ List.mem_map_of_mem member
  have bounds := List.mem_range'_1.mp number
  omega

theorem readNodes_withNode {front back : List NodeDeclaration} {d : NodeDeclaration}
    {more : List GraphNode} :
    readNodes settings 1 (front ++ d :: back) = (more, none) ↔
      ∃ first second node, readNodes settings 1 front = (first, none) ∧
        readNodes settings (1 + front.length) back = (second, none) ∧
        GraphNode.ofDeclaration settings (1 + front.length) d = .ok node ∧
        more = first.map (Renumbering.skip front.length).node ++
          node :: second.map (Renumbering.skip front.length).node := by
  have after : front.length < 1 + front.length := by omega
  have shifted : readNodes settings (1 + front.length + 1) back = _ := readNodes_skip after back
  simp only [readNodes_append, readNodes_cons, shifted]
  constructor
  · rintro ⟨first, _, read, ⟨node, _, made, behind, rfl⟩, rfl⟩
    obtain ⟨rfl, complete⟩ := Prod.mk.inj behind
    refine ⟨first, _, node, read, Prod.ext rfl complete, made, ?_⟩
    rw [keeps_of_readNodes read]
  · rintro ⟨first, second, node, read, behind, made, rfl⟩
    refine ⟨first, _, read, ⟨node, _, made, by rw [behind], rfl⟩, ?_⟩
    rw [keeps_of_readNodes read]

end

theorem NodeDeclaration.WellFormed.exists_node {settings : Table String NodeConfig}
    {d : NodeDeclaration} (formed : d.WellFormed)
    (unset : settings.get? (normalizeName d.name) = none) (id : Nat) :
    ∃ node, GraphNode.ofDeclaration settings id d = .ok node := by
  have config : ∃ config, d.config settings = .ok config := by
    rw [NodeDeclaration.config, unset]
    cases given : d.data with
    | none => exact ⟨.plain, rfl⟩
    | some data =>
      obtain ⟨config, read⟩ := formed data given
      exact ⟨config, by simp only [read]; rfl⟩
  obtain ⟨config, read⟩ := config
  rw [GraphNode.ofDeclaration, read]
  exact ⟨_, rfl⟩

namespace Renumbering

variable (r : Renumbering)

def resolved (e : ResolvedEdge) : ResolvedEdge := ⟨e.edge, e.source.map r.node, e.target.map r.node⟩

theorem binding_resolved (e : ResolvedEdge) : (r.resolved e).binding = e.binding := by
  obtain ⟨edge, source, target⟩ := e
  cases source <;> rfl

theorem constraint?_resolved (e : ResolvedEdge) :
    (r.resolved e).constraint? = e.constraint?.map r.constraint := by
  obtain ⟨edge, source, target⟩ := e
  cases source <;> cases target <;> rfl

theorem assignment?_resolved (e : ResolvedEdge) :
    (r.resolved e).assignment? = e.assignment? := by
  obtain ⟨edge, source, target⟩ := e
  cases source <;> cases target <;> rfl

/-- A search that passes over a node finds what it finds without it. -/
theorem find?_withNode {p q : GraphNode → Bool} {node : GraphNode} (passed : p node = false)
    (same : ∀ other, p (r.node other) = q other) (front back : List GraphNode) :
    (front.map r.node ++ node :: back.map r.node).find? p =
      ((front ++ back).find? q).map r.node := by
  have mapped (list : List GraphNode) : (list.map r.node).find? p = (list.find? q).map r.node := by
    rw [List.find?_map]
    exact congrArg (fun test => Option.map r.node (list.find? test)) (funext same)
  rw [List.find?_append, List.find?_cons_of_neg (by simp [passed]), mapped, mapped,
    List.find?_append]
  cases front.find? q <;> rfl

end Renumbering

namespace Graph

/-- One graph has a node more than another one, in which the nodes have other numbers. All else is
the same in both. -/
structure WithNode (r : Renumbering) (node : GraphNode) (graph more : Graph) : Prop where
  apart : ∀ id, r.number id ≠ node.id
  own : more.nodes.get? node.id = some node
  others : ∀ id, more.nodes.get? (r.number id) = (graph.nodes.get? id).map r.node
  keys : ∀ id, id ∈ more.nodes.keys ↔ id = node.id ∨ ∃ old ∈ graph.nodes.keys, id = r.number old
  constraints : more.constraints = r.constraints graph.constraints
  bindings : more.bindings = graph.bindings
  epilogue : more.epilogue = graph.epilogue

theorem get?_ofNodes (supplied : SortedSet String) {nodes : List GraphNode}
    (ascending : (nodes.map GraphNode.id).Pairwise (· < ·)) (id : Nat) :
    (ofNodes supplied nodes).nodes.get? id = nodes.find? (·.id = id) := by
  rw [Table.get?, entries_ofNodes supplied ascending, List.find?_map, Option.map_map]
  exact Option.map_id'

theorem keys_ofNodes (supplied : SortedSet String) {nodes : List GraphNode}
    (ascending : (nodes.map GraphNode.id).Pairwise (· < ·)) :
    (ofNodes supplied nodes).nodes.keys = nodes.map GraphNode.id := by
  rw [Table.keys, entries_ofNodes supplied ascending, List.map_map]
  rfl

theorem ofDocument_of_read {document : GraphDocument} {supplied : SortedSet String}
    {settings : Table String NodeConfig} {nodes : List GraphNode}
    (kept : settingTable document.settings = .ok settings)
    (read : readNodes settings 1 document.nodes = (nodes, none)) :
    (ofDocument document supplied).1 = .ok ((ofNodes supplied nodes).withEdges
      (document.edges.map (ofNodes supplied nodes).resolve)) := by
  simp only [ofDocument, kept, read]

variable {r : Renumbering} {node : GraphNode} {front back : List GraphNode}
variable {supplied : SortedSet String} {edges : List Edge}

theorem resolve_withNode
    (ascending : ((front ++ back).map GraphNode.id).Pairwise (· < ·))
    (ascends : ((front.map r.node ++ node :: back.map r.node).map GraphNode.id).Pairwise (· < ·))
    {e : Edge} (source : normalizeName e.source.node ≠ node.name)
    (target : normalizeName e.target.node ≠ node.name) :
    (ofNodes supplied (front.map r.node ++ node :: back.map r.node)).resolve e =
      r.resolved ((ofNodes supplied (front ++ back)).resolve e) := by
  have named {name : String} (other : name ≠ node.name) :
      (ofNodes supplied (front.map r.node ++ node :: back.map r.node)).node? name =
        ((ofNodes supplied (front ++ back)).node? name).map r.node := by
    rw [node?_ofNodes supplied ascends, node?_ofNodes supplied ascending]
    let named : GraphNode → Bool := (·.name = name)
    have passed : named node = false := by simpa [named] using other.symm
    have found : _ = ((back.reverse ++ front.reverse).find? named).map r.node :=
      r.find?_withNode passed (fun _ => rfl) back.reverse front.reverse
    simpa [named] using found
  rw [resolve, resolve, named source, named target]
  rfl

theorem get?_withNode (supplied : SortedSet String) (apart : ∀ id, r.number id ≠ node.id)
    (ascending : ((front ++ back).map GraphNode.id).Pairwise (· < ·))
    (ascends : ((front.map r.node ++ node :: back.map r.node).map GraphNode.id).Pairwise (· < ·))
    (id : Nat) :
    (ofNodes supplied (front.map r.node ++ node :: back.map r.node)).nodes.get? (r.number id) =
      ((ofNodes supplied (front ++ back)).nodes.get? id).map r.node := by
  rw [get?_ofNodes supplied ascends, get?_ofNodes supplied ascending]
  apply r.find?_withNode
  · simpa using (apart id).symm
  · intro n
    simp [Renumbering.node]

theorem mem_keys_withNode (supplied : SortedSet String)
    (ascending : ((front ++ back).map GraphNode.id).Pairwise (· < ·))
    (ascends : ((front.map r.node ++ node :: back.map r.node).map GraphNode.id).Pairwise (· < ·))
    (id : Nat) :
    id ∈ (ofNodes supplied (front.map r.node ++ node :: back.map r.node)).nodes.keys ↔
      id = node.id ∨ ∃ old ∈ (ofNodes supplied (front ++ back)).nodes.keys, id = r.number old := by
  rw [keys_ofNodes supplied ascends, keys_ofNodes supplied ascending]
  simp only [List.map_append, List.map_cons, List.map_map, List.mem_append, List.mem_cons,
    List.mem_map, or_and_right, exists_or, exists_exists_and_eq_and]
  rw [or_left_comm]
  simp only [Function.comp_def, Renumbering.node, eq_comm]

theorem withNode_of_nodes (apart : ∀ id, r.number id ≠ node.id)
    (ascending : ((front ++ back).map GraphNode.id).Pairwise (· < ·))
    (ascends : ((front.map r.node ++ node :: back.map r.node).map GraphNode.id).Pairwise (· < ·))
    (sources : ∀ e ∈ edges, normalizeName e.source.node ≠ node.name)
    (targets : ∀ e ∈ edges, normalizeName e.target.node ≠ node.name) :
    let base := ofNodes supplied (front ++ back)
    let other := ofNodes supplied (front.map r.node ++ node :: back.map r.node)
    WithNode r node (base.withEdges (edges.map base.resolve))
      (other.withEdges (edges.map other.resolve)) := by
  intro base other
  have resolved : edges.map other.resolve = (edges.map base.resolve).map r.resolved := by
    rw [List.map_map]
    apply List.map_congr_left
    intro e member
    exact resolve_withNode ascending ascends (sources e member) (targets e member)
  constructor
  case apart => exact apart
  case own =>
    apply Table.get?_eq_some_iff.mpr
    have entries : other.nodes.entries = _ := entries_ofNodes supplied ascends
    change (node.id, node) ∈ other.nodes.entries
    rw [entries]
    exact List.mem_map_of_mem (by simp)
  case others => exact get?_withNode supplied apart ascending ascends
  case keys => exact mem_keys_withNode supplied ascending ascends
  case constraints =>
    rw [withEdges, withEdges, resolved, ← r.ofList_constraints, List.filterMap_map,
      List.map_filterMap]
    simp only [Function.comp_def, r.constraint?_resolved]
  case bindings =>
    rw [withEdges, withEdges, resolved, List.map_map]
    exact List.map_congr_left fun e _ => r.binding_resolved e
  case epilogue =>
    have same : (edges.map other.resolve).filterMap ResolvedEdge.assignment? =
        (edges.map base.resolve).filterMap ResolvedEdge.assignment? := by
      rw [resolved, List.filterMap_map]
      exact List.filterMap_congr fun e _ => r.assignment?_resolved e
    exact same

section
variable {document : GraphDocument} {d : NodeDeclaration} {place : Nat}
variable {settings : Table String NodeConfig} {first second : List GraphNode}

theorem withNode_of_readNodes (unnamed : document.Unnamed (normalizeName d.name))
    (before : readNodes settings 1 (document.nodes.take place) = (first, none))
    (behind : readNodes settings (1 + (document.nodes.take place).length)
      (document.nodes.drop place) = (second, none))
    (made : GraphNode.ofDeclaration settings (1 + (document.nodes.take place).length) d = .ok node) :
    let r := Renumbering.skip (document.nodes.take place).length
    let base := ofNodes supplied (first ++ second)
    let other := ofNodes supplied (first.map r.node ++ node :: second.map r.node)
    readNodes settings 1 document.nodes = (first ++ second, none) ∧
      readNodes settings 1 (document.withNode place d).nodes =
        (first.map r.node ++ node :: second.map r.node, none) ∧
      WithNode r node (base.withEdges (document.edges.map base.resolve))
        (other.withEdges (document.edges.map other.resolve)) := by
  intro r base other
  obtain ⟨number, name⟩ := GraphNode.of_ofDeclaration made
  have whole : readNodes settings 1 document.nodes = (first ++ second, none) := by
    rw [← List.take_append_drop place document.nodes]
    exact readNodes_append.mpr ⟨first, second, before, behind, rfl⟩
  have longer : readNodes settings 1 (document.withNode place d).nodes = _ :=
    readNodes_withNode.mpr ⟨first, second, node, before, behind, made, rfl⟩
  refine ⟨whole, longer, withNode_of_nodes (fun id => ?_) ?_ ?_ ?_ ?_⟩
  · have apart : r.number id ≠ _ := Renumbering.number_skip_ne _ id
    omega
  · exact (readNodes_eq whole).1 ▸ List.pairwise_lt_range'
  · exact (readNodes_eq longer).1 ▸ List.pairwise_lt_range'
  · exact name ▸ unnamed.sources
  · exact name ▸ unnamed.targets

/-- A document with a node more has the graph without it, with the node. -/
theorem ofDocument_withNode {more : Graph} (unnamed : document.Unnamed (normalizeName d.name))
    (read : (ofDocument (document.withNode place d) supplied).1 = .ok more) :
    ∃ graph node, (ofDocument document supplied).1 = .ok graph ∧
      node.name = normalizeName d.name ∧
      WithNode (.skip (document.nodes.take place).length) node graph more := by
  obtain ⟨settings, nodes, kept, made, rfl⟩ := ofDocument_eq_ok read
  obtain ⟨first, second, node, before, behind, own, rfl⟩ := readNodes_withNode.mp made
  obtain ⟨whole, _, related⟩ := withNode_of_readNodes unnamed before behind own
  exact ⟨_, node, ofDocument_of_read kept whole, (GraphNode.of_ofDeclaration own).2, related⟩

/-- A node that can be read does not keep a document from having a graph. -/
theorem exists_ofDocument_withNode {graph : Graph}
    (unnamed : document.Unnamed (normalizeName d.name)) (formed : d.WellFormed)
    (read : (ofDocument document supplied).1 = .ok graph) (place : Nat) :
    ∃ more node, (ofDocument (document.withNode place d) supplied).1 = .ok more ∧
      WithNode (.skip (document.nodes.take place).length) node graph more := by
  obtain ⟨settings, nodes, kept, made, rfl⟩ := ofDocument_eq_ok read
  rw [← List.take_append_drop place document.nodes] at made
  obtain ⟨first, second, before, behind, rfl⟩ := readNodes_append.mp made
  have unset := (get?_settingTable_eq_none kept).mpr unnamed.settings
  obtain ⟨node, own⟩ := formed.exists_node unset (1 + (document.nodes.take place).length)
  obtain ⟨_, longer, related⟩ := withNode_of_readNodes unnamed before behind own
  have kept : settingTable (document.withNode place d).settings = .ok settings := kept
  exact ⟨_, node, ofDocument_of_read kept longer, related⟩

end

namespace WithNode

variable {graph more : Graph}

theorem filterMap_get? (related : WithNode r node graph more) (ids : List Nat) :
    (ids.map r.number).filterMap more.nodes.get? =
      (ids.filterMap graph.nodes.get?).map r.node := by
  rw [List.filterMap_map, List.map_filterMap]
  exact List.filterMap_congr fun id _ => related.others id

theorem nameOf (related : WithNode r node graph more) {id : Nat} (known : id ∈ graph.nodes.keys) :
    more.nameOf (r.number id) = graph.nameOf id := by
  obtain ⟨own, found⟩ := Table.mem_keys.mp known
  rw [Graph.nameOf, Graph.nameOf, related.others, found]
  rfl

/-- Without a schedule for a graph there is none with a node more, for the same cycle. -/
theorem schedule_error (related : WithNode r node graph more) {document : GraphDocument}
    (represents : graph.Represents document) {cycle : NamedCycle}
    (failed : graph.schedule.1 = .error cycle) :
    ∃ other, more.schedule.1 = .error other ∧ other.names = cycle.names := by
  rw [schedule] at failed ⊢
  rw [related.constraints, r.schedule graph.nodes.keys more.nodes.keys]
  cases found : ShaderGraph.schedule graph.nodes.keys graph.constraints with
  | ok s =>
    rw [found] at failed
    contradiction
  | error ids =>
    rw [found] at failed
    obtain rfl := Except.error.inj failed
    refine ⟨_, rfl, ?_⟩
    simp only [List.map_map]
    apply List.map_congr_left
    intro id member
    -- What is on a cycle is the end of an edge, and so a node of the graph.
    obtain ⟨next, required⟩ := Constraints.Circular.exists_requires
      (valid_of_schedule found).circular member
    obtain ⟨e, _, source, target, first, _, same⟩ := represents.edge_of_constraint required
    obtain ⟨rfl, _⟩ := Constraint.mk.inj same
    have own := represents.get?_of_mem (represents.mem_of_node? first).1
    exact related.nameOf (Table.mem_keys.mpr ⟨source, own⟩)

theorem unrelated_eq (related : WithNode r node graph more) (constrained : List Nat) :
    (SortedSet.ofList (more.nodes.keys.filter
        (!(constrained.map r.number).contains ·))).toList =
      insertSorted node.id ((SortedSet.ofList (graph.nodes.keys.filter
        (!constrained.contains ·))).toList.map r.number) := by
  have same : SortedSet.ofList (more.nodes.keys.filter (!(constrained.map r.number).contains ·)) =
      (r.set (.ofList (graph.nodes.keys.filter (!constrained.contains ·)))).insert node.id := by
    apply SortedSet.eq_of_mem_iff
    intro id
    have mapped (ids : SortedSet Nat) : id ∈ r.set ids ↔ ∃ old ∈ ids, r.number old = id :=
      List.mem_map
    rw [SortedSet.mem_insert, SortedSet.mem_ofList, mapped, List.mem_filter, related.keys]
    simp only [SortedSet.mem_ofList, List.mem_filter]
    constructor
    · rintro ⟨rfl | ⟨old, key, rfl⟩, outside⟩
      · exact .inl rfl
      · exact .inr ⟨old, ⟨key, by simpa using outside⟩, rfl⟩
    · rintro (rfl | ⟨old, ⟨key, outside⟩, rfl⟩)
      · refine ⟨.inl rfl, ?_⟩
        simpa using fun other _ => related.apart other
      · exact ⟨.inr ⟨old, key, rfl⟩, by simpa using outside⟩
  exact congrArg SortedSet.toList same

/-- With a node more, the other nodes are called in the same order. -/
theorem schedule_ok (related : WithNode r node graph more) {scheduled : ScheduledGraph}
    (found : graph.schedule.1 = .ok scheduled) :
    ∃ other front back, more.schedule.1 = .ok other ∧ other.graph = more ∧
      scheduled.nodes = front ++ back ∧
      other.nodes = front.map r.node ++ node :: back.map r.node := by
  rw [schedule] at found
  cases ordered : ShaderGraph.schedule graph.nodes.keys graph.constraints with
  | error cycle =>
    rw [ordered] at found
    contradiction
  | ok s =>
    rw [ordered] at found
    obtain rfl := Except.ok.inj found
    have renumbered : ShaderGraph.schedule more.nodes.keys (r.constraints graph.constraints) = _ :=
      r.schedule graph.nodes.keys more.nodes.keys
    simp only [ordered, related.unrelated_eq, ← unrelated_of_schedule ordered] at renumbered
    have absent : node.id ∉ s.unrelated.map r.number := by
      simpa using fun id _ => related.apart id
    obtain ⟨_, _, split, placed⟩ := SortedSet.exists_split_insertSorted absent
    obtain ⟨first, second, unrelated, rfl, rfl⟩ := List.map_eq_append_iff.mp split
    refine ⟨⟨more, s.constrained.map r.number ++ insertSorted node.id (s.unrelated.map r.number)⟩,
      (s.constrained ++ first).filterMap graph.nodes.get?, second.filterMap graph.nodes.get?,
      ?_, rfl, ?_, ?_⟩
    · rw [schedule, related.constraints, renumbered]
      rfl
    · rw [ScheduledGraph.nodes, Schedule.order, unrelated, ← List.append_assoc,
        List.filterMap_append]
    · rw [ScheduledGraph.nodes, placed, ← List.append_assoc, ← List.map_append,
        List.filterMap_append, related.filterMap_get?, List.filterMap_cons_some related.own,
        related.filterMap_get?]

end WithNode

end Graph
end ShaderGraph
