import ShaderGraph.Graph.Scheduled
import ShaderGraph.Proofs.Graph.Basic
import ShaderGraph.Proofs.Order.Canonical

/-! Cycles of documents. The edges between declared nodes are the constraints of the graph, so that a
graph can be ordered if and only if its document has no cycle, and what is reported otherwise are the
names along one. -/
namespace ShaderGraph

namespace GraphDocument

def names (document : GraphDocument) : List String :=
  document.nodes.map fun d => normalizeName d.name

/-- The last node declared with a name is at a place. -/
structure LastNamed (document : GraphDocument) (name : String) (place : Nat) : Prop where
  named : document.names[place]? = some name
  last : ∀ later, place < later → document.names[later]? ≠ some name

/-- An edge leads from one node to another. Both are declared, and names mean the last node. -/
def Joins (document : GraphDocument) (a b : Nat) : Prop :=
  ∃ e ∈ document.edges, document.LastNamed (normalizeName e.source.node) a ∧
    document.LastNamed (normalizeName e.target.node) b

def Cyclic (document : GraphDocument) : Prop :=
  ∃ place, Relation.TransGen document.Joins place place

/-- Names of nodes, each of them once. An edge leads from each to the next, and from the last to the
first. -/
structure Circle (document : GraphDocument) (names : List String) : Prop where
  nonempty : names ≠ []
  nodup : names.Nodup
  declared : ∀ name ∈ names, name ∈ document.names
  joined : ∀ pair ∈ names.zip (names.rotate 1), ∃ e ∈ document.edges,
    normalizeName e.source.node = pair.1 ∧ normalizeName e.target.node = pair.2

theorem LastNamed.unique {document : GraphDocument} {name : String} {a b : Nat}
    (first : document.LastNamed name a) (second : document.LastNamed name b) : a = b := by
  rcases Nat.lt_trichotomy a b with less | same | less
  · exact absurd second.named (first.last b less)
  · exact same
  · exact absurd first.named (second.last a less)

end GraphDocument

namespace Graph.Represents

variable {graph : Graph} {document : GraphDocument} {name : String} {node : GraphNode}
variable {place : Nat}

/-- Places count from zero, and numbers from one. -/
theorem of_getElem? (represents : graph.Represents document)
    (found : graph.nodes.values[place]? = some node) :
    node.id = place + 1 ∧ document.names[place]? = some node.name := by
  have number : (graph.nodes.values.map GraphNode.id)[place]? = some node.id := by
    rw [List.getElem?_map, found, Option.map_some]
  have named : (graph.nodes.values.map GraphNode.name)[place]? = some node.name := by
    rw [List.getElem?_map, found, Option.map_some]
  rw [represents.map_id_values, represents.numbered] at number
  rw [represents.named] at named
  obtain ⟨_, same⟩ := List.getElem?_eq_some_iff.mp number
  rw [List.getElem_range'] at same
  exact ⟨by omega, named⟩

theorem exists_getElem? (represents : graph.Represents document)
    (named : document.names[place]? = some name) :
    ∃ node, graph.nodes.values[place]? = some node ∧ node.name = name := by
  rw [GraphDocument.names, ← represents.named, List.getElem?_map] at named
  exact Option.map_eq_some_iff.mp named

theorem lastNamed_of_node? (represents : graph.Represents document)
    (found : graph.node? name = some node) :
    ∃ place, node.id = place + 1 ∧ document.LastNamed name place := by
  obtain ⟨_, rfl⟩ := represents.mem_of_node? found
  rw [represents.last] at found
  -- The search goes from the end, so all that stands behind the node has other names.
  obtain ⟨_, behind, front, split, apart⟩ := List.find?_eq_some_iff_append.mp found
  have values : graph.nodes.values = front.reverse ++ node :: behind.reverse := by
    rw [← List.reverse_reverse graph.nodes.values, split]
    simp
  have here : graph.nodes.values[front.length]? = some node := by
    rw [values, List.getElem?_append_right (by simp)]
    simp
  obtain ⟨number, named⟩ := represents.of_getElem? here
  refine ⟨front.length, number, named, fun later after again => ?_⟩
  obtain ⟨other, there, same⟩ := represents.exists_getElem? again
  obtain ⟨distance, rfl⟩ := Nat.exists_eq_add_of_lt after
  have member : other ∈ behind := by
    have beyond : front.length + distance + 1 - front.reverse.length = distance + 1 := by
      simp; omega
    rw [values, List.getElem?_append_right (by simp; omega), beyond, List.getElem?_cons_succ] at there
    exact List.mem_reverse.mp (List.mem_of_getElem? there)
  simpa [same] using apart other member

theorem exists_node?_of_lastNamed (represents : graph.Represents document)
    (last : document.LastNamed name place) :
    ∃ node, graph.node? name = some node ∧ node.id = place + 1 := by
  obtain ⟨_, found, rfl⟩ := represents.exists_getElem? last.named
  obtain ⟨node, latest⟩ := represents.exists_node? (List.mem_of_getElem? found)
  obtain ⟨other, number, lastOther⟩ := represents.lastNamed_of_node? latest
  obtain rfl := last.unique lastOther
  exact ⟨node, latest, number⟩

theorem nameOf_of_lastNamed (represents : graph.Represents document)
    (last : document.LastNamed name place) : graph.nameOf (place + 1) = name := by
  obtain ⟨node, found, number⟩ := represents.exists_node?_of_lastNamed last
  obtain ⟨member, named⟩ := represents.mem_of_node? found
  rw [nameOf, ← number, represents.get?_of_mem member]
  exact named

theorem requires_of_joins {a b : Nat} (represents : graph.Represents document)
    (joins : document.Joins a b) : graph.constraints.Requires (a + 1) (b + 1) := by
  obtain ⟨e, edge, first, second⟩ := joins
  obtain ⟨source, foundSource, numberSource⟩ := represents.exists_node?_of_lastNamed first
  obtain ⟨target, foundTarget, numberTarget⟩ := represents.exists_node?_of_lastNamed second
  rw [← numberSource, ← numberTarget]
  exact represents.constraint_mem edge foundSource foundTarget

theorem joins_of_requires {x y : Nat} (represents : graph.Represents document)
    (required : graph.constraints.Requires x y) :
    ∃ a b, x = a + 1 ∧ y = b + 1 ∧ document.Joins a b := by
  obtain ⟨e, edge, source, target, foundSource, foundTarget, same⟩ :=
    represents.edge_of_constraint required
  obtain ⟨rfl, rfl⟩ := Constraint.mk.inj same
  obtain ⟨a, numberSource, first⟩ := represents.lastNamed_of_node? foundSource
  obtain ⟨b, numberTarget, second⟩ := represents.lastNamed_of_node? foundTarget
  exact ⟨a, b, numberSource, numberTarget, e, edge, first, second⟩

theorem cyclic_iff (represents : graph.Represents document) :
    graph.constraints.Cyclic ↔ document.Cyclic := by
  constructor
  · rintro ⟨id, around⟩
    refine ⟨id - 1, around.lift (· - 1) fun x y required => ?_⟩
    obtain ⟨a, b, rfl, rfl, joins⟩ := represents.joins_of_requires required
    exact joins
  · rintro ⟨place, around⟩
    exact ⟨place + 1, around.lift (· + 1) fun _ _ => represents.requires_of_joins⟩

/-- The names of the nodes on a cycle of the constraints are joined by the edges of the document. -/
theorem circle_of_valid (represents : graph.Represents document) {cycle : Cycle}
    (valid : cycle.Valid graph.constraints) : document.Circle (cycle.ids.map graph.nameOf) := by
  have latest (id : Nat) (member : id ∈ cycle.ids) :
      ∃ place, id = place + 1 ∧ document.LastNamed (graph.nameOf id) place := by
    obtain ⟨next, required⟩ := Constraints.Circular.exists_requires valid.circular member
    obtain ⟨place, _, rfl, _, _, _, last, _⟩ := represents.joins_of_requires required
    exact ⟨place, rfl, (represents.nameOf_of_lastNamed last).symm ▸ last⟩
  constructor
  case nonempty => exact fun none => valid.nonempty (List.map_eq_nil_iff.mp none)
  case nodup =>
    -- A name has only one last node, so that two numbers do not share theirs.
    refine valid.nodup.map_on fun x left y right same => ?_
    obtain ⟨a, rfl, first⟩ := latest x left
    obtain ⟨b, rfl, second⟩ := latest y right
    rw [same] at first
    rw [first.unique second]
  case declared =>
    intro name member
    obtain ⟨id, among, rfl⟩ := List.mem_map.mp member
    obtain ⟨_, _, last⟩ := latest id among
    exact List.mem_of_getElem? last.named
  case joined =>
    rw [← List.map_rotate, List.zip_map]
    intro pair member
    obtain ⟨⟨x, y⟩, among, rfl⟩ := List.mem_map.mp member
    obtain ⟨_, _, rfl, rfl, e, edge, first, second⟩ :=
      represents.joins_of_requires (valid.circular (x, y) among)
    exact ⟨e, edge, (represents.nameOf_of_lastNamed first).symm,
      (represents.nameOf_of_lastNamed second).symm⟩

theorem circle_of_schedule (represents : graph.Represents document) {cycle : NamedCycle}
    (failed : graph.schedule.1 = .error cycle) : document.Circle cycle.names := by
  rw [schedule] at failed
  split at failed
  · rename_i found reported
    obtain rfl := Except.error.inj failed
    exact represents.circle_of_valid (valid_of_schedule reported)
  · contradiction

/-- A graph cannot be ordered if and only if its document has a cycle. -/
theorem schedule_error_iff (represents : graph.Represents document) :
    (∃ cycle, graph.schedule.1 = .error cycle) ↔ document.Cyclic := by
  rw [← represents.cyclic_iff, schedule]
  cases found : ShaderGraph.schedule graph.nodes.keys graph.constraints with
  | error cycle => exact ⟨fun _ => (valid_of_schedule found).cyclic, fun _ => ⟨_, rfl⟩⟩
  | ok s =>
    constructor
    · rintro ⟨_, failed⟩
      contradiction
    · exact fun cyclic => absurd cyclic (not_cyclic_of_schedule found)

end Graph.Represents
end ShaderGraph
