import ShaderGraph.Graph.Scheduled
import ShaderGraph.Proofs.Graph.Basic
import ShaderGraph.Proofs.Order.Schedule

/-! Scheduled graphs enumerate their nodes in an order that meets the constraints between them. -/
namespace ShaderGraph

namespace ScheduledGraph

def entries (s : ScheduledGraph) : List (Nat × GraphNode) :=
  s.order.filterMap fun id => (s.graph.nodes.get? id).map (id, ·)

theorem nodes_eq_map_entries (s : ScheduledGraph) : s.nodes = s.entries.map Prod.snd := by
  simp [nodes, entries, List.map_filterMap, Function.comp_def]

theorem mem_entries {s : ScheduledGraph} {id : Nat} {node : GraphNode} :
    (id, node) ∈ s.entries ↔ id ∈ s.order ∧ s.graph.nodes.get? id = some node := by
  simp only [entries, List.mem_filterMap, Option.map_eq_some_iff, Prod.mk.injEq]
  constructor
  · rintro ⟨_, member, _, found, rfl, rfl⟩
    exact ⟨member, found⟩
  · rintro ⟨member, found⟩
    exact ⟨id, member, node, found, rfl, rfl⟩

theorem entries_nodup {s : ScheduledGraph} (unique : s.order.Nodup) : s.entries.Nodup := by
  apply unique.filterMap
  rintro a b ⟨id, node⟩ left right
  simp only [Option.mem_def, Option.map_eq_some_iff, Prod.mk.injEq] at left right
  obtain ⟨_, _, rfl, _⟩ := left
  obtain ⟨_, _, rfl, _⟩ := right
  rfl

/-- An order of all numbers of nodes enumerates the node table. -/
theorem entries_perm {s : ScheduledGraph} (unique : s.order.Nodup)
    (complete : ∀ id ∈ s.graph.nodes.keys, id ∈ s.order) : s.entries.Perm s.graph.nodes.entries := by
  have nodup : s.graph.nodes.entries.Nodup := s.graph.nodes.keys_nodup.of_map _
  apply (List.perm_ext_iff_of_nodup (entries_nodup unique) nodup).mpr
  rintro ⟨id, node⟩
  rw [mem_entries, Table.get?_eq_some_iff]
  exact and_iff_right_of_imp fun member => complete id (List.mem_map_of_mem member)

theorem precedes_entries {s : ScheduledGraph} {a b : Nat} {left right : GraphNode}
    (before : Precedes s.order a b) (first : s.graph.nodes.get? a = some left)
    (second : s.graph.nodes.get? b = some right) : Precedes s.entries (a, left) (b, right) :=
  before.filterMap _ (by simp [first]) (by simp [second])

end ScheduledGraph

namespace Graph

variable {graph : Graph} {scheduled : ScheduledGraph}

theorem schedule_eq_ok (found : graph.schedule.1 = .ok scheduled) :
    scheduled.graph = graph ∧ ∃ s : Schedule, s.Sound graph.nodes.keys graph.constraints ∧
      scheduled.order = s.order := by
  rw [schedule] at found
  split at found
  · contradiction
  · rename_i s ordered
    obtain rfl := Except.ok.inj found
    exact ⟨rfl, s, schedule_sound ordered, rfl⟩

theorem entries_perm_of_schedule (found : graph.schedule.1 = .ok scheduled) :
    scheduled.entries.Perm graph.nodes.entries := by
  obtain ⟨rfl, s, sound, order⟩ := schedule_eq_ok found
  refine ScheduledGraph.entries_perm (order ▸ sound.nodup) fun id key => ?_
  rw [order, Schedule.order, List.mem_append, sound.constrained, sound.unrelated]
  tauto

theorem nodes_perm_of_schedule (found : graph.schedule.1 = .ok scheduled) :
    scheduled.nodes.Perm graph.nodes.values := by
  rw [scheduled.nodes_eq_map_entries]
  exact (entries_perm_of_schedule found).map Prod.snd

/-- The source of an edge comes before every node with the name of its target. The last of them
stands in the constraint of the edge; the others stand in none and follow all that do. -/
theorem Represents.source_precedes {document : GraphDocument} {e : Edge} {source node : GraphNode}
    (represents : graph.Represents document) (found : graph.schedule.1 = .ok scheduled)
    (edge : e ∈ document.edges) (first : graph.node? (normalizeName e.source.node) = some source)
    (member : node ∈ graph.nodes.values) (named : node.name = normalizeName e.target.node) :
    Precedes scheduled.nodes source node := by
  obtain ⟨rfl, s, sound, order⟩ := schedule_eq_ok found
  obtain ⟨last, second⟩ := represents.exists_node? member
  rw [named] at second
  have required := represents.constraint_mem edge first second
  have known := represents.get?_of_mem (represents.mem_of_node? first).1
  have before : Precedes scheduled.order source.id node.id := by
    by_cases endpoint : node.id ∈ scheduled.graph.constraints.endpoints
    · have latest := represents.node?_of_endpoint member endpoint
      rw [named, second] at latest
      obtain rfl := Option.some.inj latest
      exact order ▸ sound.met _ _ required
    · have key : node.id ∈ scheduled.graph.nodes.keys :=
        Table.mem_keys.mpr ⟨node, represents.get?_of_mem member⟩
      rw [order]
      exact .of_mem_append ((sound.constrained _).mpr required.left_mem)
        ((sound.unrelated _).mpr ⟨key, endpoint⟩)
  rw [scheduled.nodes_eq_map_entries]
  exact (ScheduledGraph.precedes_entries before known (represents.get?_of_mem member)).map Prod.snd

end Graph

/-- A schedule has the given nodes and the endpoints of all constraints, once each, and meets the
constraints. Whatever nodes and constraints a graph holds, its schedule enumerates its nodes, once
each, and meets the constraints between them. -/
theorem schedule_enumerates_in_order :
    (∀ (ids : List Nat) (constraints : Constraints) (found : Schedule),
      schedule ids constraints = .ok found →
      found.order.Nodup ∧
      (∀ id, id ∈ found.order ↔ id ∈ ids ∨ ∃ c ∈ constraints, id = c.before ∨ id = c.after) ∧
      ∀ c ∈ constraints, Precedes found.order c.before c.after) ∧
    ∀ (graph : Graph) (scheduled : ScheduledGraph), graph.schedule.1 = .ok scheduled →
      scheduled.entries.Perm graph.nodes.entries ∧
      scheduled.nodes = scheduled.entries.map Prod.snd ∧
      ∀ c ∈ graph.constraints, ∀ first second,
        graph.nodes.get? c.before = some first → graph.nodes.get? c.after = some second →
        Precedes scheduled.entries (c.before, first) (c.after, second) := by
  constructor
  · intro ids constraints found ordered
    have sound := schedule_sound ordered
    refine ⟨sound.nodup, fun id => ?_, fun c member => sound.met c.before c.after member⟩
    rw [Schedule.order, List.mem_append, sound.constrained, sound.unrelated,
      ← Constraints.mem_endpoints]
    tauto
  · intro graph scheduled found
    refine ⟨Graph.entries_perm_of_schedule found, scheduled.nodes_eq_map_entries, ?_⟩
    obtain ⟨rfl, s, sound, order⟩ := Graph.schedule_eq_ok found
    intro c member first second left right
    exact ScheduledGraph.precedes_entries (order ▸ sound.met _ _ member) left right

/-- A chain of constraints through a node that is then dropped. -/
def chainWithoutMiddle : Graph :=
  let nodes := [⟨1, "f", "a", .plain, ∅⟩, ⟨2, "f", "b", .plain, ∅⟩, ⟨3, "f", "c", .plain, ∅⟩]
  ((Graph.ofNodes ∅ nodes).constrain [⟨3, 2⟩, ⟨2, 1⟩]).drop [2]

theorem chainWithoutMiddle_in_order :
    (∃ found, schedule [5, 3, 3, 1] (.ofList [⟨4, 3⟩]) = .ok found ∧ found.order = [4, 3, 1, 5] ∧
      found.order.Nodup ∧ Precedes found.order 4 3) ∧
    ∃ scheduled, chainWithoutMiddle.schedule.1 = .ok scheduled ∧
      scheduled.nodes.map GraphNode.name = ["c", "a"] ∧
      scheduled.entries.Perm chainWithoutMiddle.nodes.entries := by
  obtain ⟨ordered, enumerated⟩ := schedule_enumerates_in_order
  obtain ⟨unique, _, met⟩ := ordered [5, 3, 3, 1] (.ofList [⟨4, 3⟩]) _ rfl
  obtain ⟨complete, _, _⟩ := enumerated chainWithoutMiddle _ rfl
  exact ⟨⟨_, rfl, rfl, unique, met ⟨4, 3⟩ (by decide)⟩, _, rfl, rfl, complete⟩

end ShaderGraph
