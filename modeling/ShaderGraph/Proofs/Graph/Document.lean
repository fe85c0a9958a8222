import ShaderGraph.Proofs.Graph.Cycle

/-! What the graph of a document holds, told by the document alone: by the places of declarations and
edges, of which the last with a name and the last into an input count. -/
namespace ShaderGraph

def Edge.Into (e : Edge) (node input : String) : Prop :=
  normalizeName e.target.node = node ∧ e.target.interface = input

instance (e : Edge) (node input : String) : Decidable (e.Into node input) :=
  inferInstanceAs (Decidable (_ ∧ _))

namespace GraphDocument

variable (document : GraphDocument) (settings : Table String NodeConfig)

/-- A name means the node that is read from the last declaration with it. -/
def Means (name : String) (node : GraphNode) : Prop :=
  ∃ place d, document.LastNamed name place ∧ document.nodes[place]? = some d ∧
    GraphNode.ofDeclaration settings (place + 1) d = .ok node

def LastInto (node input : String) (e : Edge) : Prop :=
  ∃ before after, document.edges = before ++ e :: after ∧ e.Into node input ∧
    ∀ later ∈ after, ¬later.Into node input

/-- The variable that an edge brings: the source itself if it is a value, and otherwise the output that
the edge names, also if there is no such node. -/
inductive Carries (e : Edge) : String → Prop
  | value {node : GraphNode} (source : document.Means settings (normalizeName e.source.node) node)
      (passed : isPassThrough node.function = true) : Carries e (normalizeName e.source.node)
  | output (called : ∀ node, document.Means settings (normalizeName e.source.node) node →
      isPassThrough node.function = false) :
      Carries e (normalizeName e.source.node ++ "_at_" ++ e.source.interface)

inductive Assigns : List Edge → List Assignment → Prop
  | nil : Assigns [] []
  | varying {e : Edge} {edges : List Edge} {assignments : List Assignment} {node : GraphNode}
      {carried : String} (target : document.Means settings (normalizeName e.target.node) node)
      (kind : node.kind = .varying) (carries : document.Carries settings e carried)
      (rest : Assigns edges assignments) :
      Assigns (e :: edges) (⟨normalizeName e.target.node, carried⟩ :: assignments)
  | other {e : Edge} {edges : List Edge} {assignments : List Assignment}
      (target : ∀ node, document.Means settings (normalizeName e.target.node) node →
        node.kind ≠ .varying)
      (rest : Assigns edges assignments) : Assigns (e :: edges) assignments

theorem find?_edges_eq_some {document : GraphDocument} {node input : String} {e : Edge} :
    document.edges.reverse.find? (·.Into node input) = some e ↔
      document.LastInto node input e := by
  simp only [find?_reverse_eq_some, decide_eq_true_eq]
  rfl

end GraphDocument

namespace Graph

structure Exact (graph : Graph) (settings : Table String NodeConfig) (document : GraphDocument) :
    Prop where
  numbered : graph.nodes.keys = List.range' 1 document.nodes.length
  stored : ∀ place d, document.nodes[place]? = some d → ∃ node,
    GraphNode.ofDeclaration settings (place + 1) d = .ok node ∧ node.id = place + 1 ∧
    graph.nodes.get? (place + 1) = some node
  named : ∀ name node, graph.node? name = some node ↔ document.Means settings name node
  unnamed : ∀ name, graph.node? name = none ↔ name ∉ document.names
  constrained : ∀ c, c ∈ graph.constraints ↔ ∃ e ∈ document.edges, ∃ a b,
    document.LastNamed (normalizeName e.source.node) a ∧
    document.LastNamed (normalizeName e.target.node) b ∧ c = ⟨a + 1, b + 1⟩
  unshadowed : ∀ place later name, place < later → document.names[place]? = some name →
    document.names[later]? = some name → place + 1 ∉ graph.constraints.endpoints
  bound : ∀ node input carried, graph.binding? node input = some carried ↔
    ∃ e, document.LastInto node input e ∧ document.Carries settings e carried
  unbound : ∀ node input, graph.binding? node input = none ↔
    ∀ e ∈ document.edges, ¬e.Into node input
  tabled : ∀ node input,
    (graph.bindingTable.get? node).bind (·.get? input) = graph.binding? node input
  assigned : document.Assigns settings document.edges graph.epilogue

variable {graph : Graph} {document : GraphDocument} {settings : Table String NodeConfig}
variable {supplied : SortedSet String}

/-- A graph is read from nodes and settings that can all be read, and holds each node under the number
of its declaration. -/
theorem stored_of_ofDocument (read : (ofDocument document supplied).1 = .ok graph) :
    ∃ settings, settingTable document.settings = .ok settings ∧
      ∀ place d, document.nodes[place]? = some d → ∃ node,
        GraphNode.ofDeclaration settings (place + 1) d = .ok node ∧ node.id = place + 1 ∧
        graph.nodes.get? (place + 1) = some node := by
  obtain ⟨settings, nodes, kept, made, rfl⟩ := ofDocument_eq_ok read
  have ascending : (nodes.map GraphNode.id).Pairwise (· < ·) :=
    (readNodes_eq made).1 ▸ List.pairwise_lt_range'
  refine ⟨settings, kept, fun place d declared => ?_⟩
  obtain ⟨node, found, read⟩ := readNodes_placed made declared
  rw [Nat.add_comm] at read
  have number := (GraphNode.of_ofDeclaration read).1
  refine ⟨node, read, number, Table.get?_eq_some_iff.mpr ?_⟩
  change _ ∈ (ofNodes supplied nodes).nodes.entries
  rw [entries_ofNodes supplied ascending, ← number]
  exact List.mem_map_of_mem (f := fun node : GraphNode => (node.id, node)) (List.mem_of_getElem? found)

namespace Represents

variable {name : String} {node : GraphNode} {e : Edge}

theorem node?_eq_none (represents : graph.Represents document) :
    graph.node? name = none ↔ name ∉ document.names := by
  rw [represents.last, GraphDocument.names, ← represents.named]
  simp

/-- The node of a name is found under the number of the last declaration with it. -/
theorem node?_eq_some (represents : graph.Represents document) :
    graph.node? name = some node ↔ ∃ place, document.LastNamed name place ∧
      graph.nodes.get? (place + 1) = some node := by
  constructor
  · intro found
    obtain ⟨place, number, last⟩ := represents.lastNamed_of_node? found
    obtain ⟨member, _⟩ := represents.mem_of_node? found
    exact ⟨place, last, number ▸ represents.get?_of_mem member⟩
  · rintro ⟨place, last, here⟩
    obtain ⟨other, found, number⟩ := represents.exists_node?_of_lastNamed last
    obtain ⟨member, _⟩ := represents.mem_of_node? found
    have again := represents.get?_of_mem member
    rw [number, here] at again
    rw [found, ← Option.some.inj again]

theorem mem_constraints_iff (represents : graph.Represents document) (c : Constraint) :
    c ∈ graph.constraints ↔ ∃ e ∈ document.edges, ∃ a b,
      document.LastNamed (normalizeName e.source.node) a ∧
      document.LastNamed (normalizeName e.target.node) b ∧ c = ⟨a + 1, b + 1⟩ := by
  obtain ⟨x, y⟩ := c
  constructor
  · intro required
    obtain ⟨a, b, rfl, rfl, e, edge, first, second⟩ := represents.joins_of_requires required
    exact ⟨e, edge, a, b, first, second, rfl⟩
  · rintro ⟨e, edge, a, b, first, second, same⟩
    exact same ▸ represents.requires_of_joins ⟨e, edge, first, second⟩

theorem not_mem_endpoints (represents : graph.Represents document) {place later : Nat}
    (before : place < later) (named : document.names[place]? = some name)
    (again : document.names[later]? = some name) : place + 1 ∉ graph.constraints.endpoints := by
  intro endpoint
  obtain ⟨c, constrained, side⟩ := Constraints.mem_endpoints.mp endpoint
  obtain ⟨e, _, a, b, first, second, rfl⟩ := (represents.mem_constraints_iff c).mp constrained
  have shadowed {other : String} (last : document.LastNamed other place) : False := by
    obtain rfl := Option.some.inj (named.symm.trans last.named)
    exact last.last later before again
  rcases side with same | same
  · obtain rfl : place = a := by simpa using same
    exact shadowed first
  · obtain rfl : place = b := by simpa using same
    exact shadowed second

end Represents

section
variable (named : ∀ name node, graph.node? name = some node ↔ document.Means settings name node)
include named

theorem carries_iff {e : Edge} {carried : String} :
    document.Carries settings e carried ↔ carried = (graph.resolve e).sourceVariable := by
  rw [ResolvedEdge.sourceVariable]
  constructor
  · intro carries
    cases carries with
    | value source passed =>
      have found : (graph.resolve e).source = some _ := (named _ _).mpr source
      rw [found, Option.any_some, if_pos passed]
      rfl
    | output called =>
      have other : ¬(graph.resolve e).source.any (isPassThrough ·.function) := by
        rw [Option.any_eq_true]
        rintro ⟨node, found, passed⟩
        rw [called node ((named _ _).mp found)] at passed
        contradiction
      rw [if_neg other]
      rfl
  · rintro rfl
    split
    · rename_i value
      obtain ⟨node, found, passed⟩ := (Option.any_eq_true _ _).mp value
      exact .value ((named _ _).mp found) passed
    · rename_i other
      refine .output fun node source => Bool.eq_false_iff.mpr fun passed => other ?_
      exact (Option.any_eq_true _ _).mpr ⟨node, (named _ _).mpr source, passed⟩

theorem assigns_resolved (edges : List Edge) :
    document.Assigns settings edges (edges.filterMap fun e => (graph.resolve e).assignment?) := by
  induction edges with
  | nil => exact .nil
  | cons e rest ih =>
    by_cases varying : (graph.resolve e).target.any (·.kind = .varying)
    · obtain ⟨node, found, kind⟩ := (Option.any_eq_true _ _).mp varying
      have assigned : (graph.resolve e).assignment? =
        some ⟨normalizeName e.target.node, (graph.resolve e).sourceVariable⟩ := if_pos varying
      simp only [List.filterMap_cons, assigned]
      exact .varying ((named _ _).mp found) (of_decide_eq_true kind) ((carries_iff named).mpr rfl) ih
    · have unassigned : (graph.resolve e).assignment? = none := if_neg varying
      simp only [List.filterMap_cons, unassigned]
      refine .other (fun node target kind => varying ?_) ih
      exact (Option.any_eq_true _ _).mpr ⟨node, (named _ _).mpr target, decide_eq_true kind⟩

end

theorem get?_bindTable (bindings : List Binding) (table : Table String (Table String String))
    (node input : String) :
    ((bindings.foldl (fun table b =>
      table.insert b.node (((table.get? b.node).getD ∅).insert b.input b.source)) table).get? node).bind
        (·.get? input) =
      ((bindings.reverse.find? fun b => b.node = node ∧ b.input = input).map Binding.source).or
        ((table.get? node).bind (·.get? input)) := by
  induction bindings generalizing table with
  | nil => simp
  | cons b rest ih =>
    have inserted : ((table.insert b.node
        (((table.get? b.node).getD ∅).insert b.input b.source)).get? node).bind (·.get? input) =
          if b.node = node ∧ b.input = input then some b.source
          else (table.get? node).bind (·.get? input) := by
      rw [Table.get?_insert]
      by_cases here : node = b.node
      · subst here
        rw [if_pos rfl, Option.bind_some, Table.get?_insert]
        cases table.get? b.node <;> simp [eq_comm]
      · rw [if_neg here, if_neg fun both => here both.1.symm]
    rw [List.foldl_cons, ih, inserted, List.reverse_cons, List.find?_append]
    cases rest.reverse.find? fun b => b.node = node ∧ b.input = input with
    | some later => simp
    | none => by_cases both : b.node = node ∧ b.input = input <;> simp [both]

/-- The table holds the bindings that count. -/
theorem get?_bindingTable (graph : Graph) (node input : String) :
    (graph.bindingTable.get? node).bind (·.get? input) = graph.binding? node input := by
  rw [bindingTable, get?_bindTable, Table.get?_empty, Option.bind_none, Option.or_none, binding?]

/-- The graph of a document holds exactly what the document says. -/
theorem ofDocument_exact (read : (ofDocument document supplied).1 = .ok graph) :
    ∃ settings, settingTable document.settings = .ok settings ∧ graph.Exact settings document := by
  obtain ⟨settings, kept, stored⟩ := stored_of_ofDocument read
  have represents := ofDocument_represents read
  have named (name : String) (node : GraphNode) :
      graph.node? name = some node ↔ document.Means settings name node := by
    rw [represents.node?_eq_some]
    refine exists_congr fun place => ?_
    constructor
    · rintro ⟨last, found⟩
      obtain ⟨d, declared, _⟩ := Option.map_eq_some_iff.mp
        ((List.getElem?_map ..).symm.trans last.named)
      obtain ⟨_, made, _, here⟩ := stored place d declared
      obtain rfl := Option.some.inj (found.symm.trans here)
      exact ⟨d, last, declared, made⟩
    · rintro ⟨d, last, declared, made⟩
      obtain ⟨_, again, _, here⟩ := stored place d declared
      obtain rfl := Except.ok.inj (made.symm.trans again)
      exact ⟨last, here⟩
  refine ⟨settings, kept, ?_⟩
  constructor
  case numbered => exact represents.numbered
  case stored => exact stored
  case named => exact named
  case unnamed => exact fun name => represents.node?_eq_none
  case constrained => exact represents.mem_constraints_iff
  case unshadowed => exact fun _ _ _ => represents.not_mem_endpoints
  case bound =>
    intro node input carried
    rw [represents.binding?_eq_find?, Option.map_eq_some_iff]
    refine exists_congr fun e => and_congr GraphDocument.find?_edges_eq_some ?_
    exact eq_comm.trans (carries_iff named).symm
  case unbound =>
    intro node input
    rw [represents.binding?_eq_find?, Option.map_eq_none_iff, List.find?_eq_none]
    simp [Edge.Into]
  case tabled => exact graph.get?_bindingTable
  case assigned => exact represents.epilogue ▸ assigns_resolved named document.edges

/-- The first node shares its name with a later one that is no value. Of the edges into an input of the
second, the last comes from a name without a node, and there is one into such a name. -/
def shadowedValue : GraphDocument where
  nodes := [⟨"a", "vec3", none⟩, ⟨"b", "phong", none⟩, ⟨"a", "noise", none⟩,
    ⟨"v", "vec4", some (.mapping [(.string "type", .string "varying")])⟩]
  edges := [⟨⟨"a", "x"⟩, ⟨"b", "in"⟩⟩, ⟨⟨"lost", "y"⟩, ⟨"b", "in"⟩⟩, ⟨⟨"v", "value"⟩, ⟨"lost", "z"⟩⟩,
    ⟨⟨"b", "out"⟩, ⟨"v", "value"⟩⟩, ⟨⟨"a", "x"⟩, ⟨"v", "value"⟩⟩]
  settings := []

theorem shadowedValue_exact : ∃ graph, (ofDocument shadowedValue ∅).1 = .ok graph ∧
    graph.Exact ∅ shadowedValue ∧
    graph.constraints.toList = [⟨2, 4⟩, ⟨3, 2⟩, ⟨3, 4⟩] ∧ 1 ∉ graph.constraints.endpoints ∧
    graph.binding? "b" "in" = some "lost_at_y" ∧ graph.binding? "lost" "z" = some "v" ∧
    graph.epilogue = [⟨"v", "b_at_out"⟩, ⟨"v", "a_at_x"⟩] := by
  have read : (ofDocument shadowedValue ∅).1 = .ok _ := rfl
  obtain ⟨_, kept, holds⟩ := ofDocument_exact read
  obtain rfl := Except.ok.inj ((rfl : settingTable shadowedValue.settings = .ok ∅).symm.trans kept)
  have shadowed := holds.unshadowed 0 2 "a" (by decide) (by decide +kernel) (by decide +kernel)
  exact ⟨_, read, holds, by decide +kernel, shadowed, by decide +kernel, by decide +kernel,
    by decide +kernel⟩

end Graph
end ShaderGraph
