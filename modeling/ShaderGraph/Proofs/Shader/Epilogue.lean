import Mathlib.Logic.Function.Basic
import ShaderGraph.Proofs.Shader.Compile

/-! The assignments of varyings behind the calls. They stand in the order of the edges, whatever the
order of the nodes, so that a varying which feeds another one is read with the value that the edges
before have given it. -/
namespace ShaderGraph

section
variable {V : Type u}

def Assignment.execute (env : String → V) (a : Assignment) : String → V :=
  Function.update env a.target (env a.source)

theorem Assignment.execute_others {assignments : List Assignment} {env : String → V} {name : String}
    (others : ∀ a ∈ assignments, a.target ≠ name) :
    assignments.foldl Assignment.execute env name = env name := by
  induction assignments generalizing env with
  | nil => rfl
  | cons first rest ih =>
    obtain ⟨apart, others⟩ := List.forall_mem_cons.mp others
    rw [List.foldl_cons, ih others]
    exact Function.update_of_ne apart.symm _ _

/-- A variable that is not assigned again is read with the value that it ends up with. -/
theorem Assignment.execute_reads {late : List Assignment} {source target : String}
    (apart : target ≠ source) (final : ∀ a ∈ late, a.target ≠ source) (early : List Assignment)
    (env : String → V) :
    (early ++ [(⟨target, source⟩ : Assignment)]).foldl Assignment.execute env target =
      (early ++ ⟨target, source⟩ :: late).foldl Assignment.execute env source := by
  rw [List.foldl_append, List.foldl_append, List.foldl_cons, List.foldl_cons, List.foldl_nil,
    Assignment.execute_others final]
  exact (Function.update_self ..).trans (Function.update_of_ne apart.symm _ _).symm

end

namespace Dataflow

variable (flow : Dataflow)

def target? (e : Edge) : Option GraphNode :=
  flow.nodes.reverse.find? (·.name = normalizeName e.target.node)

def assigned? (e : Edge) : Option Assignment :=
  if (flow.target? e).any (·.kind = .varying) then
    some ⟨normalizeName e.target.node, flow.carried e⟩
  else none

variable {flow} {e : Edge} {source target : GraphNode}

theorem name_of_source? (named : flow.source? e = some source) :
    source.name = normalizeName e.source.node := by
  simpa using List.find?_some named

theorem name_of_target? (named : flow.target? e = some target) :
    target.name = normalizeName e.target.node := by
  simpa using List.find?_some named

theorem target_of_assigned? {a : Assignment} (assigned : flow.assigned? e = some a) :
    a.target = normalizeName e.target.node := by
  rw [assigned?] at assigned
  split at assigned
  · obtain rfl := Option.some.inj assigned
    rfl
  · contradiction

theorem assigned?_of_target? (named : flow.target? e = some target)
    (varying : target.kind = .varying) :
    flow.assigned? e = some ⟨target.name, flow.carried e⟩ := by
  simp [assigned?, named, varying, name_of_target? named]

/-- A value is carried under its own name. -/
theorem carried_of_value (named : flow.source? e = some source)
    (value : isPassThrough source.function = true) : flow.carried e = source.name := by
  simp [carried, named, value, name_of_source? named]

/-- A varying stays as it is behind a place in the edges if no later edge leads into it. -/
theorem unassigned_iff {back : List Edge} (named : flow.source? e = some source)
    (varying : source.kind = .varying) :
    (∀ a ∈ back.filterMap flow.assigned?, a.target ≠ source.name) ↔
      ∀ other ∈ back, normalizeName other.target.node ≠ source.name := by
  constructor
  · intro free other member same
    have into : flow.target? other = some source := by
      rw [target?, same, name_of_source? named]
      exact named
    have among := List.mem_filterMap.mpr ⟨other, member, assigned?_of_target? into varying⟩
    exact free _ among rfl
  · intro free a among
    obtain ⟨other, member, assigned⟩ := List.mem_filterMap.mp among
    rw [target_of_assigned? assigned]
    exact free other member

end Dataflow

variable {supplied : SortedSet String} {document : GraphDocument}

namespace Compilation

variable {library final : Library σ} {program : Program}

theorem target?_eq (c : Compilation supplied document library final program) (e : Edge) :
    c.flow.target? e = c.graph.node? (normalizeName e.target.node) :=
  (c.represents.last _).symm

theorem assigned?_eq (c : Compilation supplied document library final program) (e : Edge) :
    c.flow.assigned? e = (c.graph.resolve e).assignment? := by
  rw [Dataflow.assigned?, c.target?_eq, flow, c.represents.carried_eq]
  rfl

theorem epilogue_eq (c : Compilation supplied document library final program) :
    program.epilogue = (document.edges.filterMap c.flow.assigned?).map Assignment.text := by
  rw [c.grown.epilogue, Program.beforeCalls, c.represents.epilogue,
    funext c.assigned?_eq]

/-- No edge leads from a node to itself. -/
theorem source_ne_target (c : Compilation supplied document library final program) {e : Edge}
    {source target : GraphNode} (edge : e ∈ document.edges)
    (first : c.flow.source? e = some source) (second : c.flow.target? e = some target) :
    target.name ≠ source.name := by
  intro same
  have found := (c.represents.source?_eq final e).symm.trans first
  obtain ⟨member, _⟩ := c.represents.mem_of_node? found
  have named := same.symm.trans (Dataflow.name_of_target? second)
  have before := c.represents.source_precedes c.ordered edge found member named
  have unique : c.scheduled.nodes.Nodup :=
    (Graph.nodes_perm_of_schedule c.ordered).nodup_iff.mpr c.represents.values_nodup
  exact absurd (unique.sublist before) (by simp)

end Compilation

/-- The epilogue assigns each varying once for each edge into it, in the order of the edges. What an
edge reads from a varying that is a value is assigned before by all edges into that varying just if
no later one leads into it, and then the value is the one that the varying ends up with. -/
theorem varyings_assigned_in_edge_order [ResourceStore σ] {library : Library σ} {shader : Shader}
    (compiled : (compile supplied document library).result = .ok shader) :
    ∃ graph, (Graph.ofDocument document supplied).1 = .ok graph ∧
      let flow := graph.dataflow document (compile supplied document library).state
      let assignments := document.edges.filterMap flow.assigned?
      shader.program.epilogue = assignments.map Assignment.text ∧
      ∀ (front : List Edge) (e : Edge) (back : List Edge) (source target : GraphNode),
        document.edges = front ++ e :: back →
        flow.source? e = some source → flow.target? e = some target →
        source.kind = .varying → isPassThrough source.function = true →
        target.kind = .varying →
        let early := front.filterMap flow.assigned?
        let reads : Assignment := ⟨target.name, source.name⟩
        let late := back.filterMap flow.assigned?
        assignments = early ++ reads :: late ∧
        ((∀ a ∈ reads :: late, a.target ≠ source.name) ↔
          ∀ later ∈ back, normalizeName later.target.node ≠ source.name) ∧
        ((∀ later ∈ back, normalizeName later.target.node ≠ source.name) →
          ∀ (V : Type) (env : String → V),
            (early ++ [reads]).foldl Assignment.execute env target.name =
              assignments.foldl Assignment.execute env source.name) := by
  obtain ⟨c⟩ := compile_returns ⟨compiled, rfl⟩
  refine ⟨c.graph, c.read, c.epilogue_eq, ?_⟩
  intro front e back source target split first second carried value varying
  have apart : target.name ≠ source.name :=
    c.source_ne_target (by simp [split]) first second
  have reads : c.flow.assigned? e = some ⟨target.name, source.name⟩ :=
    Dataflow.carried_of_value first value ▸ Dataflow.assigned?_of_target? second varying
  have parts : document.edges.filterMap c.flow.assigned? = front.filterMap c.flow.assigned? ++
      ⟨target.name, source.name⟩ :: back.filterMap c.flow.assigned? := by
    rw [split, List.filterMap_append, List.filterMap_cons_some reads]
  have free : (∀ a ∈ back.filterMap c.flow.assigned?, a.target ≠ source.name) ↔
      ∀ later ∈ back, normalizeName later.target.node ≠ source.name :=
    Dataflow.unassigned_iff first carried
  refine ⟨parts, ?_, fun last V env => ?_⟩
  · exact List.forall_mem_cons.trans ((and_iff_right apart).trans free)
  · refine (Assignment.execute_reads apart (free.mpr last) _ env).trans ?_
    exact congrArg (·.foldl Assignment.execute env source.name) parts.symm

def varyingChain (edges : List Edge) : GraphDocument where
  nodes := [⟨"t", "vec3", none⟩, ⟨"u", "vec3", some (.mapping [(.string "type", .string "varying")])⟩,
    ⟨"w", "vec3", some (.mapping [(.string "type", .string "varying")])⟩]
  edges := edges
  settings := []

def chainEdges : List Edge := [⟨⟨"t", ""⟩, ⟨"u", ""⟩⟩, ⟨⟨"u", ""⟩, ⟨"w", ""⟩⟩]

theorem varyingChain_in_edge_order :
    ∃ shader, (compile ∅ (varyingChain chainEdges) (.ofStore .empty : Library MemoryStore)).result =
        .ok shader ∧
      shader.program.epilogue = ["u = t;", "w = u;"] ∧
      ∀ env : String → Bool, [⟨"u", "t"⟩, ⟨"w", "u"⟩].foldl Assignment.execute env "w" =
        [⟨"u", "t"⟩, ⟨"w", "u"⟩].foldl Assignment.execute env "u" := by
  have compiled : (compile ∅ (varyingChain chainEdges)
    (.ofStore .empty : Library MemoryStore)).result = .ok _ := rfl
  obtain ⟨graph, read, epilogue, ordered⟩ := varyings_assigned_in_edge_order compiled
  obtain rfl := Except.ok.inj
    ((rfl : (Graph.ofDocument (varyingChain chainEdges) ∅).1 = .ok _).symm.trans read)
  obtain ⟨_, _, final⟩ := ordered [⟨⟨"t", ""⟩, ⟨"u", ""⟩⟩] ⟨⟨"u", ""⟩, ⟨"w", ""⟩⟩ []
    ⟨2, "vec3", "u", .varying, ∅⟩ ⟨3, "vec3", "w", .varying, ∅⟩ rfl rfl rfl rfl rfl rfl
  exact ⟨_, compiled, epilogue, final (by simp) Bool⟩

/-- With the edges in the other order a varying is read before it is assigned. -/
theorem varyingChain_read_before_assigned :
    ∃ graph shader,
      (Graph.ofDocument (varyingChain chainEdges.reverse) ∅).1 = .ok graph ∧
      (compile ∅ (varyingChain chainEdges.reverse) (.ofStore .empty : Library MemoryStore)).result =
        .ok shader ∧
      (∃ u w, graph.node? "u" = some u ∧ u.kind = .varying ∧ isPassThrough u.function = true ∧
        graph.node? "w" = some w ∧ w.kind = .varying) ∧
      shader.program.epilogue = ["w = u;", "u = t;"] ∧
      ¬∀ assigned reads : Nat, shader.program.epilogue[assigned]? = some "u = t;" →
        shader.program.epilogue[reads]? = some "w = u;" → assigned < reads := by
  refine ⟨_, _, rfl, rfl, ⟨_, _, rfl, rfl, rfl, rfl, rfl⟩, rfl, fun before => ?_⟩
  exact absurd (before 1 0 rfl rfl) (by decide)

end ShaderGraph
