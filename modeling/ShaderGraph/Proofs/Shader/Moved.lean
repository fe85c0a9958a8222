import ShaderGraph.Proofs.Graph.Failure
import ShaderGraph.Proofs.Shader.Graph

/-! Data of a node that move out of its declaration into a setting. They count in both places alike,
where nothing else is said of a node of that name. -/
namespace ShaderGraph

open Yaml

/-- One document is the other but for the data of a node, which it has in a setting, anywhere among the
other settings. No other node and no setting has the name of the node. -/
structure GraphDocument.MovesData (document moved : GraphDocument) (d : NodeDeclaration)
    (data : Value) : Prop where
  given : d.data = some data
  nodes : ∃ front back, document.nodes = front ++ d :: back ∧
    moved.nodes = front ++ { d with data := none } :: back ∧
    ∀ other ∈ front ++ back, normalizeName other.name ≠ normalizeName d.name
  settings : ∃ before after, document.settings = before ++ after ∧
    moved.settings = before ++ ⟨d.name, data⟩ :: after
  edges : moved.edges = document.edges
  unset : document.Unset (normalizeName d.name)

namespace GraphDocument.MovesData

variable {document moved : GraphDocument} {d : NodeDeclaration} {data : Value}
  {supplied : SortedSet String}

/-- What is said of the node is said of no other one, be it in its declaration or in a setting. -/
theorem ofDocument_eq (moves : document.MovesData moved d data) {config : NodeConfig}
    (read : NodeConfig.ofData data = .ok config) (supplied : SortedSet String) :
    Graph.ofDocument moved supplied = Graph.ofDocument document supplied := by
  obtain ⟨front, back, nodes, without, alone⟩ := moves.nodes
  obtain ⟨before, after, split, set⟩ := moves.settings
  have apart : ∀ later ∈ after, normalizeName later.name ≠ normalizeName d.name :=
    fun later member => moves.unset later (split ▸ List.mem_append_right before member)
  have kept : settingTable moved.settings =
      (settingTable document.settings).map (·.insert (normalizeName d.name) config) := by
    rw [set, split]
    exact settingTable_append_cons read apart
  cases table : settingTable document.settings with
  | error cause =>
    rw [table, Except.map] at kept
    simp only [Graph.ofDocument, kept, table]
  | ok settings =>
    rw [table, Except.map] at kept
    have own : d.config settings = .ok config :=
      (NodeDeclaration.config_eq_ok table).mpr (.inline moves.unset moves.given read)
    have there : ({ d with data := none } : NodeDeclaration).config
        (settings.insert (normalizeName d.name) config) = .ok config := by
      rw [NodeDeclaration.config, Table.get?_insert, if_pos rfl]
    have others (ds : List NodeDeclaration) (among : ds ⊆ front ++ back) :
        List.Forall₂ (fun e other : NodeDeclaration => e.name = other.name ∧ e.model = other.model ∧
          e.config (settings.insert (normalizeName d.name) config) = other.config settings) ds ds :=
      List.forall₂_same.mpr fun e member =>
        ⟨rfl, rfl, NodeDeclaration.config_insert settings (alone e (among member)) config⟩
    have made : readNodes (settings.insert (normalizeName d.name) config) 1 moved.nodes =
        readNodes settings 1 document.nodes := by
      rw [without, nodes]
      refine readNodes_congr (List.rel_append (others front (List.subset_append_left ..))
        (.cons ?_ (others back (List.subset_append_right ..)))) 1
      exact ⟨rfl, rfl, there.trans own.symm⟩
    simp only [Graph.ofDocument, kept, table, made, moves.edges]

/-- Data that cannot be read are no better in a setting. -/
theorem unread (moves : document.MovesData moved d data) {cause : Yaml.Error}
    (failed : NodeConfig.ofData data = .error cause) (graph : Graph) :
    (Graph.ofDocument moved supplied).1 ≠ .ok graph ∧
      (Graph.ofDocument document supplied).1 ≠ .ok graph := by
  constructor
  · obtain ⟨before, after, _, set⟩ := moves.settings
    have member : ⟨d.name, data⟩ ∈ moved.settings := by simp [set]
    obtain ⟨error, fails⟩ := exists_failsBy.mpr (.inl ⟨_, member, _, cause, failed, rfl⟩)
    exact fun read => nomatch read.symm.trans (Graph.ofDocument_failsBy.mpr fails)
  · obtain ⟨front, back, nodes, _⟩ := moves.nodes
    have member : d ∈ document.nodes := by simp [nodes]
    obtain ⟨error, fails⟩ := exists_failsBy.mpr
      (.inr ⟨d, member, _, moves.unset, data, cause, moves.given, failed, rfl⟩)
    exact fun read => nomatch read.symm.trans (Graph.ofDocument_failsBy.mpr fails)

end GraphDocument.MovesData

/-- With the data of a node in a setting there is a graph if and only if there is one with them in the
declaration, and it is the same graph, from which the same shader is compiled. -/
theorem compile_movedData [ResourceStore σ] {document moved : GraphDocument} {d : NodeDeclaration}
    {data : Value} (moves : document.MovesData moved d data) (supplied : SortedSet String) :
    ((∃ graph, (Graph.ofDocument moved supplied).1 = .ok graph) ↔
      ∃ graph, (Graph.ofDocument document supplied).1 = .ok graph) ∧
    ∀ graph, (Graph.ofDocument document supplied).1 = .ok graph →
      (Graph.ofDocument moved supplied).1 = .ok graph ∧
      (compile supplied moved : Run (Library σ) CompileError Shader) =
        compile supplied document := by
  cases read : NodeConfig.ofData data with
  | error cause =>
    refine ⟨?_, fun graph kept => absurd kept (moves.unread read graph).2⟩
    exact iff_of_false (fun ⟨graph, kept⟩ => (moves.unread read graph).1 kept)
      fun ⟨graph, kept⟩ => (moves.unread read graph).2 kept
  | ok config =>
    have same := moves.ofDocument_eq read supplied
    exact ⟨by rw [same], fun graph kept => ⟨same ▸ kept, by rw [compile_eq, compile_eq, same]⟩⟩

def uniformData : Value := .mapping [(.string "type", .string "uniform")]

def sunLight : NodeDeclaration := ⟨"sun::light", "vec3", some uniformData⟩

def declaredLight : GraphDocument where
  nodes := [⟨"tone", "float", none⟩, sunLight]
  edges := [⟨⟨"sun::light", "value"⟩, ⟨"tone", "value"⟩⟩]
  settings := [⟨"tone", .mapping [(.string "type", .string "varying")]⟩, ⟨"lost", .null⟩]

def setLight : GraphDocument where
  nodes := [⟨"tone", "float", none⟩, { sunLight with data := none }]
  edges := declaredLight.edges
  settings := [⟨"tone", .mapping [(.string "type", .string "varying")]⟩,
    ⟨"sun::light", uniformData⟩, ⟨"lost", .null⟩]

theorem setLight_compiles_as_declared :
    declaredLight.MovesData setLight sunLight uniformData ∧
    ∃ graph, (Graph.ofDocument setLight ∅).1 = .ok graph ∧
      graph.uniforms.toList = [⟨"vec3", "sun_light"⟩] ∧
      (compile ∅ setLight : Run (Library MemoryStore) CompileError Shader) =
        compile ∅ declaredLight := by
  have moves : declaredLight.MovesData setLight sunLight uniformData := by
    refine ⟨rfl, ⟨[_], [], rfl, rfl, ?_⟩, ⟨[_], [_], rfl, rfl⟩, rfl, ?_⟩
    · simp only [List.append_nil, List.mem_singleton, forall_eq]
      decide +kernel
    · simp only [GraphDocument.Unset, declaredLight, List.forall_mem_cons]
      decide +kernel
  have declared : (Graph.ofDocument declaredLight ∅).1.toOption.map (·.uniforms.toList) =
      some [⟨"vec3", "sun_light"⟩] := by decide +kernel
  obtain ⟨graph, read, uniforms⟩ := Option.map_eq_some_iff.mp declared
  obtain ⟨kept, shaders⟩ :=
    (compile_movedData (σ := MemoryStore) moves ∅).2 graph (Run.toOption_eq_some.mp read)
  exact ⟨moves, graph, kept, uniforms, shaders⟩

end ShaderGraph
