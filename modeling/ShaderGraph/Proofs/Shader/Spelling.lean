import ShaderGraph.Proofs.Graph.Basic
import ShaderGraph.Proofs.Graph.Name
import ShaderGraph.Proofs.Shader.Graph

/-! The spelling of names. A document means the same whether its names are normalized or not, and only
errors about settings tell how a name was written. -/
namespace ShaderGraph

def NodeDeclaration.normalize (d : NodeDeclaration) : NodeDeclaration :=
  { d with name := normalizeName d.name }

def Endpoint.normalize (e : Endpoint) : Endpoint := { e with node := normalizeName e.node }

def Edge.normalize (e : Edge) : Edge := ⟨e.source.normalize, e.target.normalize⟩

def Setting.normalize (s : Setting) : Setting := { s with name := normalizeName s.name }

def GraphDocument.normalize (document : GraphDocument) : GraphDocument where
  nodes := document.nodes.map NodeDeclaration.normalize
  edges := document.edges.map Edge.normalize
  settings := document.settings.map Setting.normalize

def DocumentError.normalize : DocumentError → DocumentError
  | nodeConfig node cause => nodeConfig (normalizeName node) cause
  | yaml cause => yaml cause
  | missingComponents => missingComponents

def CompileError.normalize : CompileError → CompileError
  | document cause => document cause.normalize
  | cycle nodes => cycle nodes
  | program cause => program cause

theorem mapM_mapError {f : α → Except ε β} (g : ε → δ) (list : List α) :
    list.mapM (fun a => (f a).mapError g) = (list.mapM f).mapError g := by
  induction list with
  | nil => rfl
  | cons a rest ih =>
    rw [List.mapM_cons, List.mapM_cons, ih]
    cases f a with
    | error error => rfl
    | ok b => cases rest.mapM f <;> rfl

theorem settingTable_normalize (settings : List Setting) :
    settingTable (settings.map Setting.normalize) =
      (settingTable settings).mapError DocumentError.normalize := by
  have each : Setting.entry ∘ Setting.normalize =
      fun s => s.entry.mapError DocumentError.normalize := by
    funext s
    simp only [Function.comp, Setting.entry, Setting.normalize, normalizeName_normalizeName]
    cases NodeConfig.ofData s.data <;> rfl
  rw [settingTable_eq, settingTable_eq, List.mapM_map, each, mapM_mapError, Run.mapError_map]

variable {settings : Table String NodeConfig}

theorem NodeDeclaration.config_normalize (d : NodeDeclaration) :
    d.normalize.config settings = (d.config settings).mapError DocumentError.normalize := by
  simp only [config, normalize, normalizeName_normalizeName]
  cases settings.get? (normalizeName d.name) with
  | some config => rfl
  | none =>
    cases d.data with
    | none => rfl
    | some data =>
      exact (Run.mapError_mapError _ (DocumentError.nodeConfig d.name) DocumentError.normalize).symm

theorem GraphNode.ofDeclaration_normalize (id : Nat) (d : NodeDeclaration) :
    ofDeclaration settings id d.normalize =
      (ofDeclaration settings id d).mapError DocumentError.normalize := by
  rw [ofDeclaration, ofDeclaration, d.config_normalize]
  cases d.config settings with
  | error error => rfl
  | ok config => simp [NodeDeclaration.normalize, bind, Except.bind, Except.mapError, pure, Except.pure]

theorem readNodes_normalize (id : Nat) (ds : List NodeDeclaration) :
    readNodes settings id (ds.map NodeDeclaration.normalize) =
      ((readNodes settings id ds).1, (readNodes settings id ds).2.map DocumentError.normalize) := by
  induction ds generalizing id with
  | nil => rfl
  | cons d rest ih =>
    rw [List.map_cons, readNodes, readNodes, GraphNode.ofDeclaration_normalize]
    cases GraphNode.ofDeclaration settings id d with
    | error error => rfl
    | ok node => simp only [Except.mapError, ih]

namespace Graph

variable (graph : Graph) (e : Edge)

theorem source_normalize : (graph.resolve e.normalize).source = (graph.resolve e).source :=
  congrArg graph.node? (normalizeName_normalizeName _)

theorem target_normalize : (graph.resolve e.normalize).target = (graph.resolve e).target :=
  congrArg graph.node? (normalizeName_normalizeName _)

theorem sourceName_normalize :
    (graph.resolve e.normalize).sourceName = (graph.resolve e).sourceName :=
  normalizeName_normalizeName _

theorem targetName_normalize :
    (graph.resolve e.normalize).targetName = (graph.resolve e).targetName :=
  normalizeName_normalizeName _

theorem sourceVariable_normalize :
    (graph.resolve e.normalize).sourceVariable = (graph.resolve e).sourceVariable := by
  rw [ResolvedEdge.sourceVariable, source_normalize, sourceName_normalize]
  rfl

theorem binding_normalize : (graph.resolve e.normalize).binding = (graph.resolve e).binding := by
  rw [ResolvedEdge.binding, targetName_normalize, sourceVariable_normalize]
  rfl

theorem constraint?_normalize :
    (graph.resolve e.normalize).constraint? = (graph.resolve e).constraint? := by
  rw [ResolvedEdge.constraint?, source_normalize, target_normalize]
  rfl

theorem assignment?_normalize :
    (graph.resolve e.normalize).assignment? = (graph.resolve e).assignment? := by
  rw [ResolvedEdge.assignment?, target_normalize, targetName_normalize, sourceVariable_normalize]
  rfl

theorem warning?_normalize :
    (graph.resolve e.normalize).warning? = (graph.resolve e).warning? := by
  rw [ResolvedEdge.warning?, constraint?_normalize, sourceName_normalize, targetName_normalize]
  rfl

/-- What is read off edges one by one is the same for edges that are normalized. -/
theorem map_resolve_normalize (base : Graph) (edges : List Edge) :
    base.withEdges ((edges.map Edge.normalize).map base.resolve) =
        base.withEdges (edges.map base.resolve) ∧
      ((edges.map Edge.normalize).map base.resolve).filterMap ResolvedEdge.warning? =
        (edges.map base.resolve).filterMap ResolvedEdge.warning? := by
  constructor
  · simp only [withEdges, List.map_map, List.filterMap_map, Function.comp_def, binding_normalize,
      constraint?_normalize, assignment?_normalize]
  · simp only [List.map_map, List.filterMap_map, Function.comp_def, warning?_normalize]

/-- A document whose names are normalized has the same graph. -/
theorem ofDocument_normalize (document : GraphDocument) (supplied : SortedSet String) :
    ofDocument document.normalize supplied =
      ((ofDocument document supplied).1.mapError DocumentError.normalize,
        (ofDocument document supplied).2) := by
  simp only [ofDocument, GraphDocument.normalize, settingTable_normalize]
  cases settingTable document.settings with
  | error error => rfl
  | ok settings =>
    simp only [Except.mapError, readNodes_normalize]
    cases readNodes settings 1 document.nodes with
    | mk nodes failure =>
      cases failure with
      | some error => rfl
      | none =>
        obtain ⟨graph, warnings⟩ := map_resolve_normalize (ofNodes supplied nodes) document.edges
        simp only [Option.map_none, graph, warnings]

/-- The names of an ingested graph are free of scope marks, and no input is fed by the variable that
is no longer in use. -/
theorem names_of_ofDocument {document : GraphDocument} {supplied : SortedSet String} {graph : Graph}
    (read : (ofDocument document supplied).1 = .ok graph) :
    (∀ node ∈ graph.nodes.values, ¬Scoped node.name ∧ node.name ≠ "gl_Vertex") ∧
      ∀ b ∈ graph.bindings, b.source ≠ "gl_Vertex" := by
  have represents := ofDocument_represents read
  constructor
  · intro node member
    have named : node.name ∈ graph.nodes.values.map GraphNode.name := List.mem_map_of_mem member
    rw [represents.named] at named
    obtain ⟨d, _, same⟩ := List.mem_map.mp named
    exact same ▸ ⟨not_scoped_normalizeName d.name, normalizeName_ne d.name⟩
  · intro b member
    rw [represents.bindings] at member
    obtain ⟨e, _, rfl⟩ := List.mem_map.mp member
    simp only [ResolvedEdge.binding, ResolvedEdge.sourceVariable]
    split
    · exact normalizeName_ne _
    · exact outputVariable_ne _ _

end Graph

/-- A document whose names are normalized compiles to the same shader from the same library, or fails
with the same error, but that an error about a setting tells the name as it is written. In a graph all
names are normalized. -/
theorem compile_normalize [ResourceStore σ] (supplied : SortedSet String) (document : GraphDocument) :
    (compile supplied document.normalize : Run (Library σ) CompileError Shader) =
        (compile supplied document).mapError CompileError.normalize ∧
      ∀ graph, (Graph.ofDocument document supplied).1 = .ok graph →
        (∀ node ∈ graph.nodes.values, ¬Scoped node.name ∧ node.name ≠ "gl_Vertex") ∧
          ∀ b ∈ graph.bindings, b.source ≠ "gl_Vertex" := by
  refine ⟨?_, fun graph read => Graph.names_of_ofDocument read⟩
  have errors : ((Graph.ofDocument document supplied).1.mapError DocumentError.normalize).mapError
      CompileError.document = ((Graph.ofDocument document supplied).1.mapError
        CompileError.document).mapError CompileError.normalize := by
    rw [Run.mapError_mapError, Run.mapError_mapError]
    rfl
  have later (graph : Graph) :
      (graph.compile supplied : Run (Library σ) CompileError Shader).mapError
        CompileError.normalize = graph.compile supplied :=
    graph.mapError_compile supplied (fun _ => rfl) fun _ => rfl
  rw [compile_eq, compile_eq, Graph.ofDocument_normalize, Run.mapError_bind]
  simp only [errors, later]
  rfl

def spelled : GraphDocument where
  nodes := [⟨"gl::Vertex", "vec3", none⟩, ⟨"a:::b", "float", none⟩]
  edges := [⟨⟨"gl_Vertex", "value"⟩, ⟨"a_:b", "value"⟩⟩]
  settings := []

theorem spelled_normalize :
    (compile ∅ spelled.normalize : Run (Library MemoryStore) CompileError Shader) =
        (compile ∅ spelled).mapError CompileError.normalize ∧
      ∃ graph, (Graph.ofDocument spelled ∅).1 = .ok graph ∧
        graph.nodes.values.map GraphNode.name = ["vsg_Vertex", "a_:b"] ∧
        graph.bindings = [⟨"a_:b", "value", "vsg_Vertex"⟩] ∧
        (∀ node ∈ graph.nodes.values, ¬Scoped node.name ∧ node.name ≠ "gl_Vertex") ∧
          ∀ b ∈ graph.bindings, b.source ≠ "gl_Vertex" := by
  have read : (Graph.ofDocument spelled ∅).1 = .ok _ := rfl
  refine And.imp_right (fun names => ?_) (compile_normalize ∅ spelled)
  exact ⟨_, read, by decide +kernel, by decide +kernel, names _ read⟩

end ShaderGraph
