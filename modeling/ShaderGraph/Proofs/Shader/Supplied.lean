import ShaderGraph.Proofs.Glsl.Declaration
import ShaderGraph.Proofs.Program.Feed
import ShaderGraph.Proofs.Run
import ShaderGraph.Shader.Compile

/-! Supplied names and the uniforms of a shader. Names that are supplied take uniforms away, both
those of nodes and those that functions ask for, and nothing else: each stage of a compilation
commutes with taking them away. -/
namespace ShaderGraph

variable {supplied : SortedSet String}

def DeclarationSet.without (set : DeclarationSet) (supplied : SortedSet String) : DeclarationSet :=
  set.filter (·.name ∉ supplied)

def Graph.supply (supplied : SortedSet String) (graph : Graph) : Graph :=
  { graph with uniforms := graph.uniforms.without supplied }

def ScheduledGraph.supply (supplied : SortedSet String) (s : ScheduledGraph) : ScheduledGraph :=
  { s with graph := s.graph.supply supplied }

theorem SortedSet.not_mem_empty (name : String) : name ∉ (∅ : SortedSet String) :=
  List.not_mem_nil

namespace Graph

theorem ofNodes_supply (supplied : SortedSet String) (nodes : List GraphNode) :
    ofNodes supplied nodes = (ofNodes ∅ nodes).supply supplied := by
  have uniforms : (ofNodes supplied nodes).uniforms =
      (ofNodes ∅ nodes).uniforms.without supplied := by
    simp only [ofNodes, DeclarationSet.without, DeclarationSet.filter_ofList, List.filter_map,
      List.filter_filter]
    congr 2
    apply List.filter_congr
    intro node _
    by_cases member : node.name ∈ supplied
    · simp [GraphNode.declaration, member]
    · simp [GraphNode.declaration, member, SortedSet.not_mem_empty]
  rw [supply, ← uniforms]
  rfl

/-- A document has the same graph whatever is supplied, or none, but for its uniforms. -/
theorem ofDocument_supply (document : GraphDocument) (supplied : SortedSet String) :
    (ofDocument document supplied).1 = (ofDocument document ∅).1.map (supply supplied) := by
  rw [ofDocument, ofDocument]
  cases settingTable document.settings with
  | error error => rfl
  | ok settings =>
    cases made : readNodes settings 1 document.nodes with
    | mk nodes failure =>
      cases failure with
      | some error => simp only [made]; rfl
      | none => simp only [made, ofNodes_supply supplied]; rfl

theorem schedule_supply (supplied : SortedSet String) (graph : Graph) :
    (graph.supply supplied).schedule.1 = graph.schedule.1.map (ScheduledGraph.supply supplied) := by
  have same : ShaderGraph.schedule (graph.supply supplied).nodes.keys
      (graph.supply supplied).constraints =
      ShaderGraph.schedule graph.nodes.keys graph.constraints := rfl
  rw [schedule, schedule, same]
  cases ShaderGraph.schedule graph.nodes.keys graph.constraints <;> rfl

end Graph

theorem Feed.ofParams_supply (graph : Graph) (node : GraphNode) (params : List Param) :
    ofParams (graph.supply supplied) node params = ofParams graph node params := by
  have bound (node input : String) :
      (graph.supply supplied).binding? node input = graph.binding? node input := rfl
  exact ofParams_congr bound node node.id params

theorem feedInputs_supply (graph : Graph) (node : GraphNode) (params : List Param) :
    (feedInputs (graph.supply supplied) node params : Run σ ProgramError (List Feed)) =
      feedInputs graph node params := by
  rw [feedInputs, feedInputs, Feed.ofParams_supply]

namespace Program

def supply (supplied : SortedSet String) (program : Program) : Program :=
  { program with uniforms := program.uniforms.without supplied }

theorem addSource_supply (program : Program) (function : String) (source : Option String) :
    (program.supply supplied).addSource function source =
      (program.addSource function source).supply supplied := by
  cases source <;> rfl

/-- Uniforms that are filtered one by one, as the functions ask for them, are those that are
filtered in the end. -/
theorem addCall_supply (node : GraphNode) (signature : Signature) (feeds : List Feed)
    (program : Program) :
    addCall supplied node signature feeds (program.supply supplied) =
      (addCall ∅ node signature feeds program).supply supplied := by
  have uniforms : (program.uniforms.without supplied).extend
      (signature.uniforms.toList.filter (·.name ∉ supplied)) =
      (program.uniforms.extend (signature.uniforms.toList.filter
        (·.name ∉ (∅ : SortedSet String)))).without supplied := by
    rw [DeclarationSet.without, DeclarationSet.without, DeclarationSet.filter_extend]
    simp [SortedSet.not_mem_empty]
  simp only [addCall, supply, uniforms]

variable [ResourceStore σ] {graph : Graph}

theorem addNode_supply (program : Program) (node : GraphNode) :
    Run.MapsTo (supply supplied)
      (addNode graph ∅ program node : Run (Library σ) ProgramError Program)
      (addNode (graph.supply supplied) supplied (program.supply supplied) node) := by
  rw [addNode, addNode]
  split
  · exact (Run.MapsTo.note _ _).bind fun _ => .pure rfl
  · refine (Run.MapsTo.refl _).bind fun signature => ?_
    refine (Run.MapsTo.refl _).bind fun source => ?_
    rw [feedInputs_supply]
    refine (Run.MapsTo.refl _).bind fun feeds => ?_
    refine (Run.MapsTo.note _ _).bind fun _ => .pure ?_
    exact (congrArg _ (addSource_supply ..)).trans (addCall_supply ..)

theorem foldlM_addNode_supply (program : Program) (nodes : List GraphNode) :
    Run.MapsTo (supply supplied)
      (nodes.foldlM (addNode graph ∅) program : Run (Library σ) ProgramError Program)
      (nodes.foldlM (addNode (graph.supply supplied) supplied) (program.supply supplied)) := by
  induction nodes generalizing program with
  | nil => exact .pure rfl
  | cons node rest ih =>
    rw [List.foldlM_cons, List.foldlM_cons]
    exact (addNode_supply program node).bind ih

theorem ofScheduled_supply (scheduled : ScheduledGraph) :
    Run.MapsTo (supply supplied)
      (ofScheduled scheduled ∅ : Run (Library σ) ProgramError Program)
      (ofScheduled (scheduled.supply supplied) supplied) :=
  foldlM_addNode_supply (beforeCalls scheduled.graph) scheduled.nodes

end Program

namespace Shader

def supply (supplied : SortedSet String) (shader : Shader) : Shader :=
  { shader with program := shader.program.supply supplied }

structure AgreesApartFromUniforms (a b : Shader) : Prop where
  main : a.main = b.main
  vertexSource : a.vertexSource = b.vertexSource
  fragmentSource : a.fragmentSource = b.fragmentSource
  locals : a.program.locals = b.program.locals
  defaults : a.program.defaults = b.program.defaults
  calls : a.program.calls = b.program.calls
  epilogue : a.program.epilogue = b.program.epilogue
  varyings : a.program.varyings = b.program.varyings
  attributes : a.program.attributes = b.program.attributes
  sources : a.program.sources = b.program.sources
  diagnostics : a.program.diagnostics = b.program.diagnostics

theorem agrees_supply (shader : Shader) (first second : SortedSet String) :
    (shader.supply first).AgreesApartFromUniforms (shader.supply second) := by
  constructor <;> rfl

end Shader

variable [ResourceStore σ]

/-- What is supplied can as well be taken away from the shader in the end. -/
theorem compile_supply (supplied : SortedSet String) (document : GraphDocument) :
    Run.MapsTo (Shader.supply supplied)
      (compile ∅ document : Run (Library σ) CompileError Shader) (compile supplied document) := by
  have read : (Graph.ofDocument document supplied).1.mapError CompileError.document =
      ((Graph.ofDocument document ∅).1.mapError .document).map (Graph.supply supplied) := by
    rw [Graph.ofDocument_supply, Run.mapError_map]
  have ordered (graph : Graph) :
      (graph.supply supplied).schedule.1.mapError (fun cycle => CompileError.cycle cycle.names) =
        (graph.schedule.1.mapError fun cycle => .cycle cycle.names).map
          (ScheduledGraph.supply supplied) := by
    rw [Graph.schedule_supply, Run.mapError_map]
  rw [compile, compile]
  refine (Run.MapsTo.ofResult read _ _).bind fun graph => ?_
  refine (Run.MapsTo.ofResult (ordered graph) _ _).bind fun scheduled => ?_
  refine ((Program.ofScheduled_supply scheduled).mapError _).bind fun program => ?_
  exact (Run.MapsTo.note _ _).bind fun _ => .pure rfl

/-- Whatever names are supplied, a document fails to compile with the same error, or compiles to
shaders that differ in their uniforms at most. These are the uniforms without any names supplied, in
their order, but for those with a supplied name. -/
theorem compile_supplied_filters_uniforms (document : GraphDocument) (library : Library σ) :
    (∀ first second : SortedSet String,
      (∃ error, (compile first document library).result = .error error ∧
        (compile second document library).result = .error error) ∨
      ∃ a b, (compile first document library).result = .ok a ∧
        (compile second document library).result = .ok b ∧ a.AgreesApartFromUniforms b) ∧
    ∀ supplied : SortedSet String,
      (compile supplied document library).result.map (·.program.uniforms.toList) =
        (compile ∅ document library).result.map fun shader =>
          shader.program.uniforms.toList.filter (·.name ∉ supplied) := by
  constructor
  · intro first second
    obtain ⟨left, _⟩ := compile_supply first document library
    obtain ⟨right, _⟩ := compile_supply second document library
    rw [left, right]
    cases (compile ∅ document library).result with
    | error error => exact .inl ⟨error, rfl, rfl⟩
    | ok shader => exact .inr ⟨_, _, rfl, rfl, shader.agrees_supply first second⟩
  · intro supplied
    obtain ⟨result, _⟩ := compile_supply supplied document library
    rw [result]
    cases (compile ∅ document library).result <;> rfl

end ShaderGraph
