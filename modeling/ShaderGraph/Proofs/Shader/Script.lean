import ShaderGraph.Proofs.Function.Script
import ShaderGraph.Shader.Compile

/-! The requests of a compilation. For each call it asks for the signature, and then for the source
if the program does not hold it yet. -/
namespace ShaderGraph

namespace Program

def newSourceScript (program : Program) (node : GraphNode) (signature : Signature) :
    Script LibraryError (Option String) :=
  match signature.source with
  | none => pure none
  | some path =>
    if program.hasSource node.function then pure none
    else some <$> .single (.source node.function ⟨path⟩)

def feeds (graph : Graph) (node : GraphNode) (params : List Param) :
    Except ProgramError (List Feed) :=
  match Feed.ofParams graph node params with
  | (_, some error) => .error error
  | (feeds, none) => .ok feeds

def addNodeScript (graph : Graph) (supplied : SortedSet String) (program : Program)
    (node : GraphNode) : Script ProgramError Program :=
  if isPassThrough node.function then pure program
  else do
    let failure := ProgramError.metadata node.name node.function
    let signature ← (Script.single (.signature node.function)).mapError failure
    let source ← (newSourceScript program node signature).mapError failure
    let feeds ← .done (feeds graph node signature.inputs)
    return (program.addSource node.function source).addCall supplied node signature feeds

variable [ResourceStore σ]

theorem newSource_follows (program : Program) (node : GraphNode) (signature : Signature) :
    (newSource program node signature :
      Run (Library σ) LibraryError (Option String)).Follows
      (newSourceScript program node signature) := by
  rw [newSource, newSourceScript]
  cases signature.source with
  | none => exact Run.Follows.pure none
  | some path =>
    simp only
    split
    · exact Run.Follows.pure none
    · exact (Run.Follows.single (.source node.function ⟨path⟩)).map some

theorem feedInputs_follows (graph : Graph) (node : GraphNode) (params : List Param) :
    (feedInputs graph node params : Run (Library σ) ProgramError (List Feed)).Follows
      (.done (feeds graph node params)) := by
  rw [feedInputs, feeds]
  cases Feed.ofParams graph node params with
  | mk fed failure => cases failure <;> exact .ofResult _ _

theorem addNode_follows (graph : Graph) (supplied : SortedSet String) (program : Program)
    (node : GraphNode) :
    (addNode graph supplied program node : Run (Library σ) ProgramError Program).Follows
      (addNodeScript graph supplied program node) := by
  rw [addNode, addNodeScript]
  split
  · intro library
    rfl
  · have load : (Library.load node.function : Run (Library σ) LibraryError Signature).Follows
        (.single (.signature node.function)) :=
      .single (.signature node.function)
    refine (load.mapError _).bind fun signature => ?_
    refine ((newSource_follows program node signature).mapError _).bind fun source => ?_
    refine (feedInputs_follows graph node signature.inputs).bind fun feeds => ?_
    exact Run.Follows.note _ (Run.Follows.pure _)

theorem foldlM_addNode_follows (graph : Graph) (supplied : SortedSet String) (program : Program)
    (nodes : List GraphNode) :
    (nodes.foldlM (addNode graph supplied) program : Run (Library σ) ProgramError Program).Follows
      (nodes.foldlM (addNodeScript graph supplied) program) := by
  induction nodes generalizing program with
  | nil => exact .pure program
  | cons node rest ih =>
    rw [List.foldlM_cons, List.foldlM_cons]
    exact (addNode_follows graph supplied program node).bind ih

end Program

/-- A document that cannot be read or ordered asks for nothing. -/
def compileScript (supplied : SortedSet String) (document : GraphDocument) :
    Script CompileError Shader := do
  let graph ← .done ((Graph.ofDocument document supplied).1.mapError .document)
  let scheduled ← .done (graph.schedule.1.mapError fun cycle => .cycle cycle.names)
  let program ← (scheduled.nodes.foldlM (Program.addNodeScript scheduled.graph supplied)
    (.beforeCalls scheduled.graph)).mapError .program
  return Shader.ofProgram program

def compileTextScript (supplied : SortedSet String) (text : String) :
    Script CompileError Shader := do
  let document ← .done ((GraphDocument.parse text).mapError .document)
  compileScript supplied document

variable [ResourceStore σ]

theorem compile_follows (supplied : SortedSet String) (document : GraphDocument) :
    (compile supplied document : Run (Library σ) CompileError Shader).Follows
      (compileScript supplied document) := by
  rw [compile, compileScript]
  refine (Run.Follows.ofResult _ _).bind fun graph => ?_
  refine (Run.Follows.ofResult _ _).bind fun scheduled => ?_
  have calls : (scheduled.nodes.foldlM (Program.addNode scheduled.graph supplied)
      (.beforeCalls scheduled.graph) : Run (Library σ) ProgramError Program).Follows _ :=
    Program.foldlM_addNode_follows scheduled.graph supplied (.beforeCalls scheduled.graph)
      scheduled.nodes
  refine (calls.mapError _).bind fun program => ?_
  exact Run.Follows.note _ (Run.Follows.pure _)

theorem compileText_follows (supplied : SortedSet String) (text : String) :
    (compileText supplied text : Run (Library σ) CompileError Shader).Follows
      (compileTextScript supplied text) :=
  (Run.Follows.ofResult _ _).bind (compile_follows supplied)

end ShaderGraph
