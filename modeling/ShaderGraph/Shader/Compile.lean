import ShaderGraph.Program.Scheduled
import ShaderGraph.Shader.Stage

/-! Compilation of graph documents. The library outlives a compilation, all else is local to it. -/
namespace ShaderGraph

inductive CompileError where
  | document (cause : DocumentError)
  | cycle (nodes : List String)
  | program (cause : ProgramError)
  deriving Repr

def CompileError.message : CompileError → String
  | document cause => cause.message
  | cycle nodes => (NamedCycle.mk nodes []).message
  | program cause => cause.message

def Shader.summary (graph : Graph) (shader : Shader) : Summary where
  nodes := graph.nodes.size
  calls := shader.program.calls.length
  varyings := shader.program.varyings.size
  warnings := shader.program.diagnostics.length

variable [ResourceStore σ]

/-- The shader of a document. Uniforms whose names are supplied are not declared. -/
def compile (supplied : SortedSet String) (document : GraphDocument) :
    Run (Library σ) CompileError Shader := do
  let (read, log) := Graph.ofDocument document supplied
  let graph ← .ofResult (read.mapError .document) log
  let (ordered, log) := graph.schedule
  let scheduled ← .ofResult (ordered.mapError fun cycle => .cycle cycle.names) log
  let program ← (Program.ofScheduled scheduled supplied).mapError .program
  let shader := Shader.ofProgram program
  .note [.compiled (shader.summary graph)]
  return shader

def compileText (supplied : SortedSet String) (text : String) :
    Run (Library σ) CompileError Shader := do
  let document ← .ofResult ((GraphDocument.parse text).mapError .document) []
  compile supplied document

end ShaderGraph
