import ShaderGraph.Graph.Scheduled
import ShaderGraph.Program.Feed

/-! Programs of scheduled graphs. A node is a value or a call, and a call brings the source of its
function and all that the function asks for. -/
namespace ShaderGraph

def feedInputs (graph : Graph) (node : GraphNode) (params : List Param) :
    Run σ ProgramError (List Feed) :=
  let (feeds, failure) := Feed.ofParams graph node params
  let result := match failure with
    | some error => .error error
    | none => .ok feeds
  .ofResult result ((feeds.filterMap Feed.diagnostic?).map .unconnected)

def outputLocals (node : GraphNode) (signature : Signature) : List Declaration :=
  signature.outputs.map fun param => ⟨param.type, outputVariable node.name param.name⟩

def Call.ofNode (node : GraphNode) (signature : Signature) (feeds : List Feed) : Call :=
  let inputs := feeds.map Feed.argument
  let outputs := (outputLocals node signature).map Declaration.name
  ⟨node.name, node.function, inputs, outputs, callStatement node.function (inputs ++ outputs)⟩

namespace Program

def beforeCalls (graph : Graph) : Program :=
  { empty with
    epilogue := graph.epilogue.map Assignment.text
    uniforms := graph.uniforms
    varyings := graph.varyings }

def hasSource (program : Program) (function : String) : Bool :=
  program.sources.any (·.1 = function)

def addSource (program : Program) (function : String) : Option String → Program
  | none => program
  | some text => { program with sources := program.sources ++ [(function, text)] }

/-- Adds the call of a node and all that its signature asks for. Uniforms that are supplied are
not declared. -/
def addCall (supplied : SortedSet String) (node : GraphNode) (signature : Signature)
    (feeds : List Feed) (program : Program) : Program :=
  { program with
    locals := program.locals ++ outputLocals node signature
    defaults := program.defaults ++ feeds.filterMap Feed.default?
    calls := program.calls ++ [.ofNode node signature feeds]
    uniforms := program.uniforms.extend (signature.uniforms.toList.filter (·.name ∉ supplied))
    varyings := program.varyings.extend signature.varyings.toList
    attributes := program.attributes.extend signature.attributes.toList
    diagnostics := program.diagnostics ++ feeds.filterMap Feed.diagnostic? }

variable [ResourceStore σ]

/-- The source of a function, if it declares one that the program does not hold yet. -/
def newSource (program : Program) (node : GraphNode) (signature : Signature) :
    Run (Library σ) LibraryError (Option String) :=
  match signature.source with
  | none => pure none
  | some path =>
    if program.hasSource node.function then pure none
    else some <$> Library.loadSource node.function ⟨path⟩

/-- Adds a node to a program. Values need no call. -/
def addNode (graph : Graph) (supplied : SortedSet String) (program : Program) (node : GraphNode) :
    Run (Library σ) ProgramError Program :=
  if isPassThrough node.function then do
    .note [.passThrough node.name node.function]
    return program
  else do
    let failure := ProgramError.metadata node.name node.function
    let signature ← (Library.load node.function).mapError failure
    let source ← (newSource program node signature).mapError failure
    let feeds ← feedInputs graph node signature.inputs
    .note [.called node.name (Call.ofNode node signature feeds).statement]
    return (program.addSource node.function source).addCall supplied node signature feeds

def ofScheduled (scheduled : ScheduledGraph) (supplied : SortedSet String) :
    Run (Library σ) ProgramError Program :=
  scheduled.nodes.foldlM (addNode scheduled.graph supplied) (beforeCalls scheduled.graph)

end Program
end ShaderGraph
