import ShaderGraph.Shader.Compile

/-! Sessions: steps on one library over documents in memory. -/
namespace ShaderGraph

inductive Step where
  | load (function : String)
  | source (function : String) (path : ResourcePath)
  | compile (supplied : List String) (text : String)
  | compileDocument (supplied : List String) (document : GraphDocument)
  | put (path : ResourcePath) (text : String)
  | putFunction (function text : String)
  | read (path : ResourcePath)
  deriving Repr

inductive StepError where
  | library (cause : LibraryError)
  | compile (cause : CompileError)
  | read (cause : ReadError)
  deriving Repr

def StepError.message : StepError → String
  | library cause => cause.message
  | compile cause => cause.message
  | read cause => cause.message

inductive Answer where
  | signature (found : Signature)
  | text (contents : String)
  | shader (compiled : Shader)
  | done
  deriving DecidableEq, Repr

abbrev Session := Library MemoryStore

namespace Session

def changeStore (f : MemoryStore → MemoryStore) : Run Session StepError Answer := fun library =>
  ⟨.ok .done, { library with store := f library.store }, []⟩

/-- Reads a document past the library. -/
def readStore (path : ResourcePath) : Run Session StepError Answer := fun library =>
  let (result, store) := library.store.read path
  ⟨(result.map .text).mapError .read, { library with store }, []⟩

def take : Step → Run Session StepError Answer
  | .load function => .signature <$> (Library.load function).mapError .library
  | .source function path => .text <$> (Library.loadSource function path).mapError .library
  | .compile supplied text =>
    .shader <$> (compileText (.ofList supplied) text).mapError .compile
  | .compileDocument supplied document =>
    .shader <$> (ShaderGraph.compile (.ofList supplied) document).mapError .compile
  | .put path text => changeStore (·.insert path text)
  | .putFunction function text => changeStore (·.insertFunction function text)
  | .read path => readStore path

/-- Takes steps one after another, also behind one that fails. Each outcome holds the library as
the step leaves it. -/
def run : List Step → Session → List (Outcome Session StepError Answer)
  | [], _ => []
  | step :: rest, session =>
    let outcome := take step session
    outcome :: run rest outcome.state

end Session
end ShaderGraph
