import ShaderGraph.Shader.Header
import ShaderGraph.Text

/-! The stages of a shader. Each is a header, the sources of the called functions, and the main
function, which the stages share. -/
namespace ShaderGraph

namespace Program

/-- The groups of lines in the main function: locals, defaults, and then the calls with the
assignments of varyings behind them. -/
def sections (program : Program) : List (List String) :=
  [ program.locals.map (·.text ++ ";"),
    program.defaults.map (·.text ++ ";"),
    program.calls.map Call.statement ++ program.epilogue ]

/-- An empty line parts two groups; groups without lines are left out. -/
def mainBody (program : Program) : String :=
  let groups := (program.sections.filter (!·.isEmpty)).map fun lines =>
    unlines (lines.map ("  " ++ ·))
  "void main() \x7b\n" ++ "\n".intercalate groups ++ "\x7d\n"

def definitions (program : Program) : String :=
  String.join (program.sources.map fun (_, text) => "\n" ++ text ++ "\n")

def stageSource (program : Program) (header main : String) : String :=
  header ++ "\n" ++ program.definitions ++ "\n" ++ main

end Program

structure Shader where
  program : Program
  main : String
  deriving DecidableEq, Repr

def Shader.ofProgram (program : Program) : Shader := ⟨program, program.mainBody⟩

def Shader.vertexSource (shader : Shader) : String :=
  shader.program.stageSource shader.program.vertexHeader shader.main

def Shader.fragmentSource (shader : Shader) : String :=
  shader.program.stageSource shader.program.fragmentHeader shader.main

end ShaderGraph
