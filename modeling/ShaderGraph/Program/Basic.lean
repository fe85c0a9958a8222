import ShaderGraph.Glsl.Declaration
import ShaderGraph.Log

/-! Programs: what the stages of a shader are written from. -/
namespace ShaderGraph

/-- A variable that holds an input which no edge feeds. -/
structure DefaultVariable where
  type : String
  name : String
  value : String
  deriving DecidableEq, Repr

def DefaultVariable.text (d : DefaultVariable) : String :=
  d.type ++ " " ++ d.name ++ " = " ++ d.value

theorem DefaultVariable.text_eq (d : DefaultVariable) :
    d.text = d.type ++ " " ++ d.name ++ " = " ++ d.value := rfl

structure Call where
  node : String
  function : String
  inputs : List String
  outputs : List String
  statement : String
  deriving DecidableEq, Repr

def callStatement (function : String) (arguments : List String) : String :=
  if arguments.isEmpty then function ++ "();"
  else function ++ "( " ++ ", ".intercalate arguments ++ " );"

theorem callStatement_eq (function : String) (arguments : List String) :
    callStatement function arguments = if arguments = [] then function ++ "();"
      else function ++ "( " ++ ", ".intercalate arguments ++ " );" := by
  cases arguments <;> rfl

/-- Locals hold outputs of calls. Sources are kept by the function that declares them, in the order
of their first calls. -/
structure Program where
  locals : List Declaration
  defaults : List DefaultVariable
  calls : List Call
  epilogue : List String
  uniforms : DeclarationSet
  varyings : DeclarationSet
  attributes : DeclarationSet
  sources : List (String × String)
  diagnostics : List Diagnostic
  deriving DecidableEq, Repr

def Program.empty : Program := ⟨[], [], [], [], ∅, ∅, ∅, [], []⟩

end ShaderGraph
