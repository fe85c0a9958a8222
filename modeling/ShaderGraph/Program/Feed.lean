import ShaderGraph.Function.Library
import ShaderGraph.Graph.Basic
import ShaderGraph.Program.Basic
import ShaderGraph.Yaml.Value.Write

/-! What feeds the inputs of a call: the edge into the input, a value given for it, or the default
of its type. -/
namespace ShaderGraph

open Yaml

inductive ProgramError where
  | metadata (node function : String) (cause : LibraryError)
  | invalidOverride (node input : String) (value : Value)
  deriving Repr

def ProgramError.message : ProgramError → String
  | metadata node function cause =>
    "Could not load function `" ++ function ++ "` for node `" ++ node ++ "`: " ++ cause.message
  | invalidOverride node input value =>
    "Unusable value " ++ value.display ++ " for input `" ++ input ++ "` of node `" ++ node ++ "`"

def numberLiteral? : Value → Option String
  | .number n => some n.literal
  | _ => none

/-- An override as the shading language writes it. A list of numbers constructs a value of the type
asked for. -/
def overrideLiteral? (type : String) : Value → Option String
  | .string text => some text
  | .bool b => some (toString b)
  | .number n => some n.literal
  | .sequence items =>
    (items.mapM numberLiteral?).map fun parts => type ++ "(" ++ ", ".intercalate parts ++ ")"
  | _ => none

/-- What feeds an input: an edge, an override, or the default of its type. -/
inductive Feed where
  | bound (source : String)
  | override (held : DefaultVariable)
  | missing (held : DefaultVariable) (diagnostic : Diagnostic)
  deriving DecidableEq, Repr

namespace Feed

def argument : Feed → String
  | bound source => source
  | override held | missing held _ => held.name

def default? : Feed → Option DefaultVariable
  | bound _ => none
  | override held | missing held _ => some held

def diagnostic? : Feed → Option Diagnostic
  | missing _ diagnostic => some diagnostic
  | _ => none

def ofParam (graph : Graph) (node : GraphNode) (param : Param) : Except ProgramError Feed :=
  match graph.binding? node.name param.name with
  | some source => .ok (.bound source)
  | none =>
    let name := defaultVariable node.name param.name
    match node.overrides.get? param.name with
    | some value =>
      match overrideLiteral? param.type value with
      | some literal => .ok (.override ⟨param.type, name, literal⟩)
      | none => .error (.invalidOverride node.name param.name value)
    | none =>
      let literal := defaultOf param.type
      .ok (.missing ⟨param.type, name, literal⟩ ⟨node.name, param.name, param.type, literal⟩)

/-- What feeds the inputs of a node, up to the first that cannot be fed, and why it cannot. -/
def ofParams (graph : Graph) (node : GraphNode) :
    List Param → List Feed × Option ProgramError
  | [] => ([], none)
  | param :: rest =>
    match ofParam graph node param with
    | .error error => ([], some error)
    | .ok feed =>
      let (feeds, error) := ofParams graph node rest
      (feed :: feeds, error)

end Feed
end ShaderGraph
