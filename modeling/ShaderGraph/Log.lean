import ShaderGraph.Resource.Path

/-! What is logged while a graph is read and compiled. -/
namespace ShaderGraph

inductive Level where
  | debug | info | warn
  deriving DecidableEq, Repr

def Level.name : Level → String
  | debug => "DEBUG"
  | info => "INFO"
  | warn => "WARN"

/-- An input with neither an edge nor a value of its own, and the default that it gets. -/
structure Diagnostic where
  node : String
  input : String
  type : String
  literal : String
  deriving DecidableEq, Repr

def Diagnostic.text (d : Diagnostic) : String :=
  "Input `" ++ d.input ++ "` of node `" ++ d.node ++ "` is not connected, defaulting to " ++
    d.type ++ " " ++ d.literal

theorem Diagnostic.text_eq (d : Diagnostic) : d.text = "Input `" ++ d.input ++ "` of node `" ++
    d.node ++ "` is not connected, defaulting to " ++ d.type ++ " " ++ d.literal := rfl

structure Summary where
  nodes : Nat
  calls : Nat
  varyings : Nat
  warnings : Nat
  deriving DecidableEq, Repr

inductive Record where
  | suppliedUniform (name : String)
  | unknownEndpoint (source output target input : String)
  | ingested (nodes constraints : Nat)
  | scheduled (constrained unrelated : Nat)
  | passThrough (node function : String)
  | loadingFunction (function : String) (path : ResourcePath)
  | loadingSource (function : String) (path : ResourcePath)
  | unconnected (diagnostic : Diagnostic)
  | called (node statement : String)
  | compiled (summary : Summary)
  | configured (file resources : ResourcePath)
  deriving DecidableEq, Repr

namespace Record

def level : Record → Level
  | unknownEndpoint .. | unconnected .. => .warn
  | compiled .. => .info
  | _ => .debug

def message : Record → String
  | suppliedUniform name => "Uniform `" ++ name ++ "` is supplied externally"
  | unknownEndpoint source output target input =>
    "Edge `" ++ source ++ "." ++ output ++ "` -> `" ++ target ++ "." ++ input ++
      "` references an unknown node, it does not constrain the call order"
  | ingested nodes constraints =>
    "Ingested " ++ toString nodes ++ " nodes and " ++ toString constraints ++ " constraints"
  | scheduled constrained unrelated =>
    "Scheduled " ++ toString constrained ++ " constrained and " ++ toString unrelated ++
      " unconstrained nodes"
  | passThrough node function => "Node `" ++ node ++ "` is a raw `" ++ function ++ "` value"
  | loadingFunction function path => "Loading function `" ++ function ++ "` from " ++ path.text
  | loadingSource function path =>
    "Loading source " ++ path.text ++ " of function `" ++ function ++ "`"
  | unconnected diagnostic => diagnostic.text
  | called node statement => "Node `" ++ node ++ "`: " ++ statement
  | compiled summary =>
    "Compiled shader graph: " ++ toString summary.nodes ++ " nodes, " ++ toString summary.calls ++
      " calls, " ++ toString summary.varyings ++ " varyings, " ++ toString summary.warnings ++
      " warnings"
  | configured file resources =>
    "Loaded compiler config from " ++ file.text ++ ": resources at " ++ resources.text

theorem message_unknownEndpoint (source output target input : String) :
    (unknownEndpoint source output target input).message =
      "Edge `" ++ source ++ "." ++ output ++ "` -> `" ++ target ++ "." ++ input ++
        "` references an unknown node, it does not constrain the call order" := rfl

theorem message_unconnected (d : Diagnostic) : (unconnected d).message = d.text := rfl

theorem message_compiled (nodes calls varyings warnings : Nat) :
    (compiled ⟨nodes, calls, varyings, warnings⟩).message =
      "Compiled shader graph: " ++ toString nodes ++ " nodes, " ++ toString calls ++ " calls, " ++
        toString varyings ++ " varyings, " ++ toString warnings ++ " warnings" := rfl

def line (record : Record) : String := record.level.name ++ " " ++ record.message

theorem line_of_warn {record : Record} (warned : record.level = .warn) :
    record.line = "WARN " ++ record.message := by
  rw [line, warned]
  rfl

theorem line_of_info {record : Record} (informed : record.level = .info) :
    record.line = "INFO " ++ record.message := by
  rw [line, informed]
  rfl

end Record
end ShaderGraph
