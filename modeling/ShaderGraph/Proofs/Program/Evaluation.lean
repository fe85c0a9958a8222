import Mathlib.Logic.Function.Basic
import ShaderGraph.Proofs.Program.Dataflow
import ShaderGraph.Proofs.Program.Feed

/-! What programs and dataflows mean. A program assigns values to variables, call by call; a dataflow
gives each called node the values of its outputs, back along the edges into its inputs. -/
namespace ShaderGraph

/-- The meaning of functions, of literals and of the variables that a main function does not
declare. The outputs of a function are told apart by their place. -/
structure Interpretation (V : Type u) where
  function : String → List V → Nat → V
  literal : String → V
  outside : String → V

def Program.declared (program : Program) : List String :=
  program.locals.map Declaration.name ++ program.defaults.map DefaultVariable.name

section
variable {V : Type u} (I : Interpretation V)

def DefaultVariable.assign (env : String → V) (held : DefaultVariable) : String → V :=
  Function.update env held.name (I.literal held.value)

/-- A call reads all of its inputs before it writes an output. -/
def Call.execute (env : String → V) (call : Call) : String → V := fun name =>
  if name ∈ call.outputs then
    I.function call.function (call.inputs.map env) (call.outputs.idxOf name)
  else env name

def Program.execute (program : Program) : String → V :=
  program.calls.foldl (Call.execute I) (program.defaults.foldl (DefaultVariable.assign I) I.outside)

theorem Call.execute_other {env : String → V} {call : Call} {name : String}
    (other : name ∉ call.outputs) : call.execute I env name = env name :=
  if_neg other

theorem Call.execute_output {env : String → V} {call : Call} {name : String} {place : Nat}
    (distinct : call.outputs.Nodup) (output : call.outputs[place]? = some name) :
    call.execute I env name = I.function call.function (call.inputs.map env) place := by
  obtain ⟨bound, rfl⟩ := List.getElem?_eq_some_iff.mp output
  rw [execute, if_pos (List.getElem_mem bound), distinct.idxOf_getElem place bound]

theorem assign_other {defaults : List DefaultVariable} {env : String → V} {name : String}
    (other : name ∉ defaults.map DefaultVariable.name) :
    defaults.foldl (DefaultVariable.assign I) env name = env name := by
  induction defaults generalizing env with
  | nil => rfl
  | cons held rest ih =>
    obtain ⟨apart, other⟩ := List.ne_and_not_mem_of_not_mem_cons other
    rw [List.foldl_cons, ih other]
    exact Function.update_of_ne apart _ _

theorem assign_held {defaults : List DefaultVariable} {env : String → V} {held : DefaultVariable}
    (distinct : (defaults.map DefaultVariable.name).Nodup) (member : held ∈ defaults) :
    defaults.foldl (DefaultVariable.assign I) env held.name = I.literal held.value := by
  induction defaults generalizing env with
  | nil => contradiction
  | cons first rest ih =>
    obtain ⟨apart, distinct⟩ := List.nodup_cons.mp distinct
    rw [List.foldl_cons]
    rcases List.mem_cons.mp member with rfl | member
    · rw [assign_other I apart]
      exact Function.update_self ..
    · exact ih distinct member

end

namespace Dataflow

section
variable {V : Type u} (flow : Dataflow) (I : Interpretation V)

def argument (outputs : GraphNode → Option (Nat → V)) (node : GraphNode) (param : Param) :
    Option V :=
  match flow.edge? node.name param.name with
  | none => (node.literal? param).map I.literal
  | some e =>
    match flow.output? e with
    | none => some (I.outside (flow.carried e))
    | some (source, place) => (outputs source).map (· place)

/-- The outputs of a called node, if no chain of edges into it is longer than the depth. -/
def evaluate : (depth : Nat) → GraphNode → Option (Nat → V)
  | 0, _ => none
  | depth + 1, node =>
    (flow.signature? node.function).bind fun signature =>
      (signature.inputs.mapM (flow.argument I (evaluate depth) node)).map fun arguments =>
        I.function node.function arguments

end

/-- The variables of a main function differ, and what an edge carries is one of them only if it is
an output of the node at its source. -/
structure Separates (flow : Dataflow) (program : Program) : Prop where
  distinct : program.declared.Nodup
  apart : ∀ e ∈ flow.edges, flow.carried e ∈ program.declared → (flow.output? e).isSome

end Dataflow
end ShaderGraph
