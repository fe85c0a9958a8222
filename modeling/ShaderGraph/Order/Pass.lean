import ShaderGraph.Order.Constraint
import ShaderGraph.Table

/-! The pass that orders nodes under precedence constraints: of the nodes that wait for no other,
the lowest goes next. Nodes on a cycle, and those behind one, stay in wait. -/
namespace ShaderGraph

def enqueue (id : Nat) : List Nat → List Nat
  | [] => [id]
  | next :: rest => if id ≤ next then id :: next :: rest else next :: enqueue id rest

/-- The in-degree of a node is the number of nodes for which it still waits. -/
structure OrderingPass where
  inDegree : Table Nat Nat
  ready : List Nat
  order : List Nat
  deriving DecidableEq, Repr

namespace OrderingPass

def initialDegrees (constraints : Constraints) : Table Nat Nat :=
  .ofList (constraints.endpoints.toList.map fun id => (id, (constraints.predecessors id).length))

def start (constraints : Constraints) : OrderingPass :=
  let degrees := initialDegrees constraints
  ⟨degrees, (degrees.entries.filter (·.2 = 0)).map Prod.fst, []⟩

/-- Notes that a node for which `id` waits has been ordered. -/
def release (pass : OrderingPass) (id : Nat) : OrderingPass :=
  match pass.inDegree.get? id with
  | none => pass
  | some degree =>
    { pass with
      inDegree := pass.inDegree.insert id (degree - 1)
      ready := if degree - 1 = 0 then enqueue id pass.ready else pass.ready }

/-- Orders the lowest node that is ready. -/
def step (constraints : Constraints) (pass : OrderingPass) : Option OrderingPass :=
  match pass.ready with
  | [] => none
  | id :: rest =>
    some ((constraints.successors id).foldl release
      { pass with ready := rest, order := pass.order ++ [id] })

def run (constraints : Constraints) : (fuel : Nat) → OrderingPass → OrderingPass
  | 0, pass => pass
  | fuel + 1, pass =>
    match pass.step constraints with
    | none => pass
    | some next => run constraints fuel next

/-- A node becomes ready at most once, so there are no more steps than nodes. -/
def finish (constraints : Constraints) : OrderingPass :=
  let pass := start constraints
  run constraints pass.inDegree.size pass

def remaining (pass : OrderingPass) : List Nat :=
  (pass.inDegree.entries.filter (0 < ·.2)).map Prod.fst

end OrderingPass

end ShaderGraph
