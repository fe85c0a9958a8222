import ShaderGraph.Order.Cycle
import ShaderGraph.Order.Pass

/-! Schedules: orders of nodes under precedence constraints. Nodes without constraints follow behind
all others. Constraints that no order meets are answered with one of their cycles. -/
namespace ShaderGraph

structure Schedule where
  constrained : List Nat
  unrelated : List Nat
  deriving DecidableEq, Repr

def Schedule.order (s : Schedule) : List Nat := s.constrained ++ s.unrelated

/-- Orders the given nodes, and all that stand in a constraint. -/
def schedule (ids : List Nat) (constraints : Constraints) : Except Cycle Schedule :=
  let pass := OrderingPass.finish constraints
  if pass.order.length < pass.inDegree.size then .error ⟨(trace constraints pass.remaining).ids⟩
  else
    .ok ⟨pass.order, (SortedSet.ofList (ids.filter (!pass.order.contains ·))).toList⟩

end ShaderGraph
