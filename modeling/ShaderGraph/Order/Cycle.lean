import ShaderGraph.Order.Constraint

/-! Cycles of precedence constraints. Among nodes of which each has a predecessor, a walk from node
to predecessor comes back to a node it has met; what lies between is a cycle. -/
namespace ShaderGraph

/-- Nodes of which each has to come before the next, and the last before the first. -/
structure Cycle where
  ids : List Nat
  deriving DecidableEq, Repr

def arrow (names : List String) : String := " -> ".intercalate names

def Cycle.message (c : Cycle) : String :=
  "Precedence constraints form a cycle: " ++ arrow (c.ids.map toString)

/-- Where a walk from node to predecessor ends: at a node that it has met before, or, which cannot
be if every node has a predecessor, short of that. -/
inductive Trace where
  | closed (cycle : List Nat)
  | deadEnd (path : List Nat)
  | unfinished (path : List Nat)
  | absent
  deriving DecidableEq, Repr

def Trace.ids : Trace → List Nat
  | closed ids | deadEnd ids | unfinished ids => ids
  | absent => []

/-- The same cycle, from its lowest node on. -/
def fromLowest : List Nat → List Nat
  | [] => []
  | id :: rest =>
    let lowest := rest.foldl Nat.min id
    let cycle := id :: rest
    cycle.dropWhile (· ≠ lowest) ++ cycle.takeWhile (· ≠ lowest)

/-- Walks on from `current`, always to the lowest predecessor among `remaining`. The path behind
it has the node visited last in front, so that it is in order of precedence. -/
def walk (constraints : Constraints) (remaining : List Nat) :
    (fuel : Nat) → (current : Nat) → (path : List Nat) → Trace
  | 0, _, path => .unfinished path.reverse
  | fuel + 1, current, path =>
    match (constraints.predecessors current).find? (remaining.contains ·) with
    | none => .deadEnd path.reverse
    | some previous =>
      if path.contains previous then
        .closed (fromLowest (path.takeWhile (· ≠ previous) ++ [previous]))
      else walk constraints remaining fuel previous (previous :: path)

/-- Walks from the lowest of the nodes that are left. The walk meets a node again before it has more
nodes than there are. -/
def trace (constraints : Constraints) (remaining : List Nat) : Trace :=
  match remaining with
  | [] => .absent
  | id :: _ => walk constraints remaining remaining.length id [id]

end ShaderGraph
