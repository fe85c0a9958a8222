import ShaderGraph.Graph.Basic
import ShaderGraph.Order.Schedule

/-! Graphs whose nodes are in the order of their calls. -/
namespace ShaderGraph

/-- The nodes of a cycle, by name where the graph has the node and by number otherwise. -/
structure NamedCycle where
  names : List String
  ids : List Nat
  deriving DecidableEq, Repr

def NamedCycle.message (c : NamedCycle) : String :=
  "Detected a cycle through nodes " ++ arrow c.names

structure ScheduledGraph where
  graph : Graph
  order : List Nat
  deriving Repr

/-- The nodes in order. Numbers without a node are passed over. -/
def ScheduledGraph.nodes (s : ScheduledGraph) : List GraphNode :=
  s.order.filterMap s.graph.nodes.get?

namespace Graph

def nameOf (graph : Graph) (id : Nat) : String :=
  match graph.nodes.get? id with
  | some node => node.name
  | none => toString id

def schedule (graph : Graph) : Except NamedCycle ScheduledGraph × List Record :=
  match ShaderGraph.schedule graph.nodes.keys graph.constraints with
  | .error cycle => (.error ⟨cycle.ids.map graph.nameOf, cycle.ids⟩, [])
  | .ok found =>
    (.ok ⟨graph, found.order⟩, [.scheduled found.constrained.length found.unrelated.length])

end Graph
end ShaderGraph
