import ShaderGraph.Glsl.Type
import ShaderGraph.Graph.Node
import ShaderGraph.Log
import ShaderGraph.Order.Constraint

/-! What an edge says once its ends are known: a variable feeds an input, the source comes before
the target, and a varying is assigned. Ends that name no node still feed and are fed. -/
namespace ShaderGraph

structure Binding where
  node : String
  input : String
  source : String
  deriving DecidableEq, Repr

/-- A varying is assigned after all calls. -/
structure Assignment where
  target : String
  source : String
  deriving DecidableEq, Repr

def Assignment.text (a : Assignment) : String := a.target ++ " = " ++ a.source ++ ";"

/-- An edge with the nodes that its ends name, as far as there are such nodes. -/
structure ResolvedEdge where
  edge : Edge
  source : Option GraphNode
  target : Option GraphNode
  deriving Repr

namespace ResolvedEdge

def sourceName (e : ResolvedEdge) : String := normalizeName e.edge.source.node

def targetName (e : ResolvedEdge) : String := normalizeName e.edge.target.node

/-- The variable that the edge carries: the source itself if it is a value, and otherwise the output
of a call. -/
def sourceVariable (e : ResolvedEdge) : String :=
  if e.source.any (isPassThrough ·.function) then e.sourceName
  else outputVariable e.sourceName e.edge.source.interface

def binding (e : ResolvedEdge) : Binding :=
  ⟨e.targetName, e.edge.target.interface, e.sourceVariable⟩

def constraint? (e : ResolvedEdge) : Option Constraint :=
  match e.source, e.target with
  | some source, some target => some ⟨source.id, target.id⟩
  | _, _ => none

def assignment? (e : ResolvedEdge) : Option Assignment :=
  if e.target.any (·.kind = .varying) then some ⟨e.targetName, e.sourceVariable⟩ else none

def warning? (e : ResolvedEdge) : Option Record :=
  match e.constraint? with
  | some _ => none
  | none =>
    some (.unknownEndpoint e.sourceName e.edge.source.interface e.targetName
      e.edge.target.interface)

end ResolvedEdge
end ShaderGraph
