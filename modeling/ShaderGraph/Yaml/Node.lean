import ShaderGraph.Yaml.Token

/-! The tree that a document spells, before its scalars are given a kind. A node that carries an
anchor is known by the anchor's number, and an alias refers to it by that number. -/
namespace ShaderGraph.Yaml

inductive Node where
  | alias (anchor : Nat)
  | scalar (anchor : Option Nat) (tag : Option String) (style : ScalarStyle) (text : String)
  | sequence (anchor : Option Nat) (tag : Option String) (items : List Node)
  | mapping (anchor : Option Nat) (tag : Option String) (entries : List (Node × Node))
  deriving Repr

/-- An empty plain scalar stands wherever a node is left out. -/
def Node.empty : Node := .scalar none none .plain ""

mutual

/-- The number of events that spell a node: two for a collection, besides those of its parts. -/
def Node.events : Node → Nat
  | .alias _ | .scalar .. => 1
  | .sequence _ _ items => 2 + itemEvents items
  | .mapping _ _ entries => 2 + entryEvents entries

def itemEvents : List Node → Nat
  | [] => 0
  | node :: rest => node.events + itemEvents rest

def entryEvents : List (Node × Node) → Nat
  | [] => 0
  | (key, value) :: rest => key.events + value.events + entryEvents rest

end

mutual

/-- The nodes with an anchor, in the order in which they start. -/
def Node.anchored : Node → List (Nat × Node)
  | .alias _ => []
  | .scalar anchor tag style text =>
    (anchor.map (·, Node.scalar anchor tag style text)).toList
  | .sequence anchor tag items =>
    (anchor.map (·, Node.sequence anchor tag items)).toList ++ itemAnchored items
  | .mapping anchor tag entries =>
    (anchor.map (·, Node.mapping anchor tag entries)).toList ++ entryAnchored entries

def itemAnchored : List Node → List (Nat × Node)
  | [] => []
  | node :: rest => node.anchored ++ itemAnchored rest

def entryAnchored : List (Node × Node) → List (Nat × Node)
  | [] => []
  | (key, value) :: rest => key.anchored ++ (value.anchored ++ entryAnchored rest)

end

structure Document where
  root : Option Node
  deriving Repr

/-- Of several nodes with one number the last that starts is meant. -/
def Document.anchors (d : Document) : List (Nat × Node) :=
  ((d.root.map Node.anchored).getD []).reverse

def Document.events (d : Document) : Nat := (d.root.map Node.events).getD 1

end ShaderGraph.Yaml
