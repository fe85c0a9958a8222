import ShaderGraph.Graph.Edge

/-! Graphs: nodes by number, the variables that feed their inputs, the constraints on their order,
and the declarations they make. -/
namespace ShaderGraph

/-- Bindings are in the order of the edges. Of several bindings of one input the last counts, and
of several nodes with one name the last declared is meant. -/
structure Graph where
  nodes : Table Nat GraphNode
  names : Table String Nat
  bindings : List Binding
  constraints : Constraints
  epilogue : List Assignment
  uniforms : DeclarationSet
  varyings : DeclarationSet
  deriving Repr

namespace Graph

def node? (graph : Graph) (name : String) : Option GraphNode :=
  (graph.names.get? name).bind graph.nodes.get?

def binding? (graph : Graph) (node input : String) : Option String :=
  (graph.bindings.reverse.find? fun b => b.node = node ∧ b.input = input).map Binding.source

/-- The bindings that count, by node and input. -/
def bindingTable (graph : Graph) : Table String (Table String String) :=
  graph.bindings.foldl (fun table b =>
    table.insert b.node (((table.get? b.node).getD ∅).insert b.input b.source)) ∅

/-- The nodes of a graph and what they declare, without edges. Uniforms whose names are supplied are
not declared. -/
def ofNodes (supplied : SortedSet String) (nodes : List GraphNode) : Graph where
  nodes := .ofList (nodes.map fun node => (node.id, node))
  names := .ofList (nodes.map fun node => (node.name, node.id))
  bindings := []
  constraints := ∅
  epilogue := []
  uniforms := .ofList
    ((nodes.filter fun node => node.kind = .uniform ∧ node.name ∉ supplied).map
      GraphNode.declaration)
  varyings := .ofList ((nodes.filter (·.kind = .varying)).map GraphNode.declaration)

def resolve (graph : Graph) (edge : Edge) : ResolvedEdge :=
  ⟨edge, graph.node? (normalizeName edge.source.node), graph.node? (normalizeName edge.target.node)⟩

def withEdges (graph : Graph) (edges : List ResolvedEdge) : Graph :=
  { graph with
    bindings := edges.map ResolvedEdge.binding
    constraints := .ofList (edges.filterMap ResolvedEdge.constraint?)
    epilogue := edges.filterMap ResolvedEdge.assignment? }

def constrain (graph : Graph) (more : List Constraint) : Graph :=
  { graph with constraints := more.foldl SortedSet.insert graph.constraints }

/-- The graph without some of its nodes. Their names and constraints stay. -/
def drop (graph : Graph) (ids : List Nat) : Graph :=
  { graph with nodes := ids.foldl Table.erase graph.nodes }

def supplyRecord? (supplied : SortedSet String) (node : GraphNode) : Option Record :=
  if node.kind = .uniform ∧ node.name ∈ supplied then some (.suppliedUniform node.name) else none

def ofDocument (document : GraphDocument) (supplied : SortedSet String) :
    Except DocumentError Graph × List Record :=
  match settingTable document.settings with
  | .error error => (.error error, [])
  | .ok settings =>
    let (nodes, failure) := readNodes settings 1 document.nodes
    let supplies := nodes.filterMap (supplyRecord? supplied)
    match failure with
    | some error => (.error error, supplies)
    | none =>
      let base := ofNodes supplied nodes
      let edges := document.edges.map base.resolve
      let graph := base.withEdges edges
      (.ok graph, supplies ++ edges.filterMap ResolvedEdge.warning? ++
        [.ingested graph.nodes.size graph.constraints.toList.length])

end Graph
end ShaderGraph
