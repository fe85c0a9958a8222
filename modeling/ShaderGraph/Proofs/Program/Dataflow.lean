import ShaderGraph.Function.Library
import ShaderGraph.Proofs.Graph.Basic

/-! The dataflow of a graph: along which edge each input is fed, and from which output. Names mean
the last node declared with them, and of the edges into one input the last counts. -/
namespace ShaderGraph

/-- The nodes of a graph in the order of their declarations, its edges, and what is known of the
functions of nodes. -/
structure Dataflow where
  nodes : List GraphNode
  edges : List Edge
  signature? : String → Option Signature

def Graph.dataflow (graph : Graph) (document : GraphDocument) (library : Library σ) : Dataflow :=
  ⟨graph.nodes.values, document.edges, library.signatures.get?⟩

namespace Dataflow

def edge? (flow : Dataflow) (node input : String) : Option Edge :=
  flow.edges.reverse.find? fun e =>
    normalizeName e.target.node = node ∧ e.target.interface = input

def source? (flow : Dataflow) (e : Edge) : Option GraphNode :=
  flow.nodes.reverse.find? (·.name = normalizeName e.source.node)

/-- The called node at the source of an edge, and the place of the edge's interface among its
outputs. Values, nodes without such an output and names without a node have none. -/
def output? (flow : Dataflow) (e : Edge) : Option (GraphNode × Nat) :=
  match flow.source? e with
  | none => none
  | some node =>
    if isPassThrough node.function then none
    else (flow.signature? node.function).bind fun signature =>
      (signature.outputs.findIdx? (·.name = e.source.interface)).map (node, ·)

/-- The variable that an edge carries: a value goes by its name, and all else by the output. -/
def carried (flow : Dataflow) (e : Edge) : String :=
  if (flow.source? e).any (isPassThrough ·.function) then normalizeName e.source.node
  else outputVariable (normalizeName e.source.node) e.source.interface

variable {flow : Dataflow} {node input : String} {e : Edge}

theorem of_edge? (found : flow.edge? node input = some e) :
    e ∈ flow.edges ∧ normalizeName e.target.node = node ∧ e.target.interface = input := by
  have fits := List.find?_some found
  exact ⟨List.mem_reverse.mp (List.mem_of_find?_eq_some found), by simpa using fits⟩

/-- An output is one that the signature of a called node declares. -/
theorem of_output? {source : GraphNode} {place : Nat}
    (found : flow.output? e = some (source, place)) :
    flow.source? e = some source ∧ isPassThrough source.function = false ∧
      ∃ signature param, flow.signature? source.function = some signature ∧
        signature.outputs[place]? = some param ∧ param.name = e.source.interface := by
  rw [output?] at found
  split at found
  · contradiction
  · rename_i known named
    split at found
    · contradiction
    · rename_i called
      obtain ⟨signature, declared, placed⟩ := Option.bind_eq_some_iff.mp found
      obtain ⟨_, index, same⟩ := Option.map_eq_some_iff.mp placed
      obtain ⟨rfl, rfl⟩ := Prod.mk.inj same
      obtain ⟨bound, matched, _⟩ := List.findIdx?_eq_some_iff_getElem.mp index
      exact ⟨named, Bool.eq_false_iff.mpr called, signature, _, declared,
        List.getElem?_eq_getElem bound, by simpa using matched⟩

theorem carried_of_output? {source : GraphNode} {place : Nat}
    (found : flow.output? e = some (source, place)) :
    flow.carried e = outputVariable source.name e.source.interface := by
  obtain ⟨named, called, _⟩ := of_output? found
  have name : source.name = normalizeName e.source.node := by simpa using List.find?_some named
  simp [carried, named, called, name]

end Dataflow

namespace Graph.Represents

variable {graph : Graph} {document : GraphDocument}

theorem source?_eq (represents : graph.Represents document) (library : Library σ) (e : Edge) :
    (graph.dataflow document library).source? e = graph.node? (normalizeName e.source.node) :=
  (represents.last _).symm

theorem carried_eq (represents : graph.Represents document) (library : Library σ) (e : Edge) :
    (graph.dataflow document library).carried e = (graph.resolve e).sourceVariable := by
  rw [Dataflow.carried, represents.source?_eq]
  rfl

/-- An input is bound to the variable of the last edge into it. -/
theorem binding?_eq (represents : graph.Represents document) (library : Library σ)
    (node input : String) :
    graph.binding? node input = ((graph.dataflow document library).edge? node input).map
      (graph.dataflow document library).carried := by
  rw [represents.binding?_eq_find?, funext (represents.carried_eq library)]
  rfl

end Graph.Represents
end ShaderGraph
