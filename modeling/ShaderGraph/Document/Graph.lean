import ShaderGraph.Yaml.Decode

/-! Graph documents: nodes, the edges between their interfaces, and settings for nodes. A document
may stand in a list of versions, of which the first counts. -/
namespace ShaderGraph

open Yaml

/-- A node as a document declares it. The model names the function of the node. -/
structure NodeDeclaration where
  name : String
  model : String
  data : Option Value
  deriving Repr

structure Endpoint where
  node : String
  interface : String
  deriving DecidableEq, Repr

structure Edge where
  source : Endpoint
  target : Endpoint
  deriving DecidableEq, Repr

/-- The settings of a node, apart from its declaration. -/
structure Setting where
  name : String
  data : Value
  deriving Repr

structure GraphDocument where
  nodes : List NodeDeclaration
  edges : List Edge
  settings : List Setting
  deriving Repr

inductive DocumentError where
  | yaml (cause : Yaml.Error)
  | missingComponents
  | nodeConfig (node : String) (cause : Yaml.Error)
  deriving Repr

def DocumentError.message : DocumentError → String
  | .yaml cause => "Invalid graph document: " ++ cause.message
  | .missingComponents => "Versioned graph document has no components"
  | .nodeConfig node cause =>
    "Invalid configuration for node `" ++ node ++ "`: " ++ cause.message

def readModel (v : Value) : Value.Decoded String := do
  let name ← v.asRecord "ModelDocument" none fun read key v => do
    match key with
    | "name" => once "name" read v.asText
    | _ => return read
  required "name" name

structure NodeFields where
  name : Option String
  model : Option String
  data : Option (Option Value)

def NodeDeclaration.ofValue (v : Value) : Value.Decoded NodeDeclaration := do
  let read ← v.asRecord "NodeDocument" (⟨none, none, none⟩ : NodeFields) fun read key v => do
    match key with
    | "name" => return { read with name := ← once "name" read.name v.asText }
    | "model" => return { read with model := ← once "model" read.model (readModel v) }
    | "data" =>
      let data := match v with
        | .null => none
        | v => some v
      return { read with data := ← once "data" read.data (.ok data) }
    | _ => return read
  return ⟨← required "name" read.name, ← required "model" read.model, read.data.join⟩

def Endpoint.ofValue (v : Value) : Value.Decoded Endpoint := do
  let (node, interface) ← v.asRecord "EndpointDocument" (none, none) fun (node, interface) key v => do
    match key with
    | "name" => return (← once "name" node v.asText, interface)
    | "interface" => return (node, ← once "interface" interface v.asText)
    | _ => return (node, interface)
  return ⟨← required "name" node, ← required "interface" interface⟩

def Edge.ofValue (v : Value) : Value.Decoded Edge := do
  let (source, target) ← v.asRecord "EdgeDocument" (none, none) fun (source, target) key v => do
    match key with
    | "from" => return (← once "from" source (Endpoint.ofValue v), target)
    | "to" => return (source, ← once "to" target (Endpoint.ofValue v))
    | _ => return (source, target)
  return ⟨← required "from" source, ← required "to" target⟩

def Setting.ofValue (v : Value) : Value.Decoded Setting := do
  let (name, data) ← v.asRecord "ConfiguredNode" (none, none) fun (name, data) key v => do
    match key with
    | "name" => return (← once "name" name v.asText, data)
    | "data" => return (name, ← once "data" data (.ok v))
    | _ => return (name, data)
  return ⟨← required "name" name, data.getD .null⟩

def readSettings (v : Value) : Value.Decoded (List Setting) := do
  let settings ← v.asRecord "ConfigurationDocument" none fun read key v => do
    match key with
    | "nodes" => once "nodes" read (v.asItems >>= List.mapM Setting.ofValue)
    | _ => return read
  return settings.getD []

structure DocumentFields where
  nodes : Option (List NodeDeclaration)
  edges : Option (List Edge)
  settings : Option (List Setting)

namespace GraphDocument

def empty : GraphDocument := ⟨[], [], []⟩

def isEmpty (d : GraphDocument) : Bool := d.nodes.isEmpty && d.edges.isEmpty && d.settings.isEmpty

/-- Reads a document that is not wrapped in versions. -/
def ofComponents (v : Value) : Value.Decoded GraphDocument := do
  let read ← v.asRecord "GraphDocument" (⟨none, none, none⟩ : DocumentFields) fun read key v => do
    match key with
    | "nodes" =>
      let nodes := v.asItems >>= List.mapM NodeDeclaration.ofValue
      return { read with nodes := ← once "nodes" read.nodes nodes }
    | "edges" =>
      let edges := v.asItems >>= List.mapM Edge.ofValue
      return { read with edges := ← once "edges" read.edges edges }
    | "configuration" =>
      return { read with settings := ← once "configuration" read.settings (readSettings v) }
    | _ => return read
  return ⟨read.nodes.getD [], read.edges.getD [], read.settings.getD []⟩

/-- The part of a value that describes the graph: the components of the first version, if there are
versions, and the whole otherwise. -/
def components (v : Value) : Except DocumentError Value :=
  match v.field? "versions" with
  | none => .ok v
  | some versions =>
    match versions.first?.bind (·.field? "components") with
    | some components => .ok components
    | none => .error .missingComponents

def ofValue (v : Value) : Except DocumentError GraphDocument := do
  (ofComponents (← components v)).mapError (.yaml ∘ .shape)

def parse (text : String) : Except DocumentError GraphDocument := do
  ofValue (← (Value.parse text).mapError .yaml)

end GraphDocument
end ShaderGraph
