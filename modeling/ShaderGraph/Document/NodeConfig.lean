import ShaderGraph.Table
import ShaderGraph.Yaml.Decode

/-! The settings of a node: how its value is exposed, a suffix for its function, and values for the
inputs that no edge feeds. -/
namespace ShaderGraph

open Yaml

structure NodeConfig where
  kind : Option String
  loadName : Option String
  inputs : Option (Table String Value)
  deriving Repr

namespace NodeConfig

def plain : NodeConfig := ⟨none, none, none⟩

def isKind (config : NodeConfig) (kind : String) : Bool := config.kind == some kind

def input? (config : NodeConfig) (name : String) : Option Value :=
  config.inputs.bind (·.get? name)

/-- What has been read of a record's optional fields. The outer option tells whether a field was
given, the inner one whether it holds more than null. -/
structure Fields where
  kind : Option (Option String)
  loadName : Option (Option String)
  inputs : Option (Option (Table String Value))

def optionalText (v : Value) : Value.Decoded (Option String) :=
  match v with
  | .null => .ok none
  | v => some <$> v.asText

def optionalTable (v : Value) : Value.Decoded (Option (Table String Value)) :=
  match v with
  | .null => .ok none
  | v => (some ∘ Table.ofList) <$> v.asTable

def field (read : Fields) (name : String) (v : Value) : Value.Decoded Fields := do
  match name with
  | "type" => return { read with kind := ← once "type" read.kind (optionalText v) }
  | "loadName" => return { read with loadName := ← once "loadName" read.loadName (optionalText v) }
  | "inputs" => return { read with inputs := ← once "inputs" read.inputs (optionalTable v) }
  | _ => return read

/-- Reads settings from a value that is neither a text nor wrapped. -/
def ofValue (v : Value) : Value.Decoded NodeConfig := do
  let read ← v.asRecord "NodeConfig" ⟨none, none, none⟩ field
  return ⟨read.kind.join, read.loadName.join, read.inputs.join⟩

/-- Reads settings from the data of a node. A text is parsed first, and data inside of the data is
taken for it. -/
def ofData (data : Value) : Except Yaml.Error NodeConfig := do
  let data ← match data with
    | .string text => Value.parse text
    | other => .ok other
  (ofValue ((data.field? "data").getD data)).mapError .shape

end NodeConfig
end ShaderGraph
