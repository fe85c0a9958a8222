import ShaderGraph.Function.Signature
import ShaderGraph.Table
import ShaderGraph.Yaml.Direct

/-! Metadata documents, which describe one function each. What a document says beyond the signature
is passed over. -/
namespace ShaderGraph

open Yaml

/-- Parameters by name, with their type and index. -/
abbrev ParamTable := Table String (String × Int)

abbrev NameTable := Table String (List String)

structure Metadata where
  source : Option String
  uniforms : NameTable
  varyings : NameTable
  attributes : NameTable
  inputs : ParamTable
  outputs : ParamTable

def ParamTable.params (table : ParamTable) : List Param :=
  byIndex (table.entries.map fun (name, type, index) => ⟨name, type, index⟩)

def NameTable.declarations (table : NameTable) : DeclarationSet :=
  .ofList (table.entries.flatMap fun (type, names) => declareNames type names)

def Metadata.signature (name : String) (m : Metadata) : Signature where
  name
  inputs := m.inputs.params
  outputs := m.outputs.params
  source := m.source
  uniforms := m.uniforms.declarations
  varyings := m.varyings.declarations
  attributes := m.attributes.declarations

namespace Metadata

/-- The outer option of a field tells whether it was given, the inner one whether it holds more than
null. -/
structure Fields where
  source : Option (Option String)
  uniforms : Option (Option NameTable)
  varyings : Option (Option NameTable)
  attributes : Option (Option NameTable)
  params : Option (Option (ParamTable × ParamTable))

variable (anchors : Anchors)

def readName (n : Node) : Reading String := do
  let name ← Reading.record anchors none (fun read key n =>
    match key with
    | "name" => Reading.once read (Reading.text anchors n)
    | _ => return read) n
  Reading.required name

def readNames (n : Node) : Reading (Option NameTable) :=
  Reading.optional anchors (fun n =>
    Table.ofList <$> Reading.table anchors (Reading.items anchors (readName anchors)) n) n

def readParam (n : Node) : Reading (String × Int) := do
  let (type, index) ← Reading.record anchors (none, none) (fun (type, index) key n => do
    match key with
    | "type" => return (← Reading.once type (Reading.text anchors n), index)
    | "index" => return (type, ← Reading.once index (Reading.int32 anchors n))
    | _ => return (type, index)) n
  return (← Reading.required type, ← Reading.required index)

def readParams (n : Node) : Reading (Option ParamTable) :=
  Reading.optional anchors (fun n =>
    Table.ofList <$> Reading.table anchors (readParam anchors) n) n

def readDirections (n : Node) : Reading (Option (ParamTable × ParamTable)) :=
  Reading.optional anchors (fun n => do
    let (inputs, outputs) ← Reading.record anchors (none, none) (fun (inputs, outputs) key n => do
      match key with
      | "in" => return (← Reading.once inputs (readParams anchors n), outputs)
      | "out" => return (inputs, ← Reading.once outputs (readParams anchors n))
      | _ => return (inputs, outputs)) n
    return (inputs.join.getD ∅, outputs.join.getD ∅)) n

def readField (read : Fields) (key : String) (n : Node) : Reading Fields := do
  match key with
  | "source" =>
    let source := Reading.optional anchors (Reading.text anchors) n
    return { read with source := ← Reading.once read.source source }
  | "uniforms" =>
    return { read with uniforms := ← Reading.once read.uniforms (readNames anchors n) }
  | "varyings" =>
    return { read with varyings := ← Reading.once read.varyings (readNames anchors n) }
  | "attributes" =>
    return { read with attributes := ← Reading.once read.attributes (readNames anchors n) }
  | "params" => return { read with params := ← Reading.once read.params (readDirections anchors n) }
  | _ => return read

def ofNode (n : Node) : Reading Metadata := do
  let read ← Reading.record anchors ⟨none, none, none, none, none⟩ (readField anchors) n
  let (inputs, outputs) := read.params.join.getD (∅, ∅)
  return {
    source := read.source.join
    uniforms := read.uniforms.join.getD ∅
    varyings := read.varyings.join.getD ∅
    attributes := read.attributes.join.getD ∅
    inputs
    outputs }

def empty : Metadata := ⟨none, ∅, ∅, ∅, ∅, ∅⟩

/-- Reads a metadata document. Null stands for one without fields. -/
def parse (text : String) : Except Yaml.Error Metadata :=
  readDocument text fun d =>
    match d.root with
    | none => return empty
    | some n => return (← Reading.optional d.aliasTable (ofNode d.aliasTable) n).getD empty

end Metadata

def Signature.parse (name text : String) : Except Yaml.Error Signature :=
  (Metadata.signature name) <$> Metadata.parse text

end ShaderGraph
