import ShaderGraph.Yaml.Reading

/-! Reading a value into a type. Tags are looked through, and null stands for an empty collection
and for a record that gives no field. Records take the fields they know, each once, and pass over
all others. -/
namespace ShaderGraph.Yaml

namespace Value

abbrev Decoded (α : Type) := Except ShapeError α

def asText (v : Value) : Decoded String :=
  match v.untagged with
  | .string s => .ok s
  | other => .error (.unexpected other .text)

def asItems (v : Value) : Decoded (List Value) :=
  match v.untagged with
  | .sequence items => .ok items
  | .null => .ok []
  | other => .error (.unexpected other .items)

def asEntries (v : Value) (expected : Expectation) : Decoded (List (Value × Value)) :=
  match v.untagged with
  | .mapping entries => .ok entries
  | .null => .ok []
  | other => .error (.unexpected other expected)

def asTable (v : Value) : Decoded (List (String × Value)) := do
  (← v.asEntries .entries).mapM fun (key, value) => return (← key.asText, value)

def asFieldName (key : Value) : Decoded String :=
  match key.untagged with
  | .string s => .ok s
  | other => .error (.unexpected other .fieldName)

/-- Reads the fields of the record `name` in the order in which they stand. -/
def asRecord (v : Value) (name : String) (start : ρ) (field : ρ → String → Value → Decoded ρ) :
    Decoded ρ := do
  (← v.asEntries (.record name)).foldlM (fun read (key, value) => do
    field read (← key.asFieldName) value) start

end Value

/-- A field that was read before cannot be given again. -/
def once (name : String) (before : Option α) (read : Except ShapeError α) :
    Except ShapeError (Option α) :=
  match before with
  | some _ => .error (.duplicateField name)
  | none => some <$> read

def required (name : String) (found : Option α) : Except ShapeError α :=
  match found with
  | some a => .ok a
  | none => .error (.missingField name)

end ShaderGraph.Yaml
