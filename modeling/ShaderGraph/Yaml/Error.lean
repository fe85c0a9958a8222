import ShaderGraph.Decimal.Shortest
import ShaderGraph.Text
import ShaderGraph.Yaml.Token
import ShaderGraph.Yaml.Value

/-! Why a text or a value could not be read, and the wording of it. -/
namespace ShaderGraph.Yaml

def Number.literal : Number → String
  | .int n => toString n
  | .float x => x.exact

def Value.describe : Value → String
  | .null => "unit value"
  | .bool b => "boolean `" ++ toString b ++ "`"
  | .number (.int n) => "integer `" ++ toString n ++ "`"
  | .number (.float x) => "floating point `" ++ x.positional ++ "`"
  | .string s => "string " ++ Text.quoted s
  | .sequence _ => "sequence"
  | .mapping _ => "map"
  | .tagged _ _ => "enum"

inductive Expectation where
  | text | items | entries | fieldName
  | record (name : String)
  deriving DecidableEq, Repr

def Expectation.describe : Expectation → String
  | .text => "a string"
  | .items => "a sequence"
  | .entries => "a map"
  | .fieldName => "field identifier"
  | .record name => "struct " ++ name

inductive ShapeError where
  | unexpected (found : Value) (expected : Expectation)
  | missingField (name : String)
  | duplicateField (name : String)
  deriving Repr

def ShapeError.message : ShapeError → String
  | .unexpected found expected =>
    "invalid type: " ++ found.describe ++ ", expected " ++ expected.describe
  | .missingField name => "missing field `" ++ name ++ "`"
  | .duplicateField name => "duplicate field `" ++ name ++ "`"

inductive Error where
  | malformed (fault : Fault)
  | severalDocuments
  | tooManyAliases
  | shape (error : ShapeError)
  deriving Repr

/-- A fault at a place in the text is not worded further. -/
def Error.message : Error → String
  | .malformed _ => "<yaml>"
  | .severalDocuments =>
    "deserializing from YAML containing more than one document is not supported"
  | .tooManyAliases => "repetition limit exceeded"
  | .shape error => error.message

end ShaderGraph.Yaml
