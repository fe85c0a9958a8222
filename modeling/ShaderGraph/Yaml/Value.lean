import ShaderGraph.Decimal.Binary64

/-! Values: what a document says once its scalars have a kind and its aliases are followed. -/
namespace ShaderGraph.Yaml

inductive Number where
  | int (value : Int)
  | float (value : Binary64)
  deriving DecidableEq, Repr

/-- A tag is kept without its exclamation mark. -/
inductive Value where
  | null
  | bool (value : Bool)
  | number (value : Number)
  | string (value : String)
  | sequence (items : List Value)
  | mapping (entries : List (Value × Value))
  | tagged (tag : String) (value : Value)
  deriving Repr, Inhabited

namespace Number

def same : Number → Number → Bool
  | .int a, .int b => a == b
  | .float a, .float b => a.sameNumber b
  | _, _ => false

end Number

mutual

/-- Equality as keys: the order of a mapping's entries does not count, numbers are equal as
numbers, and an integer differs from every float. -/
def Value.same : Value → Value → Bool
  | .null, .null => true
  | .bool a, .bool b => a == b
  | .number a, .number b => a.same b
  | .string a, .string b => a == b
  | .sequence a, .sequence b => sameItems a b
  | .mapping a, .mapping b => a.length == b.length && sameEntries a b
  | .tagged s a, .tagged t b => s == t && a.same b
  | _, _ => false

def sameItems : List Value → List Value → Bool
  | [], [] => true
  | a :: as, b :: bs => a.same b && sameItems as bs
  | _, _ => false

def sameEntries : List (Value × Value) → List (Value × Value) → Bool
  | [], _ => true
  | (key, value) :: rest, others =>
    others.any (fun entry => key.same entry.1 && value.same entry.2) && sameEntries rest others

end

namespace Value

def isNull : Value → Bool
  | .null => true
  | _ => false

def untagged : Value → Value
  | .tagged _ value => value.untagged
  | value => value

def lookup (key : Value) (entries : List (Value × Value)) : Option Value :=
  (entries.find? fun entry => key.same entry.1).map (·.2)

/-- The entry of a mapping with the key `name`. Tags around the mapping do not matter. -/
def field? (name : String) (v : Value) : Option Value :=
  match v.untagged with
  | .mapping entries => lookup (.string name) entries
  | _ => none

/-- The first item of a sequence, or the entry of a mapping with the key 0. -/
def first? (v : Value) : Option Value :=
  match v.untagged with
  | .sequence items => items.head?
  | .mapping entries => lookup (.number (.int 0)) entries
  | _ => none

end Value
end ShaderGraph.Yaml
