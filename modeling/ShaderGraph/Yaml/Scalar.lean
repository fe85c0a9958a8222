import ShaderGraph.Yaml.Value
import ShaderGraph.Yaml.Token

/-! The kind of a plain scalar. In order of precedence it is null, a boolean, an integer, a float
or a string, by spelling alone. -/
namespace ShaderGraph.Yaml.Scalar

def isNull (text : String) : Bool := ["~", "null", "Null", "NULL"].contains text

def bool? (text : String) : Option Bool :=
  if ["true", "True", "TRUE"].contains text then some true
  else if ["false", "False", "FALSE"].contains text then some false
  else none

def digitIn? (radix : Nat) (c : Char) : Option Nat :=
  let value :=
    if '0' ≤ c ∧ c ≤ '9' then c.toNat - '0'.toNat
    else if 'a' ≤ c ∧ c ≤ 'f' then c.toNat - 'a'.toNat + 10
    else if 'A' ≤ c ∧ c ≤ 'F' then c.toNat - 'A'.toNat + 10
    else radix
  if value < radix then some value else none

def digits? (radix : Nat) (cs : List Char) : Option Nat :=
  if cs.isEmpty then none
  else cs.foldlM (fun n c => (radix * n + ·) <$> digitIn? radix c) 0

def splitSign : List Char → Option Char × List Char
  | '+' :: cs => (some '+', cs)
  | '-' :: cs => (some '-', cs)
  | cs => (none, cs)

/-- Decimal digits with a zero in front are no number. -/
def isPaddedDigits (text : String) : Bool :=
  match (splitSign text.toList).2 with
  | '0' :: d :: rest => (d :: rest).all Char.isDigit
  | _ => false

/-- Digits behind a sign. A lower-case letter gives the base; without one it is ten. -/
def magnitude? (text : String) (cs : List Char) : Option Nat :=
  match cs with
  | '0' :: 'x' :: ds => digits? 16 ds
  | '0' :: 'o' :: ds => digits? 8 ds
  | '0' :: 'b' :: ds => digits? 2 ds
  | ds => if isPaddedDigits text then none else digits? 10 ds

/-- The largest size of an integer of so many bits, which has a sign only if it is negative. -/
def limit (negative : Bool) (bits : Nat) : Nat :=
  if negative then Nat.pow 2 (bits - 1) else Nat.pow 2 bits - 1

/-- Integers that 64 bits hold, with a sign if they are negative, are `fitting`; those that only
128 bits hold are `wide`, and larger ones are no integers. -/
inductive IntegerText where
  | fitting (value : Int)
  | wide
  | other
  deriving DecidableEq, Repr

def integer (text : String) : IntegerText :=
  let (sign, cs) := splitSign text.toList
  match magnitude? text cs with
  | none => .other
  | some n =>
    let negative : Bool := sign = some '-'
    if n ≤ limit negative 64 then .fitting (if negative then -n else n)
    else if n ≤ limit negative 128 then .wide
    else .other

def exponent? (cs : List Char) : Option Int :=
  let (sign, ds) := splitSign cs
  (digits? 10 ds).map fun n => if sign = some '-' then -n else n

def decimal? (cs : List Char) : Option Binary64 := do
  let (sign, cs) := splitSign cs
  let (whole, cs) := cs.span Char.isDigit
  let (fraction, cs) := match cs with
    | '.' :: cs => cs.span Char.isDigit
    | cs => ([], cs)
  let digits ← digits? 10 (whole ++ fraction)
  let exponent ← match cs with
    | [] => some 0
    | 'e' :: cs | 'E' :: cs => exponent? cs
    | _ => none
  return .ofDecimal (sign = some '-') digits (exponent - fraction.length)

/-- A float in any of its spellings. Decimals too large to be finite are none. -/
def float? (text : String) : Option Binary64 :=
  let unsigned := match text.toList with
    | '+' :: cs => cs
    | cs => cs
  if [".inf", ".Inf", ".INF"].contains (String.ofList unsigned) then some (.infinity false)
  else if ["-.inf", "-.Inf", "-.INF"].contains text then some (.infinity true)
  else if [".nan", ".NaN", ".NAN"].contains text then some .nan
  else (decimal? text.toList).filter Binary64.isFinite

def resolve (text : String) : Except Fault Value :=
  if text.isEmpty || isNull text then .ok .null
  else match bool? text with
    | some b => .ok (.bool b)
    | none =>
      match integer text with
      | .fitting n => .ok (.number (.int n))
      | .wide => .error .wideInteger
      | .other =>
        match if isPaddedDigits text then none else float? text with
        | some x => .ok (.number (.float x))
        | none => .ok (.string text)

end ShaderGraph.Yaml.Scalar
