import ShaderGraph.Decimal.Binary64

/-! The shortest decimal number that reads back as a given binary one, and how decimals are
written. Grids of ever finer steps are tried; the first that has a point in the interval of
numbers that round to the given one holds the shortest. -/
namespace ShaderGraph

/-- The number `digits * 10 ^ exponent`. -/
structure Decimal where
  digits : Nat
  exponent : Int
  deriving DecidableEq, Repr

/-- Which of two points of a grid is taken when both are as near. -/
inductive Tie where
  | up | even
  deriving DecidableEq, Repr

/-- The numbers that round to `value`, in units of 2^-1076; the ends belong to it if `closed`. -/
structure RoundingInterval where
  low : Nat
  value : Nat
  high : Nat
  closed : Bool
  deriving Repr

namespace RoundingInterval

/-- Half way to both neighbours. Below a power of two the neighbour is half as far away. -/
def ofBinary64 (x : Binary64) : RoundingInterval :=
  let unit := Nat.pow 2 x.shift
  let below := if x.significand = Nat.pow 2 52 ∧ 1 < x.exponentField then unit else 2 * unit
  ⟨4 * x.units - below, 4 * x.units, 4 * x.units + 2 * unit, x.significand % 2 = 0⟩

/-- Grid `n` has the multiples of 10^(n - 1074); sizes are compared multiplied by 10^1074. -/
def gridStep (n : Nat) : Nat := Nat.pow 10 n * Nat.pow 2 1076

def contains (i : RoundingInterval) (scaled : Nat) : Bool :=
  if i.closed then i.low * Nat.pow 10 1074 ≤ scaled && scaled ≤ i.high * Nat.pow 10 1074
  else i.low * Nat.pow 10 1074 < scaled && scaled < i.high * Nat.pow 10 1074

/-- The point of grid `n` that is nearest to the value, if the interval has a point of it. -/
def gridPoint? (i : RoundingInterval) (tie : Tie) (n : Nat) : Option Nat :=
  let step := gridStep n
  let scaled := i.value * Nat.pow 10 1074
  let below := scaled / step
  let twice := 2 * (scaled % step)
  match i.contains (below * step), i.contains ((below + 1) * step) with
  | false, false => none
  | true, false => some below
  | false, true => some (below + 1)
  | true, true =>
    if twice < step then some below
    else if step < twice then some (below + 1)
    else match tie with
      | .up => some (below + 1)
      | .even => some (below + below % 2)

/-- Grid zero is fine enough to hold the value itself. -/
def coarsest (i : RoundingInterval) (tie : Tie) : Nat → Decimal
  | 0 => ⟨i.value * Nat.pow 10 1074 / gridStep 0, -1074⟩
  | n + 1 =>
    match i.gridPoint? tie (n + 1) with
    | some digits => ⟨digits, n + 1 - 1074⟩
    | none => i.coarsest tie n

end RoundingInterval

/-- The shortest decimal with the size of a finite number. The first grid tried is coarser than
the number is large. -/
def Binary64.shortest (x : Binary64) (tie : Tie) : Decimal :=
  if x.units = 0 then ⟨0, 0⟩
  else (RoundingInterval.ofBinary64 x).coarsest tie (755 + x.units.log2 * 30103 / 100000)

def decimalDigits (n : Nat) : String := String.ofList (Nat.toDigits 10 n)

def zeros (n : Nat) : String := String.ofList (List.replicate n '0')

/-- All digits in their places, without an exponent; a point only where a fraction follows. -/
def Decimal.positional (d : Decimal) : String :=
  if 0 ≤ d.exponent then decimalDigits d.digits ++ zeros d.exponent.toNat
  else
    let places := (-d.exponent).toNat
    decimalDigits (d.digits / Nat.pow 10 places) ++ "." ++
      let fraction := decimalDigits (d.digits % Nat.pow 10 places)
      zeros (places - fraction.length) ++ fraction

def signText (negative : Bool) : String := if negative then "-" else ""

/-- A number that is not finite has a name, which differs between formats. -/
structure SpecialNames where
  nan : String
  infinity : String
  negativeInfinity : String

def Binary64.specialName (names : SpecialNames) (x : Binary64) : String :=
  if x.isNaN then names.nan else if x.isNegative then names.negativeInfinity else names.infinity

def plainNames : SpecialNames := ⟨"NaN", "inf", "-inf"⟩

/-- The shortest decimal in positional form, with a point in any case. -/
def Binary64.positional (x : Binary64) : String :=
  if x.isFinite then
    let text := (x.shortest .up).positional
    signText x.isNegative ++ (if text.contains '.' then text else text ++ ".0")
  else x.specialName plainNames

/-- A whole number with all the digits it has, others in shortest positional form; there is a
point in any case. -/
def Binary64.exact (x : Binary64) : String :=
  if x.isFinite && x.isWhole then
    signText x.isNegative ++ decimalDigits (x.units / Nat.pow 2 1074) ++ ".0"
  else x.positional

/-- Positional between 10^-5 and 10^16, and otherwise with one digit before the point and an
exponent. -/
def Decimal.scientific (d : Decimal) : String :=
  let digits := decimalDigits d.digits
  let magnitude := d.exponent + digits.length
  if d.digits = 0 then "0.0"
  else if 0 ≤ d.exponent ∧ magnitude ≤ 16 then digits ++ zeros d.exponent.toNat ++ ".0"
  else if -5 < magnitude ∧ magnitude ≤ 16 then d.positional
  else
    let tail := String.ofList (digits.toList.drop 1)
    String.ofList (digits.toList.take 1) ++ (if tail.isEmpty then "" else "." ++ tail) ++
      "e" ++ toString (magnitude - 1)

end ShaderGraph
