/-! Binary floating point numbers of 64 bits. A finite number is a whole multiple of the smallest
positive one, 2^-1074, so all its arithmetic is that of natural numbers. -/
namespace ShaderGraph

structure Binary64 where
  bits : BitVec 64
  deriving DecidableEq, Repr

namespace Binary64

def isNegative (x : Binary64) : Bool := Nat.pow 2 63 ≤ x.bits.toNat

def magnitude (x : Binary64) : Nat := x.bits.toNat % Nat.pow 2 63

def exponentField (x : Binary64) : Nat := x.magnitude / Nat.pow 2 52

def fractionField (x : Binary64) : Nat := x.magnitude % Nat.pow 2 52

def isFinite (x : Binary64) : Bool := x.exponentField < 2047

def isNaN (x : Binary64) : Bool := !x.isFinite && x.fractionField != 0

def significand (x : Binary64) : Nat :=
  if x.exponentField = 0 then x.fractionField else x.fractionField + Nat.pow 2 52

def shift (x : Binary64) : Nat := x.exponentField - 1

/-- The size of a finite number, counted in units of 2^-1074. -/
def units (x : Binary64) : Nat := x.significand * Nat.pow 2 x.shift

def isWhole (x : Binary64) : Bool := x.units % Nat.pow 2 1074 = 0

def signed (negative : Bool) (magnitude : Nat) : Binary64 :=
  ⟨.ofNat 64 (if negative then magnitude + Nat.pow 2 63 else magnitude)⟩

def infiniteMagnitude : Nat := 2047 * Nat.pow 2 52

def infinity (negative : Bool) : Binary64 := signed negative infiniteMagnitude

def nan : Binary64 := signed false (infiniteMagnitude + Nat.pow 2 51)

/-- Equality as numbers: both zeros are equal, and here all that are not numbers are too. -/
def sameNumber (x y : Binary64) : Bool :=
  x == y || (x.isNaN && y.isNaN) || (x.magnitude == 0 && y.magnitude == 0)

def roundHalfEven (n d : Nat) : Nat :=
  let q := n / d
  let twice := 2 * (n % d)
  if twice < d then q else if d < twice then q + 1 else q + q % 2

/-- The magnitude of the number nearest to `n / d`. Beyond 53 significant bits the unit doubles
with each bit, and the exponent counts the doublings; rounding up to the next power of two carries
into the exponent by itself. -/
def nearestMagnitude (n d : Nat) : Nat :=
  let scaled := n * Nat.pow 2 1074
  let doublings := (scaled / d).log2 + 1 - 53
  min (doublings * Nat.pow 2 52 + roundHalfEven scaled (d * Nat.pow 2 doublings)) infiniteMagnitude

/-- The number nearest to `digits * 10 ^ exponent`. Exponents whose result is zero or infinite
whatever the digits are not computed. -/
def ofDecimal (negative : Bool) (digits : Nat) (exponent : Int) : Binary64 :=
  let length : Int := (Nat.toDigits 10 digits).length
  if digits = 0 ∨ exponent + length < -330 then signed negative 0
  else if 330 < exponent + length then infinity negative
  else signed negative <|
    nearestMagnitude (digits * Nat.pow 10 exponent.toNat) (Nat.pow 10 (-exponent).toNat)

end Binary64
end ShaderGraph
