import Mathlib.Data.Nat.Cast.Field
import ShaderGraph.Proofs.Decimal.Shortest

/-! What the texts of numbers say. A whole number is written with digits, the first of which is a zero
only if it is all; a finite `Binary64` has a point with digits on both sides. -/
namespace ShaderGraph

structure Digits where
  chars : List Char
  nonempty : chars ≠ []
  isDigit : ∀ c ∈ chars, c.isDigit

namespace Digits

def text (d : Digits) : String := String.ofList d.chars

def value (d : Digits) : Nat := Nat.ofDigitChars 10 d.chars 0

def ofNat (n : Nat) : Digits :=
  ⟨Nat.toDigits 10 n, Nat.toDigits_ne_nil, fun _ => Nat.isDigit_of_mem_toDigits (by decide) le_rfl⟩

def pad (zeros : Nat) (d : Digits) : Digits where
  chars := List.replicate zeros '0' ++ d.chars
  nonempty := by simp [d.nonempty]
  isDigit c held := (List.mem_append.mp held).elim (fun zero => (List.eq_of_mem_replicate zero) ▸ rfl)
    (d.isDigit c)

def scale (zeros : Nat) (d : Digits) : Digits where
  chars := d.chars ++ List.replicate zeros '0'
  nonempty := by simp [d.nonempty]
  isDigit c held := (List.mem_append.mp held).elim (d.isDigit c)
    fun zero => (List.eq_of_mem_replicate zero) ▸ rfl

@[simp]
theorem value_ofNat (n : Nat) : (ofNat n).value = n := Nat.ofDigitChars_ten_toDigits

theorem length_pad (zeros : Nat) (d : Digits) : (d.pad zeros).chars.length = zeros + d.chars.length := by
  simp [pad]

@[simp]
theorem value_pad (zeros : Nat) (d : Digits) : (d.pad zeros).value = d.value := by
  simp [value, pad, Nat.ofDigitChars_append]

@[simp]
theorem value_scale (zeros : Nat) (d : Digits) : (d.scale zeros).value = d.value * 10 ^ zeros := by
  simp [value, scale, Nat.ofDigitChars_append, Nat.mul_comm]

def Canonical (d : Digits) : Prop := d.chars.head? = some '0' → d.chars = ['0']

theorem canonical_ofNat (n : Nat) : (ofNat n).Canonical := by
  suffices least : (Nat.toDigits 10 n).head? = some '0' → n = 0 by
    intro zero
    rw [least zero]
    rfl
  induction n using Nat.base_induction 10 (by decide) with
  | single m small => simp [Nat.toDigits_of_lt_base small]
  | digit m k small large ih =>
    rw [← Nat.toDigits_append_toDigits (by decide) large small,
      List.head?_append_of_ne_nil _ Nat.toDigits_ne_nil]
    intro zero
    exact absurd (ih zero) large.ne'

theorem text_ofNat (n : Nat) : (ofNat n).text = decimalDigits n := rfl

theorem length_text (d : Digits) : d.text.length = d.chars.length := String.length_ofList

theorem text_pad (n : Nat) (d : Digits) : (d.pad n).text = zeros n ++ d.text :=
  String.ofList_append ..

theorem text_scale (n : Nat) (d : Digits) : (d.scale n).text = d.text ++ zeros n :=
  String.ofList_append ..

theorem contains_point (d : Digits) : d.text.contains '.' = false := by
  rw [String.contains_char_eq, text, String.toList_ofList]
  exact decide_eq_false fun held => nomatch d.isDigit _ held

end Digits

/-- An integer is written as its sign and the digits of its size. -/
theorem toString_int (n : Int) : toString n = signText (n < 0) ++ (Digits.ofNat n.natAbs).text := by
  rw [Int.toString_eq_repr, Int.repr_eq_if]
  by_cases negative : n < 0
  · have size : (-n).toNat = n.natAbs := by omega
    rw [if_neg (by omega), size, Nat.repr_eq_ofList_toDigits, decide_eq_true negative]
    rfl
  · have size : n.toNat = n.natAbs := by omega
    rw [if_pos (by omega), size, Nat.repr_eq_ofList_toDigits, decide_eq_false negative]
    exact (String.empty_append ..).symm

structure PointedText where
  negative : Bool
  whole : Digits
  fraction : Digits

namespace PointedText

def text (t : PointedText) : String :=
  signText t.negative ++ t.whole.text ++ "." ++ t.fraction.text

def size (t : PointedText) : ℚ := t.whole.value + t.fraction.value / 10 ^ t.fraction.chars.length

def value (t : PointedText) : ℚ := Binary64.sign t.negative * t.size

/-- Without its point a decimal is a whole number of units of its last place. -/
theorem size_eq (t : PointedText) : t.size =
    Nat.ofDigitChars 10 (t.whole.chars ++ t.fraction.chars) 0 *
      10 ^ (-t.fraction.chars.length : ℤ) := by
  rw [size, Nat.ofDigitChars_append, Nat.ofDigitChars_eq_ofDigitChars_zero, zpow_neg, zpow_natCast,
    Digits.value, Digits.value]
  push_cast
  field_simp

/-- Without places behind its point a decimal ends in a zero. -/
theorem text_of_no_fraction (negative : Bool) (whole : Digits) :
    text ⟨negative, whole, .ofNat 0⟩ = signText negative ++ (whole.text ++ ".0") := by
  have point : "." ++ (Digits.ofNat 0).text = ".0" := by decide
  rw [text, String.append_assoc, String.append_assoc, point]

end PointedText

/-- A decimal in positional form. Without places behind the point there is a zero. -/
def Decimal.pointed (d : Decimal) (negative : Bool) : PointedText :=
  if 0 ≤ d.exponent then ⟨negative, (Digits.ofNat d.digits).scale d.exponent.toNat, .ofNat 0⟩
  else
    let places := (-d.exponent).toNat
    let fraction := Digits.ofNat (d.digits % 10 ^ places)
    ⟨negative, .ofNat (d.digits / 10 ^ places), fraction.pad (places - fraction.chars.length)⟩

namespace Decimal

theorem text_pointed (d : Decimal) (negative : Bool) :
    (d.pointed negative).text = signText negative ++
      (if d.positional.contains '.' then d.positional else d.positional ++ ".0") := by
  rw [pointed]
  split
  case isTrue whole =>
    have plain : d.positional = ((Digits.ofNat d.digits).scale d.exponent.toNat).text := by
      rw [positional, if_pos whole, Digits.text_scale, Digits.text_ofNat]
    rw [PointedText.text_of_no_fraction, plain, Digits.contains_point, if_neg Bool.false_ne_true]
  case isFalse parted =>
    have point : '.' ∈ d.positional.toList := by
      rw [positional, if_neg parted]
      simp
    rw [String.contains_char_eq, if_pos (decide_eq_true point), positional, if_neg parted,
      PointedText.text, Digits.text_pad, ← Digits.length_text]
    simp only [Digits.text_ofNat, String.append_assoc, Nat.pow_eq]

theorem size_pointed (d : Decimal) (negative : Bool) :
    (d.pointed negative).size = d.digits * 10 ^ d.exponent := by
  rw [pointed, PointedText.size]
  split
  case isTrue whole =>
    obtain ⟨n, exponent⟩ := Int.eq_ofNat_of_zero_le whole
    simp [exponent]
  case isFalse parted =>
    obtain ⟨places, behind⟩ : ∃ places : Nat, (-d.exponent).toNat = places := ⟨_, rfl⟩
    have exponent : d.exponent = -(places : ℤ) := by omega
    have short : (Digits.ofNat (d.digits % 10 ^ places)).chars.length ≤ places :=
      (Nat.length_toDigits_le_iff (by decide) (by omega)).mpr (Nat.mod_lt _ (by positivity))
    have parts : (d.digits : ℚ) = 10 ^ places * (d.digits / 10 ^ places : Nat) +
        (d.digits % 10 ^ places : Nat) := by
      exact_mod_cast (Nat.div_add_mod ..).symm
    have unit : (0 : ℚ) < 10 ^ places := by positivity
    rw [behind, exponent, zpow_neg, zpow_natCast, Digits.value_pad, Digits.length_pad,
      Nat.sub_add_cancel short, Digits.value_ofNat, Digits.value_ofNat, parts]
    field_simp

end Decimal

/-- A finite number as it is written: with the digits that it has if it is whole, and otherwise the
shortest that round to it. -/
def Binary64.pointed (x : Binary64) : PointedText :=
  if x.isWhole then ⟨x.isNegative, .ofNat (x.units / Nat.pow 2 1074), .ofNat 0⟩
  else (x.shortest .up).pointed x.isNegative

namespace Binary64

variable {x : Binary64}

theorem exact_eq_text (finite : x.isFinite) : x.exact = x.pointed.text := by
  rw [exact, pointed, finite, Bool.true_and]
  split
  case isTrue => rw [PointedText.text_of_no_fraction, String.append_assoc]; rfl
  case isFalse =>
    rw [positional, if_pos finite]
    exact (Decimal.text_pointed ..).symm

theorem negative_pointed (x : Binary64) : x.pointed.negative = x.isNegative := by
  rw [pointed, Decimal.pointed]
  split
  · rfl
  · split <;> rfl

/-- A whole number is written exactly. -/
theorem value_pointed_of_isWhole (whole : x.isWhole) : x.pointed.value = x.toRat := by
  rw [pointed, if_pos whole, PointedText.value, PointedText.size, toRat, Digits.value_ofNat,
    Digits.value_ofNat]
  rw [isWhole, decide_eq_true_iff] at whole
  generalize 1074 = places at whole ⊢
  rw [Nat.pow_eq] at whole ⊢
  rw [Nat.cast_div (Nat.dvd_of_mod_eq_zero whole) (by positivity)]
  push_cast
  ring

/-- The decimal of a number rounds to it. -/
theorem rounds_pointed (x : Binary64) : Rounds (x.pointed.size * 2 ^ 1074) x.magnitude := by
  by_cases whole : x.isWhole
  · have exact := value_pointed_of_isWhole whole
    rw [PointedText.value, negative_pointed, toRat, mul_right_inj' (sign_ne_zero _)] at exact
    rw [exact, div_mul_cancel₀ _ (by positivity)]
    exact .self x.magnitude
  · rw [pointed, if_neg whole, Decimal.size_pointed]
    exact x.rounds_shortest .up

theorem nearest_pointed (finite : x.isFinite) : Nearest x.pointed.value x := by
  have nearest := x.rounds_pointed.toNearest finite
  rwa [mul_div_cancel_right₀ _ (by positivity), ← x.negative_pointed] at nearest

end Binary64
end ShaderGraph
