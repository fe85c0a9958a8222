import Mathlib.Algebra.Order.Field.Rat
import Mathlib.Data.Rat.Floor
import Mathlib.Order.Monotone.Basic
import Mathlib.Tactic.FieldSimp
import Mathlib.Tactic.Linarith
import Mathlib.Tactic.Positivity
import Mathlib.Tactic.Ring
import ShaderGraph.Decimal.Binary64

/-! The number that a finite `Binary64` is, and rounding to the nearest. The sizes of finite numbers,
counted in units of 2^-1074, grow with their magnitude; a size rounds to a magnitude if it is between the
points half way to the neighbours. -/
namespace ShaderGraph.Binary64

def gapAt (k : Nat) : Nat := 2 ^ (k / 2 ^ 52 - 1)

/-- The size of the number with a magnitude, in units. The first magnitude that is not finite has the
size of the power of two that a finite one would have there. -/
def unitsAt (k : Nat) : Nat :=
  (if k / 2 ^ 52 = 0 then k % 2 ^ 52 else k % 2 ^ 52 + 2 ^ 52) * gapAt k

theorem units_eq (x : Binary64) : x.units = unitsAt x.magnitude := rfl

theorem gapAt_pos (k : Nat) : 0 < gapAt k := Nat.pow_pos (by decide)

@[simp]
theorem unitsAt_zero : unitsAt 0 = 0 := by
  simp [unitsAt]

/-- `m` units of 2^e make a size whose magnitude has `e` above its `m`, if `m` has 53 bits. -/
theorem unitsAt_scaled {e m : Nat} (low : e = 0 ∨ 2 ^ 52 ≤ m) (high : m ≤ 2 ^ 53) :
    unitsAt (e * 2 ^ 52 + m) = m * 2 ^ e := by
  have place : (e * 2 ^ 52 + m) / 2 ^ 52 = e + m / 2 ^ 52 := by omega
  have rest : (e * 2 ^ 52 + m) % 2 ^ 52 = m % 2 ^ 52 := by omega
  rw [unitsAt, gapAt, place, rest]
  rcases Nat.lt_or_ge m (2 ^ 52) with small | large
  · obtain rfl : e = 0 := by omega
    rw [Nat.div_eq_of_lt small, Nat.mod_eq_of_lt small]
    rfl
  · rcases Nat.lt_or_eq_of_le high with short | rfl
    · have one : m / 2 ^ 52 = 1 := by omega
      have split : m % 2 ^ 52 + 2 ^ 52 = m := by omega
      rw [one, split, Nat.add_sub_cancel, if_neg (by omega)]
    · norm_num
      ring

theorem unitsAt_succ (k : Nat) : unitsAt (k + 1) = unitsAt k + gapAt k := by
  obtain ⟨e, m, low, high, rfl⟩ :
      ∃ e m, (e = 0 ∨ 2 ^ 52 ≤ m) ∧ m < 2 ^ 53 ∧ k = e * 2 ^ 52 + m := by
    rcases Nat.eq_zero_or_pos (k / 2 ^ 52) with zero | positive
    · exact ⟨0, k, .inl rfl, by omega, by omega⟩
    · exact ⟨k / 2 ^ 52 - 1, k % 2 ^ 52 + 2 ^ 52, by omega, by omega, by omega⟩
  have gap : gapAt (e * 2 ^ 52 + m) = 2 ^ e := by
    rw [gapAt]
    congr 1
    omega
  rw [gap, Nat.add_assoc, unitsAt_scaled (by omega) high, unitsAt_scaled low (by omega),
    Nat.succ_mul]

theorem unitsAt_strictMono : StrictMono unitsAt :=
  strictMono_nat_of_lt_succ fun k => by
    rw [unitsAt_succ]
    exact Nat.lt_add_of_pos_right (gapAt_pos k)

/-- Twice the point half way from a magnitude to the next. -/
def between (k : Nat) : Nat := unitsAt k + unitsAt (k + 1)

theorem between_strictMono : StrictMono between := fun _ _ less =>
  Nat.add_lt_add (unitsAt_strictMono less) (unitsAt_strictMono (Nat.succ_lt_succ less))

/-- Up to the middle of `a` and `b`, `a` is nearer than all from `b` on, unless it is as near in the
middle. -/
theorem nearer_of_half {a b c r : ℚ} (step : a < b) (order : b ≤ c) (half : 2 * r ≤ a + b) :
    |a - r| < |c - r| ∨ |a - r| = |c - r| ∧ 2 * r = a + b := by
  rw [abs_of_pos (by linarith : 0 < c - r)]
  by_cases near : |a - r| < c - r
  · exact .inl near
  · have far : c - r ≤ -(a - r) := (le_abs.mp (not_lt.mp near)).resolve_left (by linarith)
    refine .inr ⟨?_, by linarith⟩
    rw [abs_of_nonpos (by linarith)]
    linarith

/-- A size is nearest to that of a magnitude, or as near to one neighbour, and then it is even. -/
structure Rounds (r : ℚ) (k : Nat) : Prop where
  nonneg : 0 ≤ r
  above : 2 * r ≤ between k
  below (j : Nat) : j + 1 = k → between j ≤ 2 * r
  tie (j : Nat) : j = k ∨ j + 1 = k → 2 * r = between j → k % 2 = 0

namespace Rounds

variable {r : ℚ} {k l : Nat}

/-- Half a unit and less rounds to zero. -/
theorem zero_of_le (nonneg : 0 ≤ r) (half : 2 * r ≤ 1) : Rounds r 0 where
  nonneg := nonneg
  above := half.trans (by exact_mod_cast Nat.le_add_left 1 0)
  below _ impossible := absurd impossible (Nat.succ_ne_zero _)
  tie _ _ _ := rfl

/-- The size of a magnitude rounds to it. -/
theorem self (k : Nat) : Rounds (unitsAt k) k := by
  have above : unitsAt k + unitsAt k < between k :=
    Nat.add_lt_add_left (unitsAt_strictMono k.lt_succ_self) _
  have below (j : Nat) (previous : j + 1 = k) : between j < unitsAt k + unitsAt k := by
    rw [between, previous]
    exact Nat.add_lt_add_right (unitsAt_strictMono (Nat.lt_of_succ_le previous.le)) _
  have twice : 2 * (unitsAt k : ℚ) = (unitsAt k + unitsAt k : Nat) := by
    push_cast
    ring
  refine ⟨Nat.cast_nonneg _, ?_, fun j previous => ?_, fun j place middle => ?_⟩
  · exact twice ▸ Nat.cast_le.mpr above.le
  · exact twice ▸ Nat.cast_le.mpr (below j previous).le
  · have middle := Nat.cast_inj.mp (twice.symm.trans middle)
    rcases place with rfl | previous
    · exact absurd middle above.ne
    · exact absurd middle (below j previous).ne'

theorem le_of (first : Rounds r k) (second : Rounds r l) : l ≤ k := by
  by_contra more
  obtain ⟨j, rfl⟩ : ∃ j, l = j + 1 := ⟨l - 1, by omega⟩
  have bounds : (between j : ℚ) ≤ between k := (second.below j rfl).trans first.above
  obtain rfl : j = k := by
    have := between_strictMono.le_iff_le.mp (Nat.cast_le.mp bounds)
    omega
  have half : 2 * r = between j := le_antisymm first.above (second.below j rfl)
  have := first.tie j (.inl rfl) half
  have := second.tie j (.inr rfl) half
  omega

/-- A size rounds to one magnitude only. -/
theorem unique (first : Rounds r k) (second : Rounds r l) : k = l :=
  Nat.le_antisymm (second.le_of first) (first.le_of second)

/-- The number of a magnitude to which a size rounds is nearer than any other, or as near as another
if it is even. -/
theorem nearest (rounds : Rounds r k) (other : l ≠ k) :
    |(unitsAt k : ℚ) - r| < |(unitsAt l : ℚ) - r| ∨
      |(unitsAt k : ℚ) - r| = |(unitsAt l : ℚ) - r| ∧ k % 2 = 0 := by
  rcases Nat.lt_or_gt_of_ne other with less | more
  · obtain ⟨j, rfl⟩ : ∃ j, k = j + 1 := ⟨k - 1, by omega⟩
    have step : (unitsAt j : ℚ) < unitsAt (j + 1) := by exact_mod_cast unitsAt_strictMono j.lt_succ_self
    have order : (unitsAt l : ℚ) ≤ unitsAt j := by
      exact_mod_cast unitsAt_strictMono.monotone (Nat.le_of_lt_succ less)
    have half : (unitsAt j + unitsAt (j + 1) : ℚ) ≤ 2 * r := by exact_mod_cast rounds.below j rfl
    rw [abs_sub_comm _ r, abs_sub_comm _ r, ← neg_sub_neg, ← neg_sub_neg (unitsAt l : ℚ)]
    refine (nearer_of_half (neg_lt_neg step) (neg_le_neg order) (by linarith)).imp_right ?_
    refine And.imp_right fun middle => rounds.tie j (.inr rfl) ?_
    push_cast [between]
    linarith
  · have step : (unitsAt k : ℚ) < unitsAt (k + 1) := by exact_mod_cast unitsAt_strictMono k.lt_succ_self
    have order : (unitsAt (k + 1) : ℚ) ≤ unitsAt l := by
      exact_mod_cast unitsAt_strictMono.monotone (Nat.succ_le_of_lt more)
    have half : 2 * r ≤ (unitsAt k + unitsAt (k + 1) : ℚ) := by exact_mod_cast rounds.above
    refine (nearer_of_half step order half).imp_right ?_
    refine And.imp_right fun middle => rounds.tie k (.inl rfl) ?_
    exact_mod_cast middle

theorem abs_sub_le (rounds : Rounds r k) (l : Nat) : |(unitsAt k : ℚ) - r| ≤ |(unitsAt l : ℚ) - r| := by
  by_cases other : l = k
  · rw [other]
  · rcases rounds.nearest other with nearer | ⟨tie, _⟩
    · exact nearer.le
    · exact tie.le

/-- Nothing is nearer than zero among the sizes that are taken off. -/
theorem abs_sub_le_self (rounds : Rounds r k) : |(unitsAt k : ℚ) - r| ≤ r := by
  have near := rounds.abs_sub_le 0
  rwa [unitsAt_zero, Nat.cast_zero, zero_sub, abs_neg, abs_of_nonneg rounds.nonneg] at near

end Rounds

def sign (negative : Bool) : ℚ := if negative then -1 else 1

theorem sign_ne_zero (negative : Bool) : sign negative ≠ 0 := by
  cases negative <;> norm_num [sign]

theorem abs_sign_mul (negative : Bool) (a : ℚ) : |sign negative * a| = |a| := by
  cases negative <;> simp [sign]

/-- The number that a finite `Binary64` is. The one with an infinite magnitude stands for the power of
two beyond the finite ones. -/
def toRat (x : Binary64) : ℚ := sign x.isNegative * (x.units / 2 ^ 1074)

/-- A number is whole if it has no fraction. -/
theorem isWhole_iff (x : Binary64) : x.isWhole ↔ Int.fract x.toRat = 0 := by
  rw [isWhole, decide_eq_true_iff, Int.fract_eq_zero_iff, toRat]
  -- The power is not to be evaluated.
  generalize 1074 = places
  have unit : (2 : ℚ) ^ places ≠ 0 := by positivity
  rw [Nat.pow_eq]
  constructor
  · intro whole
    obtain ⟨n, multiple⟩ := Nat.dvd_of_mod_eq_zero whole
    refine ⟨(if x.isNegative then -1 else 1) * n, ?_⟩
    rw [multiple]
    push_cast
    rw [mul_div_cancel_left₀ _ unit, sign]
  · rintro ⟨n, same⟩
    have size : (x.units : ℚ) = (n.natAbs * 2 ^ places : Nat) := by
      have nonneg : 0 ≤ (x.units : ℚ) / 2 ^ places := by positivity
      rw [Nat.cast_mul, Nat.cast_natAbs, Int.cast_abs, same, abs_sign_mul, abs_of_nonneg nonneg,
        Nat.cast_pow, Nat.cast_ofNat, div_mul_cancel₀ _ unit]
    rw [Nat.cast_inj.mp size, Nat.mul_mod_left]

/-- Rounding to nearest gives a finite number for `q`, and of two that are as near the one with an even
significand. Where 2^1024 is nearer, it would give an infinity. -/
structure Nearest (q : ℚ) (x : Binary64) : Prop where
  finite : x.isFinite
  nearest (y : Binary64) : y.magnitude ≤ infiniteMagnitude → |x.toRat - q| ≤ |y.toRat - q|
  even (y : Binary64) : y.magnitude ≤ infiniteMagnitude → y.toRat ≠ x.toRat →
    |y.toRat - q| = |x.toRat - q| → x.significand % 2 = 0

theorem significand_mod_two (x : Binary64) : x.significand % 2 = x.magnitude % 2 := by
  have split : x.fractionField % 2 = x.magnitude % 2 := by
    rw [fractionField, Nat.pow_eq]
    omega
  rw [significand, Nat.pow_eq]
  split <;> omega

theorem isFinite_iff (x : Binary64) : x.isFinite ↔ x.magnitude < infiniteMagnitude := by
  rw [isFinite, decide_eq_true_iff, exponentField, infiniteMagnitude, Nat.pow_eq]
  omega

/-- A number is made of its sign and its magnitude. -/
theorem signed_magnitude (x : Binary64) : signed x.isNegative x.magnitude = x := by
  obtain ⟨bits⟩ := x
  rw [signed, isNegative, magnitude, mk.injEq, ← BitVec.toNat_inj, BitVec.toNat_ofNat, Nat.pow_eq]
  have := bits.isLt
  simp only [decide_eq_true_iff]
  split <;> omega

/-- The distance between numbers of one sign is that of their sizes; with the other sign it is no less
than from zero. -/
theorem abs_toRat_sub (y : Binary64) (negative : Bool) {r : ℚ} (nonneg : 0 ≤ r) :
    |y.toRat - sign negative * (r / 2 ^ 1074)| =
      (if y.isNegative = negative then |(y.units : ℚ) - r| else y.units + r) / 2 ^ 1074 := by
  have unit : (0 : ℚ) < 2 ^ 1074 := by positivity
  have units : (0 : ℚ) ≤ y.units := Nat.cast_nonneg _
  rw [toRat]
  generalize (2 : ℚ) ^ 1074 = u at unit ⊢
  split
  case isTrue same =>
    rw [same, ← mul_sub, abs_sign_mul, ← sub_div, abs_div, abs_of_pos unit]
  case isFalse other =>
    have opposite : sign y.isNegative = -sign negative := by
      cases negative <;> cases first : y.isNegative <;> simp_all [sign]
    rw [opposite, neg_mul, ← neg_add', abs_neg, ← mul_add, abs_sign_mul, ← add_div, abs_of_nonneg]
    positivity

/-- A finite number is nearest to what has its sign and a size that rounds to its magnitude. -/
theorem Rounds.toNearest {x : Binary64} {r : ℚ} (rounds : Rounds r x.magnitude) (finite : x.isFinite) :
    Nearest (sign x.isNegative * (r / 2 ^ 1074)) x := by
  have unit : (0 : ℚ) < 2 ^ 1074 := by positivity
  refine ⟨finite, fun y _ => ?_, fun y _ other tie => ?_⟩
  · rw [abs_toRat_sub x _ rounds.nonneg, abs_toRat_sub y _ rounds.nonneg, if_pos rfl]
    refine div_le_div_of_nonneg_right ?_ unit.le
    split
    · exact rounds.abs_sub_le y.magnitude
    · exact rounds.abs_sub_le_self.trans (le_add_of_nonneg_left (Nat.cast_nonneg _))
  · rw [abs_toRat_sub x _ rounds.nonneg, abs_toRat_sub y _ rounds.nonneg, if_pos rfl,
      div_left_inj' unit.ne'] at tie
    rw [significand_mod_two]
    split at tie
    case isTrue same =>
      have apart : y.magnitude ≠ x.magnitude := fun equal =>
        other (by rw [toRat, toRat, same, units_eq, units_eq, equal])
      rcases rounds.nearest apart with nearer | ⟨_, even⟩
      · exact absurd tie nearer.ne'
      · exact even
    case isFalse =>
      -- A number of the other sign is as near only if it is zero.
      have near : |(x.units : ℚ) - r| ≤ r := rounds.abs_sub_le_self
      have zero : (y.units : ℚ) = 0 := le_antisymm (by linarith) (Nat.cast_nonneg _)
      by_cases least : x.magnitude = 0
      · exact absurd (by simp [toRat, units_eq x, least, zero]) other
      · rcases rounds.nearest (Ne.symm least) with nearer | ⟨_, even⟩
        · rw [unitsAt_zero, Nat.cast_zero, zero_sub, abs_neg, abs_of_nonneg rounds.nonneg,
            ← units_eq] at nearer
          linarith
        · exact even

end ShaderGraph.Binary64
