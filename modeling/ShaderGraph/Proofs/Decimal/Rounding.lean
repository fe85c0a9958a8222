import Mathlib.Algebra.Order.Field.Power
import ShaderGraph.Proofs.Decimal.Binary64

/-! Decimals are read as the numbers to which they round. -/
namespace ShaderGraph.Binary64

/-- A quotient is rounded to a whole number that is no more than a half away, and to an even one from
the middle of two. -/
theorem roundHalfEven_spec (n : Nat) {d : Nat} (positive : 0 < d) :
    |(n / d : ℚ) - roundHalfEven n d| ≤ 1 / 2 ∧
      (|(n / d : ℚ) - roundHalfEven n d| = 1 / 2 → roundHalfEven n d % 2 = 0) := by
  have divisor : (0 : ℚ) < d := Nat.cast_pos.mpr positive
  obtain ⟨f, fraction⟩ : ∃ f : ℚ, ((n % d : Nat) : ℚ) / d = f := ⟨_, rfl⟩
  have parts : (n / d : ℚ) = (n / d : Nat) + f := by
    rw [← fraction, div_eq_iff divisor.ne', add_mul, div_mul_cancel₀ _ divisor.ne']
    exact_mod_cast (Nat.div_add_mod' n d).symm
  have low : 0 ≤ f := fraction ▸ by positivity
  have high : f < 1 := by
    rw [← fraction, div_lt_one divisor]
    exact_mod_cast Nat.mod_lt n positive
  have less : 2 * (n % d) < d ↔ f < 1 / 2 := by
    rw [← fraction, div_lt_iff₀ divisor, ← Nat.cast_lt (α := ℚ), Nat.cast_mul, Nat.cast_ofNat]
    constructor <;> intro <;> linarith
  have more : d < 2 * (n % d) ↔ 1 / 2 < f := by
    rw [← fraction, lt_div_iff₀ divisor, ← Nat.cast_lt (α := ℚ), Nat.cast_mul, Nat.cast_ofNat]
    constructor <;> intro <;> linarith
  rw [roundHalfEven, parts]
  simp only [less, more]
  split
  case isTrue below =>
    rw [add_sub_cancel_left, abs_of_nonneg low]
    exact ⟨below.le, fun half => absurd half below.ne⟩
  case isFalse notBelow =>
    split
    case isTrue above =>
      rw [Nat.cast_succ, add_sub_add_left_eq_sub, abs_of_nonpos (by linarith)]
      exact ⟨by linarith, fun half => by linarith⟩
    case isFalse notAbove =>
      obtain rfl : f = 1 / 2 := by linarith
      rw [Nat.cast_add, add_sub_add_left_eq_sub]
      refine ⟨?_, fun _ => by omega⟩
      rcases Nat.mod_two_eq_zero_or_one (n / d) with even | odd
      · norm_num [even]
      · norm_num [odd]

/-- The next magnitude is at least as many units of 2^e away as `m` has behind it. -/
theorem le_unitsAt_succ {e m : Nat} (low : e = 0 ∨ 2 ^ 52 ≤ m) (high : m ≤ 2 ^ 53) :
    (m + 1) * 2 ^ e ≤ unitsAt (e * 2 ^ 52 + m + 1) := by
  rcases Nat.lt_or_eq_of_le high with short | rfl
  · rw [Nat.add_assoc, unitsAt_scaled (by omega) short]
  · have gap : gapAt (e * 2 ^ 52 + 2 ^ 53) = 2 ^ (e + 1) := by
      rw [gapAt]
      congr 1
      omega
    rw [unitsAt_succ, unitsAt_scaled low high, gap, Nat.add_mul, Nat.one_mul]
    exact Nat.add_le_add_left (Nat.pow_le_pow_right (by decide) e.le_succ) _

/-- A size of `t` units of 2^e, where `t` has 53 bits before its point, rounds as `t` does. -/
theorem Rounds.of_scaled {e m : Nat} {t : ℚ} (nonneg : 0 ≤ t) (near : |t - m| ≤ 1 / 2)
    (even : |t - m| = 1 / 2 → m % 2 = 0) (low : e = 0 ∨ 2 ^ 52 ≤ t) (high : t < 2 ^ 53) :
    Rounds (t * 2 ^ e) (e * 2 ^ 52 + m) := by
  have unit : (0 : ℚ) < 2 ^ e := by positivity
  obtain ⟨lower, upper⟩ := abs_le.mp near
  have most : m ≤ 2 ^ 53 := by
    have : (m : ℚ) < (2 ^ 53 + 1 : Nat) := by
      push_cast
      linarith
    exact Nat.le_of_lt_succ (Nat.cast_lt.mp this)
  have least : e = 0 ∨ 2 ^ 52 ≤ m := low.imp_right fun large => by
    have : ((2 ^ 52 : Nat) : ℚ) < (m + 1 : Nat) := by
      push_cast
      linarith
    exact Nat.le_of_lt_succ (Nat.cast_lt.mp this)
  have size : (unitsAt (e * 2 ^ 52 + m) : ℚ) = m * 2 ^ e := by
    exact_mod_cast unitsAt_scaled least most
  have next : (m + 1) * 2 ^ e ≤ (unitsAt (e * 2 ^ 52 + m + 1) : ℚ) := by
    exact_mod_cast le_unitsAt_succ least most
  have after : (2 * m + 1) * 2 ^ e ≤ (between (e * 2 ^ 52 + m) : ℚ) := by
    rw [between, Nat.cast_add, size]
    linarith
  -- Below the first magnitude with an exponent the gap is half as wide, but `t` is not below it.
  have before (j : Nat) (previous : j + 1 = e * 2 ^ 52 + m) :
      (between j : ℚ) = (2 * m - 1) * 2 ^ e ∨
        m = 2 ^ 52 ∧ (m : ℚ) ≤ t ∧ (between j : ℚ) ≤ 2 * m * 2 ^ e := by
    by_cases inside : e = 0 ∨ 2 ^ 52 < m
    · obtain ⟨p, rfl⟩ : ∃ p, m = p + 1 := ⟨m - 1, by omega⟩
      obtain rfl : j = e * 2 ^ 52 + p := by omega
      left
      have size' := unitsAt_scaled (e := e) (m := p) (by omega) (by omega)
      rw [between, previous, Nat.cast_add, size, size']
      push_cast
      ring
    · obtain ⟨scaled, rfl⟩ : e ≠ 0 ∧ m = 2 ^ 52 := by omega
      refine .inr ⟨rfl, by exact_mod_cast low.resolve_left scaled, ?_⟩
      have smaller := unitsAt_strictMono.monotone (Nat.le_of_lt (Nat.lt_of_succ_le previous.le))
      have smaller : (unitsAt j : ℚ) ≤ unitsAt (e * 2 ^ 52 + 2 ^ 52) := Nat.cast_le.mpr smaller
      rw [between, previous, Nat.cast_add]
      linarith
  have scale : 2 * (t * 2 ^ e) = 2 * t * 2 ^ e := (mul_assoc ..).symm
  refine ⟨by positivity, ?_, fun j previous => ?_, fun j place middle => ?_⟩
  · rw [scale]
    exact (mul_le_mul_of_nonneg_right (by linarith) unit.le).trans after
  · rw [scale]
    rcases before j previous with exact | ⟨_, reached, bound⟩
    · rw [exact]
      exact mul_le_mul_of_nonneg_right (by linarith) unit.le
    · exact bound.trans (mul_le_mul_of_nonneg_right (by linarith) unit.le)
  · have parity : (e * 2 ^ 52 + m) % 2 = m % 2 := by omega
    rw [parity]
    rw [scale] at middle
    rcases place with rfl | previous
    · have half : 2 * m + 1 ≤ 2 * t := le_of_mul_le_mul_right (middle ▸ after) unit
      refine even ((abs_of_nonneg ?_).trans ?_) <;> linarith
    · rcases before j previous with exact | ⟨rfl, _⟩
      · have half : 2 * t = 2 * m - 1 := mul_right_cancel₀ unit.ne' (middle.trans exact)
        refine even ((abs_of_nonpos ?_).trans ?_) <;> linarith
      · rfl

/-- The nearest magnitude is the one to which the quotient rounds. -/
theorem nearestMagnitude_eq {n d k : Nat} (positive : 0 < d) (rounds : Rounds (n * 2 ^ 1074 / d) k)
    (finite : k < infiniteMagnitude) : nearestMagnitude n d = k := by
  obtain ⟨s, scaled⟩ : ∃ s, n * 2 ^ 1074 = s := ⟨_, rfl⟩
  obtain ⟨e, doublings⟩ : ∃ e, (s / d).log2 + 1 - 53 = e := ⟨_, rfl⟩
  have divisor : (0 : ℚ) < d := Nat.cast_pos.mpr positive
  have unit : (0 : ℚ) < 2 ^ e := by positivity
  have size : (n * 2 ^ 1074 / d : ℚ) = s / (d * 2 ^ e : Nat) * 2 ^ e := by
    rw [← scaled, Nat.cast_mul, Nat.cast_mul, Nat.cast_pow, Nat.cast_pow, Nat.cast_ofNat]
    field_simp
  have high : s / d < 2 ^ 53 * 2 ^ e := by
    rw [← Nat.pow_add]
    exact Nat.lt_log2_self.trans_le (Nat.pow_le_pow_right (by decide) (by omega))
  have low : e = 0 ∨ 2 ^ 52 * 2 ^ e ≤ s / d := by
    rw [← Nat.pow_add]
    rcases Nat.eq_zero_or_pos e with zero | positive
    · exact .inl zero
    · have large : s / d ≠ 0 := by
        rintro none
        simp [none] at doublings
        omega
      exact .inr ((Nat.pow_le_pow_right (by decide) (by omega)).trans (Nat.log2_self_le large))
  obtain ⟨near, even⟩ := roundHalfEven_spec s (d := d * 2 ^ e) (by positivity)
  have nearest : Rounds (n * 2 ^ 1074 / d) (e * 2 ^ 52 + roundHalfEven s (d * 2 ^ e)) := by
    rw [size]
    refine .of_scaled (by positivity) near even (low.imp_right fun low => ?_) ?_
    · have bound : 2 ^ 52 * (d * 2 ^ e) ≤ s := by
        have := (Nat.le_div_iff_mul_le positive).mp low
        linarith
      rw [le_div_iff₀ (by positivity)]
      exact_mod_cast bound
    · have bound : s < 2 ^ 53 * (d * 2 ^ e) := by
        have := (Nat.div_lt_iff_lt_mul positive).mp high
        linarith
      rw [div_lt_iff₀ (by positivity)]
      exact_mod_cast bound
  have least : nearestMagnitude n d =
      min (e * 2 ^ 52 + roundHalfEven s (d * 2 ^ e)) infiniteMagnitude := by
    simp only [nearestMagnitude, Nat.pow_eq, scaled, doublings]
  rw [least, nearest.unique rounds, Nat.min_eq_left finite.le]

/-- What rounds to a finite magnitude is no more than 2^1024. -/
theorem Rounds.le_of_finite {r : ℚ} {k : Nat} (rounds : Rounds r k) (finite : k < infiniteMagnitude) :
    r ≤ 2 ^ 1024 * 2 ^ 1074 := by
  have largest : unitsAt infiniteMagnitude = 2 ^ 1024 * 2 ^ 1074 := by
    decide +kernel
  have bound : between k ≤ 2 * (2 ^ 1024 * 2 ^ 1074) := by
    rw [← largest, Nat.two_mul]
    exact Nat.add_le_add (unitsAt_strictMono.monotone finite.le) (unitsAt_strictMono.monotone finite)
  have bound : (between k : ℚ) ≤ 2 * (2 ^ 1024 * 2 ^ 1074) := by
    exact_mod_cast bound
  exact le_of_mul_le_mul_left (rounds.above.trans bound) two_pos

theorem lt_ten_pow_length (n : Nat) : n < 10 ^ (Nat.toDigits 10 n).length :=
  (Nat.length_toDigits_le_iff (by decide) Nat.length_toDigits_pos).mp le_rfl

theorem ten_pow_le {n length : Nat} (count : (Nat.toDigits 10 n).length = length + 1) (large : n ≠ 0) :
    10 ^ length ≤ n := by
  rcases Nat.eq_zero_or_pos length with rfl | positive
  · exact Nat.pos_of_ne_zero large
  · refine Nat.le_of_not_lt fun short => ?_
    have := (Nat.length_toDigits_le_iff (by decide) positive).mpr short
    omega

/-- A decimal is read as the number to whose magnitude its size rounds. -/
theorem ofDecimal_eq {negative : Bool} {digits k : Nat} {exponent : Int}
    (rounds : Rounds (digits * 10 ^ exponent * 2 ^ 1074) k) (finite : k < infiniteMagnitude) :
    ofDecimal negative digits exponent = signed negative k := by
  obtain ⟨length, count⟩ : ∃ length, (Nat.toDigits 10 digits).length = length + 1 :=
    ⟨_, (Nat.sub_add_cancel Nat.length_toDigits_pos).symm⟩
  have one : (1 : ℚ) ≤ 10 := by norm_num
  have power : (0 : ℚ) < 10 ^ exponent := by positivity
  have unit : (0 : ℚ) < 2 ^ 1074 := by positivity
  rw [ofDecimal, count]
  split
  case isTrue tiny =>
    suffices zero : Rounds (digits * 10 ^ exponent * 2 ^ 1074) 0 by
      rw [zero.unique rounds]
    refine .zero_of_le rounds.nonneg ?_
    rcases tiny with rfl | small
    · simp
    · have bound : (digits : ℚ) ≤ 10 ^ ((length + 1 : Nat) : ℤ) := by
        rw [zpow_natCast]
        exact_mod_cast (count ▸ lt_ten_pow_length digits).le
      have least : 2 * (2 ^ 1074 : ℚ) ≤ 10 ^ (331 : ℤ) := by
        exact_mod_cast (by decide +kernel : 2 * 2 ^ 1074 ≤ 10 ^ 331)
      calc
        2 * (digits * 10 ^ exponent * 2 ^ 1074 : ℚ) = digits * 10 ^ exponent * (2 * 2 ^ 1074) :=
          mul_left_comm ..
        _ ≤ 10 ^ ((length + 1 : Nat) : ℤ) * 10 ^ exponent * 10 ^ (331 : ℤ) := by gcongr
        _ = 10 ^ (((length + 1 : Nat) : ℤ) + exponent + 331) := by
          rw [zpow_add₀ (by norm_num), zpow_add₀ (by norm_num)]
        _ ≤ 1 := zpow_le_one_of_nonpos₀ one (by omega)
  case isFalse notTiny =>
    split
    case isTrue huge =>
      have bound : (10 : ℚ) ^ (length : ℤ) ≤ digits := by
        rw [zpow_natCast]
        exact_mod_cast ten_pow_le count fun zero => notTiny (.inl zero)
      have largest : (2 : ℚ) ^ 1024 < 10 ^ (330 : ℤ) := by
        exact_mod_cast (by decide +kernel : 2 ^ 1024 < 10 ^ 330)
      have small : digits * 10 ^ exponent ≤ (2 ^ 1024 : ℚ) :=
        le_of_mul_le_mul_right (rounds.le_of_finite finite) unit
      have large : (10 : ℚ) ^ (330 : ℤ) ≤ digits * 10 ^ exponent :=
        calc
          (10 : ℚ) ^ (330 : ℤ) ≤ 10 ^ ((length : ℤ) + exponent) := zpow_le_zpow_right₀ one (by omega)
          _ = 10 ^ (length : ℤ) * 10 ^ exponent := zpow_add₀ (by norm_num) ..
          _ ≤ digits * 10 ^ exponent := by gcongr
      exact absurd (large.trans small) (not_le.mpr largest)
    case isFalse =>
      have quotient : (10 : ℚ) ^ exponent = 10 ^ exponent.toNat / 10 ^ (-exponent).toNat := by
        rw [← zpow_natCast, ← zpow_natCast, ← zpow_sub₀ (by norm_num), Int.toNat_sub_toNat_neg]
      refine congrArg (signed negative) (nearestMagnitude_eq (Nat.pow_pos (by decide)) ?_ finite)
      convert rounds using 1
      rw [quotient, Nat.pow_eq, Nat.pow_eq]
      push_cast
      rw [mul_div_assoc', div_mul_eq_mul_div]

end ShaderGraph.Binary64
