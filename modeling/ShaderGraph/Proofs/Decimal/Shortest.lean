import Mathlib.Algebra.Order.Field.Power
import ShaderGraph.Decimal.Shortest
import ShaderGraph.Proofs.Decimal.Binary64

/-! The decimal that is found for a finite number rounds to it. -/
namespace ShaderGraph

open Binary64

namespace RoundingInterval

theorem ofBinary64_high (x : Binary64) : (ofBinary64 x).high = 2 * between x.magnitude := by
  change 4 * unitsAt x.magnitude + 2 * gapAt x.magnitude = _
  rw [between, unitsAt_succ]
  omega

/-- The gap below a number is half as wide as the one above where the exponent changes. -/
theorem below_eq {x : Binary64} {j : Nat} (previous : j + 1 = x.magnitude) :
    (if x.significand = Nat.pow 2 52 ∧ 1 < x.exponentField then gapAt x.magnitude
      else 2 * gapAt x.magnitude) = 2 * gapAt j := by
  have first : x.significand = Nat.pow 2 52 ∧ 1 < x.exponentField ↔
      (j + 1) % 2 ^ 52 = 0 ∧ 1 < (j + 1) / 2 ^ 52 := by
    rw [significand, exponentField, fractionField, ← previous, Nat.pow_eq]
    split <;> omega
  rw [← previous]
  simp only [first, gapAt]
  split
  · rw [← Nat.pow_succ']
    congr 1
    omega
  · congr 2
    omega

theorem ofBinary64_low {x : Binary64} {j : Nat} (previous : j + 1 = x.magnitude) :
    (ofBinary64 x).low = 2 * between j := by
  have below := below_eq previous
  change 4 * unitsAt x.magnitude - (if _ then gapAt x.magnitude else 2 * gapAt x.magnitude) = _
  rw [below, ← previous, between, unitsAt_succ]
  omega

theorem ofBinary64_closed (x : Binary64) : (ofBinary64 x).closed = (x.magnitude % 2 = 0 : Bool) := by
  rw [← significand_mod_two]
  rfl

/-- What an interval contains is between its ends, and at an end only if it is closed. -/
theorem contains_bounds {i : RoundingInterval} {scaled : Nat} (held : i.contains scaled) :
    ∃ scale : Nat, (scale : ℚ) = 10 ^ 1074 ∧ i.low * scale ≤ scaled ∧ scaled ≤ i.high * scale ∧
      (scaled = i.low * scale ∨ scaled = i.high * scale → i.closed) := by
  -- The power is not to be evaluated.
  rw [contains] at held
  generalize 1074 = places at held ⊢
  refine ⟨Nat.pow 10 places, Nat.cast_pow 10 places, ?_⟩
  generalize Nat.pow 10 places = scale at held ⊢
  split at held
  case isTrue closed =>
    rw [Bool.and_eq_true, decide_eq_true_iff, decide_eq_true_iff] at held
    exact ⟨held.1, held.2, fun _ => closed⟩
  case isFalse =>
    rw [Bool.and_eq_true, decide_eq_true_iff, decide_eq_true_iff] at held
    exact ⟨held.1.le, held.2.le, by omega⟩

/-- A size whose quarters, scaled by `t`, are in the interval of a number rounds to it. -/
theorem rounds_of_bounds {x : Binary64} {scaled t : Nat} {r : ℚ} (nonneg : 0 ≤ r) (scale : (0 : ℚ) < t)
    (quarters : (scaled : ℚ) = 4 * r * t)
    (bounds : (ofBinary64 x).low * t ≤ scaled ∧ scaled ≤ (ofBinary64 x).high * t ∧
      (scaled = (ofBinary64 x).low * t ∨ scaled = (ofBinary64 x).high * t → (ofBinary64 x).closed)) :
    Rounds r x.magnitude := by
  obtain ⟨low, high, ends⟩ := bounds
  have reach {b : Nat} (middle : 2 * r = b) : scaled = 2 * b * t := by
    rw [← Nat.cast_inj (R := ℚ), quarters]
    push_cast
    rw [← middle]
    ring
  rw [ofBinary64_high] at high ends
  rw [ofBinary64_closed, decide_eq_true_iff] at ends
  refine ⟨nonneg, ?_, fun j previous => ?_, fun j place middle => ?_⟩
  · have high : 4 * r * t ≤ 2 * between x.magnitude * t := by
      rw [← quarters]
      exact_mod_cast high
    linarith [le_of_mul_le_mul_right high scale]
  · rw [ofBinary64_low previous] at low
    have low : 2 * between j * t ≤ 4 * r * t := by
      rw [← quarters]
      exact_mod_cast low
    linarith [le_of_mul_le_mul_right low scale]
  · rcases place with rfl | previous
    · exact ends (.inr (reach middle))
    · rw [ofBinary64_low previous] at ends
      exact ends (.inl (reach middle))

/-- The steps of a grid count quarters of a unit. -/
theorem cast_gridStep (n : Nat) : (gridStep n : ℚ) = 10 ^ n * (4 * 2 ^ 1074) := by
  obtain ⟨places, fixed⟩ : ∃ places, places = 1074 := ⟨_, rfl⟩
  rw [gridStep, show 1076 = places + 2 by omega, ← fixed, Nat.pow_eq, Nat.pow_eq, pow_add]
  push_cast
  ring

/-- The decimals in the interval of a number round to it. -/
theorem rounds_of_contains {x : Binary64} {digits n : Nat}
    (held : (ofBinary64 x).contains (digits * gridStep n)) :
    Rounds (digits * 10 ^ ((n : ℤ) - 1074) * 2 ^ 1074) x.magnitude := by
  have shifted (places : Nat) : (10 : ℚ) ^ ((n : ℤ) - places) * 10 ^ places = 10 ^ n := by
    rw [← zpow_natCast, ← zpow_natCast, ← zpow_add₀ (by norm_num), sub_add_cancel]
  have nonneg : (0 : ℚ) ≤ digits * 10 ^ ((n : ℤ) - 1074) * 2 ^ 1074 := by positivity
  have positive : (0 : ℚ) < 10 ^ 1074 := by positivity
  obtain ⟨t, scale, bounds⟩ := contains_bounds held
  refine rounds_of_bounds nonneg (scale ▸ positive) ?_ bounds
  rw [Nat.cast_mul, cast_gridStep, scale, ← shifted 1074]
  generalize (10 : ℚ) ^ 1074 = ten
  generalize (2 : ℚ) ^ 1074 = two
  push_cast
  ring

/-- The point that is taken of a grid is in the interval. -/
theorem contains_gridPoint? {i : RoundingInterval} {tie : Tie} {n digits : Nat}
    (found : i.gridPoint? tie n = some digits) : i.contains (digits * gridStep n) := by
  simp only [gridPoint?] at found
  generalize i.value * Nat.pow 10 1074 / gridStep n = below at found
  split at found
  · contradiction
  case _ here _ => rw [← Option.some.inj found, here]
  case _ next => rw [← Option.some.inj found, next]
  case _ here next =>
    split at found
    · rw [← Option.some.inj found, here]
    · split at found
      · rw [← Option.some.inj found, next]
      · cases tie with
        | up => rw [← Option.some.inj found, next]
        | even =>
          rw [← Option.some.inj found]
          rcases Nat.mod_two_eq_zero_or_one below with even | odd
          · rw [even, Nat.add_zero, here]
          · rw [odd, next]

/-- The value of a number other than zero is inside its interval. -/
theorem contains_value {x : Binary64} (large : x.units ≠ 0) :
    (ofBinary64 x).contains ((ofBinary64 x).value * Nat.pow 10 1074) := by
  have unit : 0 < Nat.pow 2 x.shift := Nat.pow_pos (by decide)
  have low : (ofBinary64 x).low < (ofBinary64 x).value := by
    refine Nat.sub_lt (Nat.mul_pos (by decide) (Nat.pos_of_ne_zero large)) ?_
    split
    · exact unit
    · exact Nat.mul_pos two_pos unit
  have high : (ofBinary64 x).value < (ofBinary64 x).high :=
    Nat.lt_add_of_pos_right (Nat.mul_pos two_pos unit)
  rw [contains]
  generalize 1074 = places
  simp [low, high, low.le, high.le]

/-- The finest grid has the value of every number. -/
theorem gridStep_zero_dvd (x : Binary64) :
    gridStep 0 ∣ (ofBinary64 x).value * Nat.pow 10 1074 := by
  obtain ⟨places, fixed⟩ : ∃ places, places = 1074 := ⟨_, rfl⟩
  have split : 4 * x.units * Nat.pow 10 places = Nat.pow 2 (places + 2) * (5 ^ places * x.units) := by
    rw [Nat.pow_eq, Nat.pow_eq, show 10 = 2 * 5 from rfl, Nat.mul_pow, Nat.pow_add]
    ring
  rw [gridStep, show 1076 = places + 2 by omega, ← fixed]
  exact ⟨_, split.trans (congrArg (· * _) (Nat.one_mul _).symm)⟩

/-- The decimal that is found from any grid on is in the interval. -/
theorem contains_coarsest {x : Binary64} (large : x.units ≠ 0) (tie : Tie) (n : Nat) :
    ∃ m : Nat, ((ofBinary64 x).coarsest tie n).exponent = m - 1074 ∧
      (ofBinary64 x).contains (((ofBinary64 x).coarsest tie n).digits * gridStep m) := by
  induction n with
  | zero =>
    refine ⟨0, rfl, ?_⟩
    rw [coarsest, Nat.div_mul_cancel (gridStep_zero_dvd x)]
    exact contains_value large
  | succ n ih =>
    rw [coarsest]
    split
    case _ digits found => exact ⟨n + 1, by push_cast; rfl, contains_gridPoint? found⟩
    case _ => exact ih

end RoundingInterval

/-- The shortest decimal of a number rounds to it. -/
theorem Binary64.rounds_shortest (x : Binary64) (tie : Tie) :
    Rounds ((x.shortest tie).digits * 10 ^ (x.shortest tie).exponent * 2 ^ 1074) x.magnitude := by
  rw [shortest]
  split
  case isTrue none =>
    have least : x.magnitude = 0 := unitsAt_strictMono.injective (none.trans unitsAt_zero.symm)
    rw [least]
    exact .zero_of_le (by simp) (by simp)
  case isFalse large =>
    obtain ⟨m, exponent, held⟩ := RoundingInterval.contains_coarsest large tie _
    rw [exponent]
    exact RoundingInterval.rounds_of_contains held

end ShaderGraph
