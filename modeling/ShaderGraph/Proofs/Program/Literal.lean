import ShaderGraph.Proofs.Program.Feed
import ShaderGraph.Proofs.Yaml.Scalar

/-! Numbers in overrides keep their value and their kind: what is written of one denotes it, and is read
back as the same. -/
namespace ShaderGraph

open Yaml

namespace Yaml.Number

def Ordinary : Number → Prop
  | int n => -2 ^ 63 ≤ n ∧ n < 2 ^ 64
  | float x => x.isFinite

/-- How a number is spelled. An integer has its digits without needless zeros. A finite float has a
point with digits on both sides, which are exact if it has no fraction and otherwise round to it. -/
inductive Spelled : Number → String → Prop
  | int {n : Int} {digits : Digits} (canonical : digits.Canonical) (value : digits.value = n.natAbs) :
      Spelled (int n) (signText (n < 0) ++ digits.text)
  | float {x : Binary64} {t : PointedText} (sign : t.negative = x.isNegative)
      (exact : Int.fract x.toRat = 0 → t.value = x.toRat) (nearest : x.Nearest t.value) :
      Spelled (float x) t.text

theorem spelled_literal {n : Number} (ordinary : n.Ordinary) : n.Spelled n.literal := by
  cases n with
  | int n =>
    rw [literal, toString_int]
    exact .int (Digits.canonical_ofNat _) (Digits.value_ofNat _)
  | float x =>
    rw [literal, Binary64.exact_eq_text ordinary]
    exact .float x.negative_pointed
      (fun whole => Binary64.value_pointed_of_isWhole (x.isWhole_iff.mpr whole))
      (Binary64.nearest_pointed ordinary)

theorem resolve_literal {n : Number} (ordinary : n.Ordinary) :
    Scalar.resolve n.literal = .ok (.number n) := by
  cases n with
  | int n => exact Scalar.resolve_toString ordinary.1 ordinary.2
  | float x => exact Scalar.resolve_exact ordinary

/-- Numbers with one literal are one number, and of one kind. -/
theorem eq_of_literal_eq {n m : Number} (first : n.Ordinary) (second : m.Ordinary)
    (same : n.literal = m.literal) : n = m := by
  have read := resolve_literal first
  rw [same, resolve_literal second] at read
  exact (Value.number.inj (Except.ok.inj read)).symm

def signed? : Number → Option Int
  | int n => if -2 ^ 63 ≤ n ∧ n < 2 ^ 63 then some n else none
  | float _ => none

def unsigned? : Number → Option Nat
  | int n => if 0 ≤ n ∧ n < 2 ^ 64 then some n.toNat else none
  | float _ => none

def float? : Number → Option Binary64
  | int n => some (.ofDecimal (n < 0) n.natAbs 0)
  | float x => some x

/-- The literal of the first accessor that gives something. -/
def accessed? (n : Number) : Option String :=
  n.signed?.map toString <|> n.unsigned?.map toString <|> n.float?.map Binary64.exact

/-- Integers are not accessed as floats, however large they are. -/
theorem accessed?_eq {n : Number} (ordinary : n.Ordinary) : n.accessed? = some n.literal := by
  cases n with
  | float x => rfl
  | int n =>
    obtain ⟨low, high⟩ := ordinary
    by_cases small : n < 2 ^ 63
    · rw [accessed?, signed?, if_pos ⟨low, small⟩]
      rfl
    · have large : ¬(-2 ^ 63 ≤ n ∧ n < 2 ^ 63) := fun held => small held.2
      have nonneg : 0 ≤ n := by omega
      rw [accessed?, signed?, if_neg large, unsigned?, if_pos ⟨nonneg, high⟩, literal]
      obtain ⟨m, rfl⟩ := Int.eq_ofNat_of_zero_le nonneg
      rfl

end Yaml.Number

theorem mapM_numberLiteral?_map (numbers : List Number) :
    (numbers.map Value.number).mapM numberLiteral? = some (numbers.map Number.literal) := by
  induction numbers with
  | nil => rfl
  | cons n rest ih =>
    rw [List.map_cons, List.mapM_cons, ih]
    rfl

/-- An integer of 64 bits and a finite float are spelled as they are, whichever accessor gives them, and
read back as the same number. A list of numbers is spelled in order, and no other list is. -/
theorem override_numbers_exact :
    (∀ n : Number, n.Ordinary → n.accessed? = some n.literal ∧ n.Spelled n.literal ∧
      Scalar.resolve n.literal = .ok (.number n)) ∧
    (∀ (n : Int) (x : Binary64), (Number.int n).Ordinary → x.isFinite →
      (Number.int n).literal ≠ (Number.float x).literal) ∧
    (∀ (type : String) (n : Number), overrideLiteral? type (.number n) = some n.literal) ∧
    (∀ (type : String) (numbers : List Number),
      overrideLiteral? type (.sequence (numbers.map .number)) =
        some (type ++ "(" ++ ", ".intercalate (numbers.map Number.literal) ++ ")")) ∧
    ∀ (type : String) (items : List Value), (∃ item ∈ items, ∀ n, item ≠ .number n) →
      overrideLiteral? type (.sequence items) = none := by
  refine ⟨fun n ordinary => ⟨Number.accessed?_eq ordinary, Number.spelled_literal ordinary,
    Number.resolve_literal ordinary⟩, fun n x ordinary finite same => ?_, fun _ _ => rfl,
    fun type numbers => ?_, fun type items ⟨item, held, other⟩ => ?_⟩
  · exact nomatch Number.eq_of_literal_eq ordinary (m := .float x) finite same
  · rw [overrideLiteral?, mapM_numberLiteral?_map]
    rfl
  · rw [overrideLiteral?, Option.map_eq_none_iff, mapM_numberLiteral?_eq_none]
    intro numbers
    obtain ⟨n, number⟩ := numbers item held
    exact other n number

/-- The largest integer, the negative zero and the smallest float are spelled as they are, and a text
among numbers is refused. -/
theorem extreme_numbers_exact :
    Number.Spelled (.int (2 ^ 64 - 1)) "18446744073709551615" ∧
    Scalar.resolve (Number.int (-2 ^ 63)).literal = .ok (.number (.int (-2 ^ 63))) ∧
    Number.Spelled (.float ⟨0x8000000000000000⟩) "-0.0" ∧
    Scalar.resolve (Number.float ⟨1⟩).literal = .ok (.number (.float ⟨1⟩)) ∧
    (Number.int 0).literal ≠ (Number.float ⟨0⟩).literal ∧
    overrideLiteral? "vec2" (.sequence [.number (.int 1), .string "a"]) = none := by
  obtain ⟨spelled, apart, _, _, refused⟩ := override_numbers_exact
  have largest : (Number.int (2 ^ 64 - 1)).literal = "18446744073709551615" := by decide +kernel
  have zero : (Number.float ⟨0x8000000000000000⟩).literal = "-0.0" := by decide +kernel
  refine ⟨?_, (spelled (.int (-2 ^ 63)) ⟨le_rfl, by decide⟩).2.2, ?_,
    (spelled (.float ⟨1⟩) (by decide : Binary64.isFinite ⟨1⟩)).2.2,
    apart 0 ⟨0⟩ ⟨by decide, by decide⟩ (by decide),
    refused _ _ ⟨.string "a", by simp, nofun⟩⟩
  · exact largest ▸ (spelled (.int (2 ^ 64 - 1)) ⟨by decide, by decide⟩).2.1
  · exact zero ▸ (spelled (.float ⟨0x8000000000000000⟩)
      (by decide : Binary64.isFinite ⟨0x8000000000000000⟩)).2.1

end ShaderGraph
