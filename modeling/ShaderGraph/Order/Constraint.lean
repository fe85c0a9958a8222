import ShaderGraph.SortedSet

/-! Precedence constraints between nodes, which are known by the number of their declaration. -/
namespace ShaderGraph

structure Constraint where
  before : Nat
  after : Nat
  deriving DecidableEq, Repr

namespace Constraint

/-- Constraints are ordered by the first node, then by the second. -/
instance : LE Constraint :=
  ⟨fun a b => a.before < b.before ∨ a.before = b.before ∧ a.after ≤ b.after⟩

instance : LT Constraint :=
  ⟨fun a b => a.before < b.before ∨ a.before = b.before ∧ a.after < b.after⟩

theorem le_iff {a b : Constraint} :
    a ≤ b ↔ a.before < b.before ∨ a.before = b.before ∧ a.after ≤ b.after := .rfl

theorem lt_iff {a b : Constraint} :
    a < b ↔ a.before < b.before ∨ a.before = b.before ∧ a.after < b.after := .rfl

instance : DecidableLT Constraint := fun a b => decidable_of_iff _ (lt_iff (a := a) (b := b)).symm

instance : Std.IsLinearOrder Constraint where
  le_refl a := by simp [le_iff]
  le_trans a b c := by simp only [le_iff]; omega
  le_antisymm a b ab ba := by
    obtain ⟨x, y⟩ := a
    obtain ⟨z, w⟩ := b
    simp only [le_iff] at ab ba
    simp only [mk.injEq]
    omega
  le_total a b := by simp only [le_iff]; omega

instance : Std.LawfulOrderLT Constraint where
  lt_iff a b := by simp only [le_iff, lt_iff]; omega

end Constraint

abbrev Constraints := SortedSet Constraint

namespace Constraints

def successors (constraints : Constraints) (id : Nat) : List Nat :=
  constraints.toList.filterMap fun c => if c.before = id then some c.after else none

def predecessors (constraints : Constraints) (id : Nat) : List Nat :=
  constraints.toList.filterMap fun c => if c.after = id then some c.before else none

def endpoints (constraints : Constraints) : SortedSet Nat :=
  .ofList (constraints.toList.flatMap fun c => [c.before, c.after])

end Constraints
end ShaderGraph
