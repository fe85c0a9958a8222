import Mathlib.Data.List.Nodup
import Mathlib.Logic.Relation
import ShaderGraph.Order.Constraint
import ShaderGraph.Proofs.SortedSet

/-! Constraints as a relation between nodes, and what it is for an order to meet them. -/
namespace ShaderGraph

def Precedes (order : List α) (a b : α) : Prop := [a, b].Sublist order

theorem precedes_iff {order : List α} :
    Precedes order a b ↔ ∃ front back, order = front ++ back ∧ a ∈ front ∧ b ∈ back := by
  simp only [Precedes, List.cons_sublist_iff]
  constructor
  · rintro ⟨front, back, split, left, right, rest, same, member, _⟩
    exact ⟨front, back, split, left, same ▸ List.mem_append_left _ member⟩
  · rintro ⟨front, back, split, left, right⟩
    exact ⟨front, back, split, left, back, [], by simp, right, List.nil_sublist _⟩

namespace Precedes

theorem of_sublist {order longer : List α} (before : Precedes order a b)
    (within : order.Sublist longer) : Precedes longer a b :=
  before.trans within

theorem of_mem_append {front back : List α} (left : a ∈ front) (right : b ∈ back) :
    Precedes (front ++ back) a b :=
  precedes_iff.mpr ⟨front, back, rfl, left, right⟩

theorem filterMap {order : List α} (f : α → Option β) (before : Precedes order a b)
    (left : f a = some c) (right : f b = some d) : Precedes (order.filterMap f) c d := by
  have kept := List.Sublist.filterMap f before
  simpa only [Precedes, List.filterMap_cons, List.filterMap_nil, left, right] using kept

theorem filter {order : List α} {keep : α → Bool} (before : Precedes order a b)
    (left : keep a) (right : keep b) : Precedes (order.filter keep) a b := by
  have kept := List.Sublist.filter keep before
  simpa only [Precedes, List.filter_cons, List.filter_nil, left, right, if_true] using kept

theorem map {order : List α} (before : Precedes order a b) (f : α → β) :
    Precedes (order.map f) (f a) (f b) :=
  List.Sublist.map f before

theorem idxOf_lt [DecidableEq α] {order : List α} (unique : order.Nodup)
    (before : Precedes order a b) : order.idxOf a < order.idxOf b := by
  obtain ⟨front, back, rfl, left, right⟩ := precedes_iff.mp before
  have apart : b ∉ front := fun member => List.disjoint_of_nodup_append unique member right
  have first : front.idxOf a < front.length := List.idxOf_lt_length_of_mem left
  rw [List.idxOf_append_of_mem left, List.idxOf_append_of_notMem apart]
  omega

/-- What stands before an item of a list without repetitions stands in front of its only place. -/
theorem mem_front {front back : List α} (unique : (front ++ b :: back).Nodup)
    (before : Precedes (front ++ b :: back) a b) : a ∈ front := by
  classical
  have less := before.idxOf_lt unique
  have absent : b ∉ front := fun member =>
    List.disjoint_of_nodup_append unique member List.mem_cons_self
  rw [List.idxOf_append_of_notMem absent, List.idxOf_cons_self] at less
  by_contra other
  rw [List.idxOf_append_of_notMem other] at less
  omega

end Precedes

namespace Constraints

def Requires (constraints : Constraints) (a b : Nat) : Prop :=
  (⟨a, b⟩ : Constraint) ∈ constraints

instance (constraints : Constraints) (a b : Nat) : Decidable (constraints.Requires a b) :=
  inferInstanceAs (Decidable ((⟨a, b⟩ : Constraint) ∈ constraints))

def Cyclic (constraints : Constraints) : Prop :=
  ∃ id, Relation.TransGen constraints.Requires id id

variable {constraints : Constraints} {a b id : Nat}

theorem mem_successors : b ∈ constraints.successors a ↔ constraints.Requires a b := by
  simp only [successors, List.mem_filterMap, Option.ite_none_right_eq_some, Option.some.injEq]
  constructor
  · rintro ⟨c, member, rfl, rfl⟩
    exact member
  · exact fun required => ⟨⟨a, b⟩, required, rfl, rfl⟩

theorem mem_predecessors : a ∈ constraints.predecessors b ↔ constraints.Requires a b := by
  simp only [predecessors, List.mem_filterMap, Option.ite_none_right_eq_some, Option.some.injEq]
  constructor
  · rintro ⟨c, member, rfl, rfl⟩
    exact member
  · exact fun required => ⟨⟨a, b⟩, required, rfl, rfl⟩

theorem successors_nodup : (constraints.successors a).Nodup := by
  apply List.Nodup.filterMap _ constraints.nodup
  rintro ⟨_, _⟩ ⟨_, _⟩ node left right
  simp only [Option.mem_def, Option.ite_none_right_eq_some, Option.some.injEq] at left right
  simp [left, right]

theorem predecessors_nodup : (constraints.predecessors a).Nodup := by
  apply List.Nodup.filterMap _ constraints.nodup
  rintro ⟨_, _⟩ ⟨_, _⟩ node left right
  simp only [Option.mem_def, Option.ite_none_right_eq_some, Option.some.injEq] at left right
  simp [left, right]

theorem mem_endpoints :
    id ∈ constraints.endpoints ↔ ∃ c ∈ constraints, id = c.before ∨ id = c.after := by
  simp only [endpoints, SortedSet.mem_ofList, List.mem_flatMap, List.mem_cons, List.not_mem_nil,
    or_false]
  rfl

theorem Requires.left_mem (required : constraints.Requires a b) : a ∈ constraints.endpoints :=
  mem_endpoints.mpr ⟨_, required, .inl rfl⟩

theorem Requires.right_mem (required : constraints.Requires a b) : b ∈ constraints.endpoints :=
  mem_endpoints.mpr ⟨_, required, .inr rfl⟩

/-- Where an order meets all constraints, no node comes before itself. -/
theorem not_cyclic_of_order {order : List Nat} (unique : order.Nodup)
    (met : ∀ a b, constraints.Requires a b → Precedes order a b) : ¬constraints.Cyclic := by
  rintro ⟨id, around⟩
  have ascends := around.lift (p := (· < ·)) order.idxOf fun a b required =>
    (met a b required).idxOf_lt unique
  rw [Relation.transGen_eq_self] at ascends
  exact Nat.lt_irrefl _ ascends

end Constraints
end ShaderGraph
