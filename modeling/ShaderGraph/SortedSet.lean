/-! Finite sets kept as ascending lists, so that equal sets are equal values and every walk over a
set is in order. -/
namespace ShaderGraph

/-- Puts `a` at its place in an ascending list, unless it is there already. -/
def insertSorted [LT α] [DecidableLT α] (a : α) : List α → List α
  | [] => [a]
  | b :: rest =>
    if a < b then a :: b :: rest
    else if b < a then b :: insertSorted a rest
    else b :: rest

structure SortedSet (α : Type) [LT α] where
  toList : List α
  ascending : toList.Pairwise (· < ·)
  deriving DecidableEq, Repr

section
variable [LT α] [DecidableLT α] [LE α] [Std.IsLinearOrder α] [Std.LawfulOrderLT α]

theorem mem_insertSorted {a c : α} {list : List α} :
    c ∈ insertSorted a list ↔ c = a ∨ c ∈ list := by
  induction list with
  | nil => simp [insertSorted]
  | cons b rest ih =>
    rw [insertSorted]
    split
    · simp
    · split
      · simp only [List.mem_cons, ih]; grind
      · have same : a = b := Std.le_antisymm (Std.not_lt.mp ‹_›) (Std.not_lt.mp ‹_›)
        grind

theorem pairwise_insertSorted {a : α} {list : List α} (ascending : list.Pairwise (· < ·)) :
    (insertSorted a list).Pairwise (· < ·) := by
  induction list with
  | nil => simp [insertSorted]
  | cons b rest ih =>
    obtain ⟨least, ascending⟩ := List.pairwise_cons.mp ascending
    rw [insertSorted]
    split
    · have below : ∀ c ∈ b :: rest, a < c := by
        intro c member
        rcases List.mem_cons.mp member with rfl | member
        · assumption
        · exact Std.lt_trans ‹a < b› (least c member)
      exact List.pairwise_cons.mpr ⟨below, List.pairwise_cons.mpr ⟨least, ascending⟩⟩
    · split
      · refine List.pairwise_cons.mpr ⟨fun c member => ?_, ih ascending⟩
        rcases mem_insertSorted.mp member with rfl | member
        · assumption
        · exact least c member
      · exact List.pairwise_cons.mpr ⟨least, ascending⟩

end

namespace SortedSet

instance [LT α] : EmptyCollection (SortedSet α) := ⟨⟨[], .nil⟩⟩
instance [LT α] : Inhabited (SortedSet α) := ⟨∅⟩
instance [LT α] : Membership α (SortedSet α) := ⟨fun set a => a ∈ set.toList⟩

instance [LT α] [DecidableEq α] (a : α) (set : SortedSet α) : Decidable (a ∈ set) :=
  inferInstanceAs (Decidable (a ∈ set.toList))

variable [LT α] [DecidableLT α] [LE α] [Std.IsLinearOrder α] [Std.LawfulOrderLT α]

def insert (set : SortedSet α) (a : α) : SortedSet α :=
  ⟨insertSorted a set.toList, pairwise_insertSorted set.ascending⟩

def ofList (list : List α) : SortedSet α := list.foldl insert ∅

theorem mem_insert {set : SortedSet α} {a c : α} : c ∈ set.insert a ↔ c = a ∨ c ∈ set :=
  mem_insertSorted

end SortedSet
end ShaderGraph
