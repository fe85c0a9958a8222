import ShaderGraph.SortedSet

/-! Sorted sets as predicates on their members. -/
namespace ShaderGraph.SortedSet

theorem nodup [LT α] [LE α] [Std.LawfulOrderLT α] (set : SortedSet α) : set.toList.Nodup :=
  set.ascending.imp fun less => Std.ne_of_lt less

/-- A set is told by its members. -/
theorem eq_of_mem_iff [LT α] [LE α] [Std.IsLinearOrder α] [Std.LawfulOrderLT α]
    {first second : SortedSet α} (same : ∀ a, a ∈ first ↔ a ∈ second) : first = second := by
  have perm : first.toList.Perm second.toList :=
    (List.perm_ext_iff_of_nodup first.nodup second.nodup).mpr same
  obtain ⟨list, ascending⟩ := first
  obtain ⟨other, ascends⟩ := second
  obtain rfl : list = other := by
    refine perm.eq_of_pairwise (fun a b _ _ below above => ?_) ascending ascends
    exact absurd (Std.lt_trans below above) Std.lt_irrefl
  rfl

variable [LT α] [DecidableLT α] [LE α] [Std.IsLinearOrder α] [Std.LawfulOrderLT α]

/-- An item that is not in a list is put between two of its parts. -/
theorem exists_split_insertSorted {list : List α} {a : α} (absent : a ∉ list) :
    ∃ front back, list = front ++ back ∧ insertSorted a list = front ++ a :: back := by
  induction list with
  | nil => exact ⟨[], [], rfl, rfl⟩
  | cons b rest ih =>
    obtain ⟨apart, absent⟩ := List.ne_and_not_mem_of_not_mem_cons absent
    rw [insertSorted]
    split
    · exact ⟨[], b :: rest, rfl, rfl⟩
    · split
      · obtain ⟨front, back, rfl, placed⟩ := ih absent
        exact ⟨b :: front, back, rfl, by rw [placed, List.cons_append]⟩
      · exact absurd (Std.le_antisymm (Std.not_lt.mp ‹_›) (Std.not_lt.mp ‹_›)) apart

theorem mem_foldl_insert {list : List α} {set : SortedSet α} {a : α} :
    a ∈ list.foldl insert set ↔ a ∈ list ∨ a ∈ set := by
  induction list generalizing set with
  | nil => simp
  | cons b rest ih => rw [List.foldl_cons, ih, mem_insert, List.mem_cons]; grind

@[simp] theorem mem_ofList {list : List α} {a : α} : a ∈ ofList list ↔ a ∈ list := by
  rw [ofList, mem_foldl_insert]
  exact or_iff_left List.not_mem_nil

theorem ofList_eq_of_perm {first second : List α} (perm : first.Perm second) :
    ofList first = ofList second :=
  eq_of_mem_iff fun a => by rw [mem_ofList, mem_ofList, perm.mem_iff]

end ShaderGraph.SortedSet
