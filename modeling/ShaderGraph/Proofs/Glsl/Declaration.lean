import ShaderGraph.Glsl.Declaration

/-! Sets of declarations that are extended or filtered. A declaration has the place at which it was
first put into a set, and it makes no difference whether it is filtered before or after. -/
namespace ShaderGraph

theorem eraseDups_append_cons_of_mem [BEq α] [LawfulBEq α] {seen rest : List α} {a : α}
    (present : a ∈ seen) : (seen ++ a :: rest).eraseDups = (seen ++ rest).eraseDups := by
  rw [List.eraseDups_append, List.eraseDups_append]
  simp [List.removeAll, present]

theorem eraseDups_append_singleton_of_not_mem [BEq α] [LawfulBEq α] {seen : List α} {a : α}
    (absent : a ∉ seen) : (seen ++ [a]).eraseDups = seen.eraseDups ++ [a] := by
  rw [List.eraseDups_append]
  simp [List.removeAll, absent, List.eraseDups_cons]

namespace DeclarationSet

variable (keep : Declaration → Bool)

def filter (set : DeclarationSet) : DeclarationSet :=
  ⟨set.toList.filter keep, set.nodup.filter keep⟩

theorem insert_of_mem {set : DeclarationSet} {d : Declaration} (present : d ∈ set.toList) :
    set.insert d = set := by
  simp [insert, tryInsert, present]

theorem toList_insert_of_not_mem {set : DeclarationSet} {d : Declaration}
    (absent : d ∉ set.toList) : (set.insert d).toList = set.toList ++ [d] := by
  simp [insert, tryInsert, absent]

theorem eq_of_toList_eq {a b : DeclarationSet} (same : a.toList = b.toList) : a = b := by
  obtain ⟨list, _⟩ := a
  obtain ⟨_, _⟩ := b
  obtain rfl : list = _ := same
  rfl

theorem eraseDups_of_nodup {declarations : List Declaration} (distinct : declarations.Nodup) :
    declarations.eraseDups = declarations := by
  induction declarations with
  | nil => rfl
  | cons d rest ih =>
    obtain ⟨apart, distinct⟩ := List.nodup_cons.mp distinct
    have others : rest.filter (fun other => !other == d) = rest := by
      rw [List.filter_eq_self]
      rintro other member
      simpa using fun same : other = d => apart (same ▸ member)
    rw [List.eraseDups_cons, others, ih distinct]

/-- Declarations are put behind those of a set in their order, and each is put there once. -/
theorem toList_extend (set : DeclarationSet) (more : List Declaration) :
    (set.extend more).toList = (set.toList ++ more).eraseDups := by
  induction more generalizing set with
  | nil =>
    rw [List.append_nil, eraseDups_of_nodup set.nodup]
    rfl
  | cons d rest ih =>
    rw [extend, List.foldl_cons, ← extend, ih]
    by_cases present : d ∈ set.toList
    · rw [insert_of_mem present, eraseDups_append_cons_of_mem present]
    · rw [toList_insert_of_not_mem present, List.append_assoc, List.singleton_append]

theorem toList_ofList (declarations : List Declaration) :
    (ofList declarations).toList = declarations.eraseDups :=
  toList_extend ∅ declarations

theorem extend_extend (set : DeclarationSet) (first second : List Declaration) :
    (set.extend first).extend second = set.extend (first ++ second) :=
  (List.foldl_append ..).symm

theorem filter_insert_of_keep (set : DeclarationSet) {d : Declaration} (kept : keep d = true) :
    (set.insert d).filter keep = (set.filter keep).insert d := by
  have mem_iff : d ∈ (set.filter keep).toList ↔ d ∈ set.toList := by simp [filter, kept]
  by_cases present : d ∈ set.toList
  · rw [insert_of_mem present, insert_of_mem (mem_iff.mpr present)]
  · apply eq_of_toList_eq
    rw [toList_insert_of_not_mem (mt mem_iff.mp present)]
    simp [filter, toList_insert_of_not_mem present, kept]

theorem filter_insert_of_drop (set : DeclarationSet) {d : Declaration} (dropped : keep d = false) :
    (set.insert d).filter keep = set.filter keep := by
  by_cases present : d ∈ set.toList
  · rw [insert_of_mem present]
  · apply eq_of_toList_eq
    simp [filter, toList_insert_of_not_mem present, dropped]

theorem filter_extend (set : DeclarationSet) (more : List Declaration) :
    (set.extend more).filter keep = (set.filter keep).extend (more.filter keep) := by
  induction more generalizing set with
  | nil => rfl
  | cons d rest ih =>
    rw [extend, List.foldl_cons, ← extend, ih]
    cases kept : keep d with
    | false => rw [filter_insert_of_drop keep set kept, List.filter_cons_of_neg (by simp [kept])]
    | true =>
      rw [filter_insert_of_keep keep set kept, List.filter_cons_of_pos kept]
      rfl

theorem filter_ofList (declarations : List Declaration) :
    (ofList declarations).filter keep = ofList (declarations.filter keep) :=
  filter_extend keep ∅ declarations

end DeclarationSet
end ShaderGraph
