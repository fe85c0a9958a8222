import ShaderGraph.Table

/-! Tables as partial functions from keys to values. What an operation does to a table is said by
what the keys hold afterwards. -/
namespace ShaderGraph

/-- In entries whose keys differ, a key is found with the value of its one entry. -/
theorem find_entry_iff [DecidableEq κ] {entries : List (κ × α)}
    (unique : (entries.map Prod.fst).Nodup) {key : κ} {value : α} :
    (entries.find? fun entry => entry.1 = key).map Prod.snd = some value ↔
      (key, value) ∈ entries := by
  induction entries with
  | nil => simp
  | cons entry rest ih =>
    obtain ⟨absent, unique⟩ := List.nodup_cons.mp unique
    by_cases same : entry.1 = key
    · have apart : (key, value) ∉ rest := fun member =>
        absent (same ▸ List.mem_map_of_mem (f := Prod.fst) member)
      subst same
      simp [apart, Prod.ext_iff, eq_comm]
    · have apart : (key, value) ≠ entry := fun equal => same (equal ▸ rfl)
      simpa [same, apart] using ih unique

/-- The last member of a list that passes a test. -/
theorem find?_reverse_eq_some {p : α → Bool} {list : List α} {a : α} :
    list.reverse.find? p = some a ↔
      ∃ before after, list = before ++ a :: after ∧ p a ∧ ∀ later ∈ after, ¬p later := by
  rw [List.find?_eq_some_iff_append]
  constructor
  · rintro ⟨passes, after, before, split, others⟩
    refine ⟨before.reverse, after.reverse, ?_, passes, fun later member => ?_⟩
    · rw [← List.reverse_reverse list, split]
      simp
    · simpa using others later (List.mem_reverse.mp member)
  · rintro ⟨before, after, rfl, passes, others⟩
    refine ⟨passes, after.reverse, before.reverse, by simp, fun later member => ?_⟩
    simpa using others later (List.mem_reverse.mp member)

section
variable [LT κ] [DecidableLT κ] [LE κ] [Std.IsLinearOrder κ] [Std.LawfulOrderLT κ]

theorem find_putSorted [DecidableEq κ] (key other : κ) (value : α) (entries : List (κ × α)) :
    ((putSorted key value entries).find? fun entry => entry.1 = other).map Prod.snd =
      if other = key then some value
      else (entries.find? fun entry => entry.1 = other).map Prod.snd := by
  induction entries with
  | nil =>
    by_cases same : other = key
    · simp [putSorted, same]
    · simp [putSorted, same, Ne.symm same]
  | cons entry rest ih =>
    rw [putSorted]
    split
    · by_cases same : other = key
      · simp [same]
      · simp [same, Ne.symm same]
    · split
      · rename_i below
        by_cases here : entry.1 = other
        · have apart : other ≠ key := here ▸ Std.ne_of_lt below
          simp [here, apart]
        · simp only [List.find?_cons, here, decide_false, ih]
      · have level : key = entry.1 := Std.le_antisymm (Std.not_lt.mp ‹_›) (Std.not_lt.mp ‹_›)
        by_cases same : other = key
        · simp [same]
        · have apart : ¬entry.1 = other := fun here => same (here ▸ level.symm)
          simp [same, Ne.symm same, apart]

theorem putSorted_of_forall_lt {key : κ} {value : α} {entries : List (κ × α)}
    (above : ∀ entry ∈ entries, entry.1 < key) :
    putSorted key value entries = entries ++ [(key, value)] := by
  induction entries with
  | nil => rfl
  | cons entry rest ih =>
    have below := above entry List.mem_cons_self
    have rest := ih fun other member => above other (List.mem_cons_of_mem _ member)
    rw [putSorted, if_neg (Std.not_lt.mpr (Std.le_of_lt below)), if_pos below, rest]
    rfl

theorem length_putSorted {key : κ} {value : α} {entries : List (κ × α)}
    (absent : key ∉ entries.map Prod.fst) :
    (putSorted key value entries).length = entries.length + 1 := by
  induction entries with
  | nil => rfl
  | cons entry rest ih =>
    obtain ⟨apart, absent⟩ := List.ne_and_not_mem_of_not_mem_cons absent
    rw [putSorted]
    split
    · rfl
    · split
      · simp [ih absent]
      · exact absurd (Std.le_antisymm (Std.not_lt.mp ‹_›) (Std.not_lt.mp ‹_›)) apart

end

namespace Table

@[simp] theorem get?_empty [LT κ] [DecidableEq κ] (key : κ) : (∅ : Table κ α).get? key = none := rfl

section
variable [LT κ] [LE κ] [Std.LawfulOrderLT κ]

theorem keys_nodup (table : Table κ α) : table.keys.Nodup := by
  apply List.pairwise_map.mpr
  exact table.ascending.imp fun less => Std.ne_of_lt less

theorem get?_eq_some_iff [DecidableEq κ] {table : Table κ α} {key : κ} {value : α} :
    table.get? key = some value ↔ (key, value) ∈ table.entries :=
  find_entry_iff table.keys_nodup

theorem mem_keys [DecidableEq κ] {table : Table κ α} {key : κ} :
    key ∈ table.keys ↔ ∃ value, table.get? key = some value := by
  simp only [keys, List.mem_map, Prod.exists, get?_eq_some_iff]
  constructor
  · rintro ⟨_, value, member, rfl⟩
    exact ⟨value, member⟩
  · rintro ⟨value, member⟩
    exact ⟨key, value, member, rfl⟩

/-- A table is told by what its keys hold. -/
theorem eq_of_get?_eq [Std.IsLinearOrder κ] [DecidableEq κ] {first second : Table κ α}
    (same : ∀ key, first.get? key = second.get? key) : first = second := by
  have unique (table : Table κ α) : table.entries.Nodup :=
    table.ascending.imp fun less same => Std.ne_of_lt less (congrArg Prod.fst same)
  have entries : first.entries.Perm second.entries := by
    apply (List.perm_ext_iff_of_nodup (unique first) (unique second)).mpr
    rintro ⟨key, value⟩
    rw [← get?_eq_some_iff, ← get?_eq_some_iff, same]
  obtain ⟨list, ascending⟩ := first
  obtain ⟨other, ascends⟩ := second
  obtain rfl : list = other := by
    refine entries.eq_of_pairwise (fun a b _ _ below above => ?_) ascending ascends
    exact absurd (Std.lt_trans below above) Std.lt_irrefl
  rfl

end

variable [LT κ] [DecidableLT κ] [LE κ] [Std.IsLinearOrder κ] [Std.LawfulOrderLT κ]

theorem entries_foldl_insert {entries : List (κ × α)} (table : Table κ α)
    (ascending : (table.entries ++ entries).Pairwise (fun a b => a.1 < b.1)) :
    (entries.foldl (fun table entry => table.insert entry.1 entry.2) table).entries =
      table.entries ++ entries := by
  induction entries generalizing table with
  | nil => simp
  | cons entry rest ih =>
    have above : ∀ other ∈ table.entries, other.1 < entry.1 := fun other member =>
      (List.pairwise_append.mp ascending).2.2 other member entry List.mem_cons_self
    have inserted : (table.insert entry.1 entry.2).entries = table.entries ++ [entry] :=
      putSorted_of_forall_lt above
    rw [List.foldl_cons, ih _ (by simpa [inserted] using ascending), inserted]
    simp

/-- Entries that ascend are the entries of their table. -/
theorem entries_ofList {entries : List (κ × α)}
    (ascending : entries.Pairwise (fun a b => a.1 < b.1)) : (ofList entries).entries = entries :=
  entries_foldl_insert ∅ ascending

variable [DecidableEq κ]

theorem get?_insert (table : Table κ α) (key other : κ) (value : α) :
    (table.insert key value).get? other = if other = key then some value else table.get? other :=
  find_putSorted key other value table.entries

theorem get?_foldl_insert (entries : List (κ × α)) (table : Table κ α) (key : κ) :
    (entries.foldl (fun table entry => table.insert entry.1 entry.2) table).get? key =
      ((entries.reverse.find? fun entry => entry.1 = key).map Prod.snd).or (table.get? key) := by
  induction entries generalizing table with
  | nil => simp
  | cons entry rest ih =>
    rw [List.foldl_cons, ih, List.reverse_cons, List.find?_append, get?_insert]
    cases rest.reverse.find? fun entry => entry.1 = key with
    | some later => simp
    | none =>
      by_cases same : entry.1 = key
      · simp [same]
      · simp [same, Ne.symm same]

theorem insert_comm (table : Table κ α) {a b : κ} (apart : a ≠ b) (x y : α) :
    (table.insert a x).insert b y = (table.insert b y).insert a x := by
  apply eq_of_get?_eq
  intro key
  simp only [get?_insert]
  by_cases here : key = b
  · simp [here, apart.symm]
  · simp [here]

theorem size_insert {table : Table κ α} {key : κ} (absent : table.get? key = none) (value : α) :
    (table.insert key value).size = table.size + 1 := by
  refine length_putSorted fun member => ?_
  obtain ⟨found, held⟩ := mem_keys.mp member
  exact Option.some_ne_none found (held.symm.trans absent)

/-- Of several entries with one key the last counts. -/
theorem get?_ofList (entries : List (κ × α)) (key : κ) :
    (ofList entries).get? key = (entries.reverse.find? fun entry => entry.1 = key).map Prod.snd := by
  rw [ofList, get?_foldl_insert, get?_empty, Option.or_none]

/-- An entry is as good as one that comes last if no later one has its key. -/
theorem ofList_append_cons {before after : List (κ × α)} {entry : κ × α}
    (apart : ∀ later ∈ after, later.1 ≠ entry.1) :
    ofList (before ++ entry :: after) = (ofList (before ++ after)).insert entry.1 entry.2 := by
  apply eq_of_get?_eq
  intro key
  simp only [get?_insert, get?_ofList, List.reverse_append, List.reverse_cons, List.find?_append]
  by_cases here : key = entry.1
  · subst here
    have absent : (after.reverse.find? fun later => later.1 = entry.1) = none := by
      simpa using apart
    simp [absent]
  · simp [here, Ne.symm here]

end Table
end ShaderGraph
