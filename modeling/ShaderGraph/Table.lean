/-! Finite maps kept as lists that ascend by key, so that equal maps are equal values and every walk
over a map is in the order of its keys. -/
namespace ShaderGraph

/-- Puts a value under its key, in the place of what was there. -/
def putSorted [LT κ] [DecidableLT κ] (key : κ) (value : α) : List (κ × α) → List (κ × α)
  | [] => [(key, value)]
  | entry :: rest =>
    if key < entry.1 then (key, value) :: entry :: rest
    else if entry.1 < key then entry :: putSorted key value rest
    else (key, value) :: rest

structure Table (κ : Type) [LT κ] (α : Type u) where
  entries : List (κ × α)
  ascending : entries.Pairwise (fun a b => a.1 < b.1)
  deriving DecidableEq, Repr

section
variable [LT κ] [DecidableLT κ] [LE κ] [Std.IsLinearOrder κ] [Std.LawfulOrderLT κ]

theorem mem_keys_putSorted {key other : κ} {value : α} {entries : List (κ × α)} :
    other ∈ (putSorted key value entries).map Prod.fst ↔
      other = key ∨ other ∈ entries.map Prod.fst := by
  induction entries with
  | nil => simp [putSorted]
  | cons entry rest ih =>
    rw [putSorted]
    split
    · simp
    · split
      · simp only [List.map_cons, List.mem_cons, ih]; grind
      · have same : key = entry.1 := Std.le_antisymm (Std.not_lt.mp ‹_›) (Std.not_lt.mp ‹_›)
        simp [same]

theorem pairwise_putSorted {key : κ} {value : α} {entries : List (κ × α)}
    (ascending : entries.Pairwise (fun a b => a.1 < b.1)) :
    (putSorted key value entries).Pairwise (fun a b => a.1 < b.1) := by
  induction entries with
  | nil => simp [putSorted]
  | cons entry rest ih =>
    obtain ⟨least, ascending⟩ := List.pairwise_cons.mp ascending
    rw [putSorted]
    split
    · have below : ∀ other ∈ entry :: rest, key < other.1 := by
        intro other member
        rcases List.mem_cons.mp member with rfl | member
        · assumption
        · exact Std.lt_trans ‹key < entry.1› (least other member)
      exact List.pairwise_cons.mpr ⟨below, List.pairwise_cons.mpr ⟨least, ascending⟩⟩
    · split
      · refine List.pairwise_cons.mpr ⟨fun other member => ?_, ih ascending⟩
        rcases mem_keys_putSorted.mp (List.mem_map_of_mem member) with same | member
        · rw [same]; assumption
        · obtain ⟨found, member, same⟩ := List.mem_map.mp member
          exact same ▸ least found member
      · have same : key = entry.1 := Std.le_antisymm (Std.not_lt.mp ‹_›) (Std.not_lt.mp ‹_›)
        exact List.pairwise_cons.mpr ⟨fun other member => same ▸ least other member, ascending⟩

end

namespace Table

instance [LT κ] : EmptyCollection (Table κ α) := ⟨⟨[], .nil⟩⟩
instance [LT κ] : Inhabited (Table κ α) := ⟨∅⟩

def size [LT κ] (table : Table κ α) : Nat := table.entries.length

def keys [LT κ] (table : Table κ α) : List κ := table.entries.map Prod.fst

def values [LT κ] (table : Table κ α) : List α := table.entries.map Prod.snd

def get? [LT κ] [DecidableEq κ] (table : Table κ α) (key : κ) : Option α :=
  (table.entries.find? fun entry => entry.1 = key).map Prod.snd

def contains [LT κ] [DecidableEq κ] (table : Table κ α) (key : κ) : Bool :=
  (table.get? key).isSome

def erase [LT κ] [DecidableEq κ] (table : Table κ α) (key : κ) : Table κ α :=
  ⟨table.entries.filter fun entry => entry.1 ≠ key, table.ascending.filter _⟩

variable [LT κ] [DecidableLT κ] [LE κ] [Std.IsLinearOrder κ] [Std.LawfulOrderLT κ]

def insert (table : Table κ α) (key : κ) (value : α) : Table κ α :=
  ⟨putSorted key value table.entries, pairwise_putSorted table.ascending⟩

/-- Of several entries with one key the last stays. -/
def ofList (entries : List (κ × α)) : Table κ α :=
  entries.foldl (fun table entry => table.insert entry.1 entry.2) ∅

end Table
end ShaderGraph
