import Mathlib.Data.List.Basic
import Mathlib.Data.List.Induction
import ShaderGraph.Proofs.Glsl.Declaration

/-! What a set of declarations holds after any history of operations: all that was offered since the
set was last collected, each declaration once and where it was first offered. A set that is kept in
two parts, a list for the order and a hash set for look-ups, answers as one that is kept as a list
does, since no operation lets the parts differ. -/
namespace ShaderGraph

deriving instance Hashable for Declaration

namespace DeclarationSet

/-- A merge extends a set by another one, which is collected for it. -/
inductive Operation where
  | insert (d : Declaration)
  | extend (more : List Declaration)
  | collect (declarations : List Declaration)
  | merge (declarations : List Declaration)
  deriving DecidableEq, Repr

namespace Operation

def perform (set : DeclarationSet) : Operation → DeclarationSet
  | insert d => set.insert d
  | extend more => set.extend more
  | collect declarations => ofList declarations
  | merge declarations => set.extend (ofList declarations).toList

/-- What was offered since the last collection, given what was before an operation. -/
def offered (earlier : List Declaration) : Operation → List Declaration
  | insert d => earlier ++ [d]
  | extend declarations | merge declarations => earlier ++ declarations
  | collect declarations => declarations

end Operation

def after (history : List Operation) : DeclarationSet := history.foldl Operation.perform ∅

/-- All that a history offers since it last collected the set, in the order of the offers. -/
def offeredBy (history : List Operation) : List Declaration := history.foldl Operation.offered []

structure Answers where
  items : List Declaration
  contains : Declaration → Bool
  size : Nat
  isEmpty : Bool
  inserts : Declaration → Bool

def answers (set : DeclarationSet) : Answers :=
  ⟨set.toList, set.contains, set.size, set.isEmpty, fun d => (set.tryInsert d).1⟩

theorem extend_of_forall_mem {set : DeclarationSet} {more : List Declaration}
    (present : ∀ d ∈ more, d ∈ set.toList) : set.extend more = set := by
  induction more with
  | nil => rfl
  | cons d rest ih =>
    obtain ⟨first, others⟩ := List.forall_mem_cons.mp present
    rw [extend, List.foldl_cons, insert_of_mem first]
    exact ih others

theorem mem_extend {set : DeclarationSet} {more : List Declaration} {d : Declaration} :
    d ∈ (set.extend more).toList ↔ d ∈ set.toList ∨ d ∈ more := by
  rw [toList_extend, List.mem_eraseDups, List.mem_append]

/-- It makes no difference whether declarations are collected before they are offered. -/
theorem extend_ofList (set : DeclarationSet) (declarations : List Declaration) :
    set.extend (ofList declarations).toList = set.extend declarations := by
  induction declarations using List.reverseRecOn with
  | nil => rfl
  | append_singleton front d ih =>
    have collected : ofList (front ++ [d]) = (ofList front).insert d := List.foldl_append ..
    rw [collected, ← extend_extend]
    by_cases present : d ∈ (ofList front).toList
    · have offered : d ∈ front := by simpa [toList_ofList] using present
      have there : ∀ other ∈ [d], other ∈ (set.extend front).toList := by
        simpa using mem_extend.mpr (.inr offered)
      rw [insert_of_mem present, ih, extend_of_forall_mem there]
    · rw [toList_insert_of_not_mem present, ← extend_extend, ih]

/-- One operation keeps a set the collection of all that was offered. -/
theorem Operation.perform_ofList (earlier : List Declaration) (operation : Operation) :
    operation.perform (ofList earlier) = ofList (operation.offered earlier) := by
  cases operation with
  | insert d => exact extend_extend ∅ earlier [d]
  | extend more => exact extend_extend ∅ earlier more
  | collect declarations => rfl
  | merge declarations =>
    exact (extend_ofList _ declarations).trans (extend_extend ∅ earlier declarations)

theorem after_eq_ofList (history : List Operation) : after history = ofList (offeredBy history) := by
  have step (earlier : List Declaration) :
      history.foldl Operation.perform (ofList earlier) =
        ofList (history.foldl Operation.offered earlier) := by
    induction history generalizing earlier with
    | nil => rfl
    | cons operation rest ih =>
      rw [List.foldl_cons, List.foldl_cons, Operation.perform_ofList, ih]
  exact step []

/-- A set as a list for its order and a hash set for look-ups. Nothing here ties the two parts. -/
structure Indexed where
  ordered : List Declaration
  seen : Std.HashSet Declaration

namespace Indexed

def empty : Indexed := ⟨[], ∅⟩

def contains (set : Indexed) (d : Declaration) : Bool := set.seen.contains d

def tryInsert (set : Indexed) (d : Declaration) : Bool × Indexed :=
  if set.contains d then (false, set) else (true, ⟨set.ordered ++ [d], set.seen.insert d⟩)

def extend (set : Indexed) (more : List Declaration) : Indexed :=
  more.foldl (fun set d => (set.tryInsert d).2) set

def ofList (declarations : List Declaration) : Indexed := extend empty declarations

def perform (set : Indexed) : Operation → Indexed
  | .insert d => (set.tryInsert d).2
  | .extend more => set.extend more
  | .collect declarations => ofList declarations
  | .merge declarations => set.extend (ofList declarations).ordered

def after (history : List Operation) : Indexed := history.foldl perform empty

def answers (set : Indexed) : Answers :=
  ⟨set.ordered, set.contains, set.ordered.length, set.ordered.isEmpty, fun d => (set.tryInsert d).1⟩

variable {indexed : Indexed} {d : Declaration}

theorem tryInsert_of_contains (present : indexed.contains d = true) :
    indexed.tryInsert d = (false, indexed) := by
  simp [tryInsert, present]

theorem tryInsert_of_not_contains (absent : indexed.contains d = false) :
    indexed.tryInsert d = (true, ⟨indexed.ordered ++ [d], indexed.seen.insert d⟩) := by
  simp [tryInsert, absent]

theorem extend_of_forall_contains {more : List Declaration}
    (present : ∀ d ∈ more, indexed.contains d = true) : indexed.extend more = indexed := by
  induction more with
  | nil => rfl
  | cons d rest ih =>
    obtain ⟨first, others⟩ := List.forall_mem_cons.mp present
    rw [extend, List.foldl_cons, tryInsert_of_contains first]
    exact ih others

structure Represents (indexed : Indexed) (set : DeclarationSet) : Prop where
  ordered : indexed.ordered = set.toList
  contains : ∀ d, indexed.contains d = true ↔ d ∈ set.toList

namespace Represents

variable {set : DeclarationSet}

theorem empty : Represents empty ∅ :=
  ⟨rfl, fun d => iff_of_false (by simp [Indexed.contains, Indexed.empty]) List.not_mem_nil⟩

/-- A declaration is put into both parts or into none. -/
theorem tryInsert (same : indexed.Represents set) (d : Declaration) :
    (indexed.tryInsert d).1 = (set.tryInsert d).1 ∧
      (indexed.tryInsert d).2.Represents (set.insert d) := by
  by_cases present : d ∈ set.toList
  · rw [tryInsert_of_contains ((same.contains d).mpr present), insert_of_mem present]
    exact ⟨by simp [DeclarationSet.tryInsert, present], same⟩
  · have absent : indexed.contains d = false := by simpa using mt (same.contains d).mp present
    rw [tryInsert_of_not_contains absent]
    refine ⟨by simp [DeclarationSet.tryInsert, present], ?_, fun other => ?_⟩
    · rw [toList_insert_of_not_mem present, same.ordered]
    · rw [toList_insert_of_not_mem present, List.mem_append, List.mem_singleton, ← same.contains,
        Indexed.contains, Std.HashSet.contains_insert, Bool.or_eq_true, beq_iff_eq, or_comm]
      exact or_congr_right eq_comm

theorem extend (same : indexed.Represents set) (more : List Declaration) :
    (indexed.extend more).Represents (set.extend more) := by
  induction more generalizing indexed set with
  | nil => exact same
  | cons d rest ih => exact ih (same.tryInsert d).2

theorem perform (same : indexed.Represents set) (operation : Operation) :
    (indexed.perform operation).Represents (operation.perform set) := by
  cases operation with
  | insert d => exact (same.tryInsert d).2
  | extend more => exact same.extend more
  | collect declarations => exact empty.extend declarations
  | merge declarations =>
    have collected : (ofList declarations).ordered = (DeclarationSet.ofList declarations).toList :=
      (empty.extend declarations).ordered
    rw [Indexed.perform, collected]
    exact same.extend _

theorem after (history : List Operation) : (after history).Represents (.after history) := by
  have step {indexed : Indexed} {set : DeclarationSet} (same : indexed.Represents set) :
      (history.foldl Indexed.perform indexed).Represents (history.foldl Operation.perform set) := by
    induction history generalizing indexed set with
    | nil => exact same
    | cons operation rest ih => exact ih (same.perform operation)
  exact step empty

theorem answers (same : indexed.Represents set) : indexed.answers = set.answers := by
  have contains : indexed.contains = set.contains := by
    funext d
    rw [Bool.eq_iff_iff, same.contains, DeclarationSet.contains, decide_eq_true_iff]
  have inserts : (fun d => (indexed.tryInsert d).1) = fun d => (set.tryInsert d).1 :=
    funext fun d => (same.tryInsert d).1
  rw [Indexed.answers, DeclarationSet.answers, contains, inserts, same.ordered]
  rfl

end Represents
end Indexed

/-- After any history a set lists what was offered since it was last collected, each declaration once
and where it was first offered, and all that is asked of it is answered from this list. To offer what
it lists once more changes nothing. A set in two parts gives the same answers. -/
theorem history_exact (history : List Operation) :
    let set := after history
    let indexed := Indexed.after history
    set.toList = (offeredBy history).eraseDups ∧
    set.toList.Nodup ∧
    (∀ d, set.contains d = true ↔ d ∈ set.toList) ∧
    set.size = set.toList.length ∧
    (set.isEmpty = true ↔ set.toList = []) ∧
    (∀ d, (set.tryInsert d).1 = true ↔ d ∉ set.toList) ∧
    (∀ more, (∀ d ∈ more, set.contains d = true) →
      set.extend more = set ∧ indexed.extend more = indexed) ∧
    set.extend set.toList = set ∧
    indexed.extend indexed.ordered = indexed ∧
    indexed.answers = set.answers := by
  intro set indexed
  have same : indexed.Represents set := .after history
  have contains (d : Declaration) : set.contains d = true ↔ d ∈ set.toList := decide_eq_true_iff
  have unchanged (more : List Declaration) (present : ∀ d ∈ more, d ∈ set.toList) :
      set.extend more = set ∧ indexed.extend more = indexed := by
    refine ⟨extend_of_forall_mem present, Indexed.extend_of_forall_contains fun d member => ?_⟩
    exact (same.contains d).mpr (present d member)
  refine ⟨?_, set.nodup, contains, rfl, List.isEmpty_iff, fun d => ?_, ?_, ?_, ?_, same.answers⟩
  · rw [← toList_ofList, ← after_eq_ofList]
  · by_cases present : d ∈ set.toList
    · simp [tryInsert, present]
    · simp [tryInsert, present]
  · exact fun more present => unchanged more fun d member => (contains d).mp (present d member)
  · exact (unchanged set.toList fun _ member => member).1
  · exact (unchanged indexed.ordered fun d member => same.ordered ▸ member).2

example :
    let history : List Operation := [.insert ⟨"int", "c"⟩, .collect [⟨"vec3", "b"⟩, ⟨"vec3", "a"⟩],
      .insert ⟨"vec3", "b"⟩, .merge [⟨"vec4", "b"⟩, ⟨"vec3", "a"⟩, ⟨"vec4", "b"⟩]]
    (after history).toList.map Declaration.text = ["vec3 b", "vec3 a", "vec4 b"] := by
  decide +kernel

end DeclarationSet
end ShaderGraph
