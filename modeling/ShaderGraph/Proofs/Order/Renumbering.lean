import Mathlib.Order.MinMax
import ShaderGraph.Order.Schedule
import ShaderGraph.Proofs.Order.Pass

/-! Renumbered nodes. A schedule goes by how numbers compare, and by nothing else about them: nodes
that are numbered anew in their old order are ordered alike, or have the same cycle. -/
namespace ShaderGraph

structure Renumbering where
  number : Nat → Nat
  strict : StrictMono number

namespace Renumbering

variable (r : Renumbering)

@[simp] theorem number_inj {a b : Nat} : r.number a = r.number b ↔ a = b :=
  r.strict.injective.eq_iff

@[simp] theorem contains_map (list : List Nat) (id : Nat) :
    (list.map r.number).contains (r.number id) = list.contains id := by
  simp [List.contains_eq_mem]

def set (ids : SortedSet Nat) : SortedSet Nat where
  toList := ids.toList.map r.number
  ascending := List.pairwise_map.mpr (ids.ascending.imp fun less => r.strict less)

def constraint (c : Constraint) : Constraint := ⟨r.number c.before, r.number c.after⟩

theorem constraint_lt {a b : Constraint} (less : a < b) : r.constraint a < r.constraint b := by
  rw [Constraint.lt_iff] at less ⊢
  rcases less with before | ⟨same, after⟩
  · exact .inl (r.strict before)
  · exact .inr ⟨congrArg r.number same, r.strict after⟩

def constraints (cs : Constraints) : Constraints where
  toList := cs.toList.map r.constraint
  ascending := List.pairwise_map.mpr (cs.ascending.imp r.constraint_lt)

variable {cs : Constraints}

theorem mem_constraints {c : Constraint} :
    c ∈ r.constraints cs ↔ ∃ old ∈ cs, r.constraint old = c :=
  List.mem_map

theorem ofList_constraints (list : List Constraint) :
    SortedSet.ofList (list.map r.constraint) = r.constraints (.ofList list) := by
  apply SortedSet.eq_of_mem_iff
  intro c
  simp [mem_constraints]

theorem successors (id : Nat) :
    (r.constraints cs).successors (r.number id) = (cs.successors id).map r.number := by
  simp only [Constraints.successors, constraints, List.filterMap_map, List.map_filterMap]
  apply List.filterMap_congr
  intro c _
  by_cases same : c.before = id <;> simp [constraint, same]

theorem predecessors (id : Nat) :
    (r.constraints cs).predecessors (r.number id) = (cs.predecessors id).map r.number := by
  simp only [Constraints.predecessors, constraints, List.filterMap_map, List.map_filterMap]
  apply List.filterMap_congr
  intro c _
  by_cases same : c.after = id <;> simp [constraint, same]

theorem endpoints : (r.constraints cs).endpoints = r.set cs.endpoints := by
  apply SortedSet.eq_of_mem_iff
  intro id
  have mapped : id ∈ r.set cs.endpoints ↔ ∃ old ∈ cs.endpoints, r.number old = id := List.mem_map
  simp only [mapped, Constraints.mem_endpoints, mem_constraints]
  constructor
  · rintro ⟨_, ⟨c, member, rfl⟩, rfl | rfl⟩
    · exact ⟨c.before, ⟨c, member, .inl rfl⟩, rfl⟩
    · exact ⟨c.after, ⟨c, member, .inr rfl⟩, rfl⟩
  · rintro ⟨_, ⟨c, member, rfl | rfl⟩, rfl⟩
    · exact ⟨r.constraint c, ⟨c, member, rfl⟩, .inl rfl⟩
    · exact ⟨r.constraint c, ⟨c, member, rfl⟩, .inr rfl⟩

def entry (entry : Nat × α) : Nat × α := (r.number entry.1, entry.2)

def table (t : Table Nat α) : Table Nat α where
  entries := t.entries.map r.entry
  ascending := List.pairwise_map.mpr (t.ascending.imp fun less => r.strict less)

theorem get?_table (t : Table Nat α) (id : Nat) : (r.table t).get? (r.number id) = t.get? id := by
  rw [Table.get?, Table.get?, table, List.find?_map, Option.map_map]
  simp only [Function.comp_def, entry, number_inj]

theorem insert_table (t : Table Nat α) (id : Nat) (value : α) :
    (r.table t).insert (r.number id) value = r.table (t.insert id value) := by
  have entries (list : List (Nat × α)) : putSorted (r.number id) value (list.map r.entry) =
      (putSorted id value list).map r.entry := by
    induction list with
    | nil => rfl
    | cons first rest ih =>
      simp only [putSorted, List.map_cons, entry, r.strict.lt_iff_lt]
      split
      · rfl
      · split
        · exact congrArg _ ih
        · rfl
  simp only [Table.insert, table, entries]

theorem ofList_table (entries : List (Nat × α)) :
    Table.ofList (entries.map r.entry) = r.table (.ofList entries) := by
  have inserts (t : Table Nat α) :
      (entries.map r.entry).foldl (fun table entry => table.insert entry.1 entry.2) (r.table t) =
        r.table (entries.foldl (fun table entry => table.insert entry.1 entry.2) t) := by
    induction entries generalizing t with
    | nil => rfl
    | cons first rest ih =>
      rw [List.map_cons, List.foldl_cons, List.foldl_cons, ← ih, ← insert_table]
      rfl
  exact inserts ∅

def pass (p : OrderingPass) : OrderingPass :=
  ⟨r.table p.inDegree, p.ready.map r.number, p.order.map r.number⟩

theorem enqueue (id : Nat) (ready : List Nat) :
    ShaderGraph.enqueue (r.number id) (ready.map r.number) =
      (ShaderGraph.enqueue id ready).map r.number := by
  induction ready with
  | nil => rfl
  | cons next rest ih =>
    simp only [ShaderGraph.enqueue, List.map_cons, r.strict.le_iff_le]
    split
    · rfl
    · exact congrArg _ ih

theorem start : OrderingPass.start (r.constraints cs) = r.pass (.start cs) := by
  have degrees : OrderingPass.initialDegrees (r.constraints cs) =
      r.table (OrderingPass.initialDegrees cs) := by
    rw [OrderingPass.initialDegrees, OrderingPass.initialDegrees, ← ofList_table, endpoints, set,
      List.map_map, List.map_map]
    congr 1
    apply List.map_congr_left
    intro id _
    simp [entry, predecessors]
  simp only [OrderingPass.start, degrees, pass, table, List.filter_map, List.map_map, List.map_nil]
  rfl

theorem release (p : OrderingPass) (id : Nat) :
    (r.pass p).release (r.number id) = r.pass (p.release id) := by
  rw [OrderingPass.release, OrderingPass.release, pass, get?_table]
  cases p.inDegree.get? id with
  | none => rfl
  | some degree =>
    simp only [insert_table, enqueue, pass]
    split <;> rfl

theorem foldl_release (ids : List Nat) (p : OrderingPass) :
    (ids.map r.number).foldl OrderingPass.release (r.pass p) =
      r.pass (ids.foldl OrderingPass.release p) := by
  induction ids generalizing p with
  | nil => rfl
  | cons id rest ih => rw [List.map_cons, List.foldl_cons, List.foldl_cons, release, ih]

theorem step (p : OrderingPass) :
    (r.pass p).step (r.constraints cs) = (p.step cs).map r.pass := by
  rw [OrderingPass.step, OrderingPass.step]
  cases queue : p.ready with
  | nil => simp [pass, queue]
  | cons id rest =>
    have popped : { r.pass p with
        ready := rest.map r.number, order := (r.pass p).order ++ [r.number id] } =
          r.pass { p with ready := rest, order := p.order ++ [id] } := by
      simp [pass]
    have ready : (r.pass p).ready = r.number id :: rest.map r.number := by simp [pass, queue]
    simp only [ready, successors, popped, foldl_release, Option.map_some]

theorem run (fuel : Nat) (p : OrderingPass) :
    OrderingPass.run (r.constraints cs) fuel (r.pass p) = r.pass (OrderingPass.run cs fuel p) := by
  induction fuel generalizing p with
  | zero => rfl
  | succ fuel ih =>
    rw [OrderingPass.run, OrderingPass.run, step]
    cases p.step cs with
    | none => rfl
    | some next => exact ih next

theorem finish : OrderingPass.finish (r.constraints cs) = r.pass (.finish cs) := by
  have size : (r.pass (.start cs)).inDegree.size = (OrderingPass.start cs).inDegree.size := by
    simp [pass, table, Table.size]
  rw [OrderingPass.finish, OrderingPass.finish, start, size, run]

theorem remaining (p : OrderingPass) : (r.pass p).remaining = p.remaining.map r.number := by
  simp only [OrderingPass.remaining, pass, table, List.filter_map, List.map_map]
  rfl

def trace : Trace → Trace
  | .closed ids => .closed (ids.map r.number)
  | .deadEnd path => .deadEnd (path.map r.number)
  | .unfinished path => .unfinished (path.map r.number)
  | .absent => .absent

theorem ids_trace (t : Trace) : (r.trace t).ids = t.ids.map r.number := by
  cases t <;> rfl

theorem foldl_min (list : List Nat) (id : Nat) :
    (list.map r.number).foldl Nat.min (r.number id) = r.number (list.foldl Nat.min id) := by
  induction list generalizing id with
  | nil => rfl
  | cons other rest ih =>
    have least : Nat.min (r.number id) (r.number other) = r.number (Nat.min id other) :=
      (Monotone.map_min r.strict.monotone).symm
    rw [List.map_cons, List.foldl_cons, List.foldl_cons, least, ih]

theorem takeWhile_ne (list : List Nat) (id : Nat) :
    (list.map r.number).takeWhile (· ≠ r.number id) = (list.takeWhile (· ≠ id)).map r.number := by
  simp [List.takeWhile_map, Function.comp_def]

theorem dropWhile_ne (list : List Nat) (id : Nat) :
    (list.map r.number).dropWhile (· ≠ r.number id) = (list.dropWhile (· ≠ id)).map r.number := by
  simp [List.dropWhile_map, Function.comp_def]

theorem fromLowest (ids : List Nat) :
    ShaderGraph.fromLowest (ids.map r.number) = (ShaderGraph.fromLowest ids).map r.number := by
  cases ids with
  | nil => rfl
  | cons id rest =>
    simp only [ShaderGraph.fromLowest, List.map_cons, foldl_min, List.map_append,
      ← takeWhile_ne, ← dropWhile_ne]

theorem walk (left : List Nat) (fuel current : Nat) (path : List Nat) :
    ShaderGraph.walk (r.constraints cs) (left.map r.number) fuel (r.number current)
        (path.map r.number) =
      r.trace (ShaderGraph.walk cs left fuel current path) := by
  induction fuel generalizing current path with
  | zero => simp [ShaderGraph.walk, trace]
  | succ fuel ih =>
    rw [ShaderGraph.walk, ShaderGraph.walk, predecessors, List.find?_map]
    simp only [Function.comp_def, contains_map]
    cases (cs.predecessors current).find? (left.contains ·) with
    | none => simp [trace]
    | some previous =>
      simp only [Option.map_some, contains_map]
      split
      · rw [takeWhile_ne, trace, ← fromLowest, List.map_append]
        rfl
      · exact ih previous (previous :: path)

theorem trace_map (left : List Nat) :
    ShaderGraph.trace (r.constraints cs) (left.map r.number) = r.trace (ShaderGraph.trace cs left) := by
  cases left with
  | nil => rfl
  | cons id rest =>
    have walked : ShaderGraph.walk (r.constraints cs) _ _ _ _ = _ :=
      r.walk (id :: rest) (id :: rest).length id [id]
    simpa [ShaderGraph.trace] using walked

/-- Constraints between renumbered nodes are met in the same order, whatever nodes are given besides,
and have the same cycle if there is none. -/
theorem schedule (ids given : List Nat) :
    ShaderGraph.schedule given (r.constraints cs) =
      match ShaderGraph.schedule ids cs with
      | .error cycle => .error ⟨cycle.ids.map r.number⟩
      | .ok s =>
        let constrained := s.constrained.map r.number
        .ok ⟨constrained, (SortedSet.ofList (given.filter (!constrained.contains ·))).toList⟩ := by
  have size : (r.pass (.finish cs)).inDegree.size = (OrderingPass.finish cs).inDegree.size := by
    simp [pass, table, Table.size]
  have length : (r.pass (.finish cs)).order.length = (OrderingPass.finish cs).order.length := by
    simp [pass]
  rw [ShaderGraph.schedule, ShaderGraph.schedule, finish]
  simp only [size, length, remaining, trace_map, ids_trace]
  split <;> rfl

end Renumbering
end ShaderGraph
