import Mathlib.Data.List.Perm.Subperm
import ShaderGraph.Order.Pass
import ShaderGraph.Proofs.Order.Constraint
import ShaderGraph.Proofs.Table

/-! What the ordering pass keeps: the in-degree of a node counts the predecessors that are not
ordered yet, and nodes become ready when there are none of them, once each. -/
namespace ShaderGraph

theorem enqueue_perm (id : Nat) (ready : List Nat) : (enqueue id ready).Perm (id :: ready) := by
  induction ready with
  | nil => exact .refl _
  | cons next rest ih =>
    rw [enqueue]
    split
    · exact .refl _
    · exact (ih.cons next).trans (.swap id next rest)

theorem enqueue_ascending {ready : List Nat} (ascending : ready.Pairwise (· ≤ ·)) (id : Nat) :
    (enqueue id ready).Pairwise (· ≤ ·) := by
  induction ready with
  | nil => simp [enqueue]
  | cons next rest ih =>
    obtain ⟨least, ascending⟩ := List.pairwise_cons.mp ascending
    rw [enqueue]
    split
    · have tail := List.pairwise_cons.mpr ⟨least, ascending⟩
      refine List.pairwise_cons.mpr ⟨fun other member => ?_, tail⟩
      rcases List.mem_cons.mp member with rfl | member
      · assumption
      · exact Nat.le_trans ‹id ≤ next› (least other member)
    · refine List.pairwise_cons.mpr ⟨fun other member => ?_, ih ascending⟩
      rcases List.mem_cons.mp ((enqueue_perm id rest).subset member) with rfl | member
      · omega
      · exact least other member

namespace OrderingPass

theorem order_foldl_release (ids : List Nat) (pass : OrderingPass) :
    (ids.foldl release pass).order = pass.order := by
  induction ids generalizing pass with
  | nil => rfl
  | cons id rest ih =>
    rw [List.foldl_cons, ih, release]
    split <;> rfl

theorem get?_release (pass : OrderingPass) (id other : Nat) :
    (pass.release id).inDegree.get? other =
      if other = id then (pass.inDegree.get? id).map (· - 1) else pass.inDegree.get? other := by
  rw [release]
  split
  · rename_i absent
    by_cases same : other = id
    · simp [same, absent]
    · simp [same]
  · rename_i degree found
    simp only [found, Option.map_some]
    exact Table.get?_insert ..

theorem get?_foldl_release {ids : List Nat} (unique : ids.Nodup) (pass : OrderingPass)
    (other : Nat) :
    (ids.foldl release pass).inDegree.get? other =
      if other ∈ ids then (pass.inDegree.get? other).map (· - 1) else pass.inDegree.get? other := by
  induction ids generalizing pass with
  | nil => simp
  | cons id rest ih =>
    obtain ⟨absent, unique⟩ := List.nodup_cons.mp unique
    rw [List.foldl_cons, ih unique, get?_release]
    by_cases same : other = id
    · subst same
      simp [absent]
    · simp [same]

def almostFree (pass : OrderingPass) (id : Nat) : Bool := (pass.inDegree.get? id).any (· ≤ 1)

theorem ready_release (pass : OrderingPass) (id : Nat) :
    (pass.release id).ready = if pass.almostFree id then enqueue id pass.ready else pass.ready := by
  rw [release, almostFree]
  split
  · rename_i absent
    simp [absent]
  · rename_i degree found
    simp [found, Nat.sub_eq_zero_iff_le]

theorem almostFree_release {pass : OrderingPass} {id other : Nat} (apart : other ≠ id) :
    (pass.release id).almostFree other = pass.almostFree other := by
  simp only [almostFree, get?_release, if_neg apart]

/-- The nodes released that waited for at most one other become ready. -/
theorem ready_foldl_release {ids : List Nat} (unique : ids.Nodup) (pass : OrderingPass) :
    (ids.foldl release pass).ready.Perm (pass.ready ++ ids.filter pass.almostFree) := by
  induction ids generalizing pass with
  | nil => simp
  | cons id rest ih =>
    obtain ⟨absent, unique⟩ := List.nodup_cons.mp unique
    have later : rest.filter (pass.release id).almostFree = rest.filter pass.almostFree := by
      apply List.filter_congr
      intro other member
      exact almostFree_release fun same => absent (same ▸ member)
    refine (ih unique (pass.release id)).trans ?_
    rw [later, ready_release, List.filter_cons]
    split
    · exact ((enqueue_perm id pass.ready).append_right _).trans List.perm_middle.symm
    · exact .refl _

theorem ready_ascending_foldl_release (ids : List Nat) {pass : OrderingPass}
    (ascending : pass.ready.Pairwise (· ≤ ·)) :
    (ids.foldl release pass).ready.Pairwise (· ≤ ·) := by
  induction ids generalizing pass with
  | nil => exact ascending
  | cons id rest ih =>
    refine ih ?_
    rw [ready_release]
    split
    · exact enqueue_ascending ascending id
    · exact ascending

variable {constraints : Constraints} {pass next : OrderingPass}

def waitingFor (constraints : Constraints) (order : List Nat) (id : Nat) : List Nat :=
  (constraints.predecessors id).filter (· ∉ order)

theorem mem_waitingFor {order : List Nat} {a id : Nat} :
    a ∈ waitingFor constraints order id ↔ constraints.Requires a id ∧ a ∉ order := by
  simp [waitingFor, Constraints.mem_predecessors]

/-- Once a node is ordered, nobody waits for it any more. -/
theorem waitingFor_append (order : List Nat) (a id : Nat) :
    waitingFor constraints (order ++ [a]) id = (waitingFor constraints order id).erase a := by
  have unique : (waitingFor constraints order id).Nodup := Constraints.predecessors_nodup.filter _
  rw [unique.erase_eq_filter, waitingFor, waitingFor, List.filter_filter]
  apply List.filter_congr
  intro other _
  simp only [List.mem_append, List.mem_singleton, bne, beq_eq_decide]
  grind

theorem length_waitingFor_append {order : List Nat} {a : Nat} (fresh : a ∉ order) (id : Nat) :
    (waitingFor constraints (order ++ [a]) id).length =
      if constraints.Requires a id then (waitingFor constraints order id).length - 1
      else (waitingFor constraints order id).length := by
  rw [waitingFor_append]
  split
  · rename_i required
    exact List.length_erase_of_mem (mem_waitingFor.mpr ⟨required, fresh⟩)
  · rename_i unrelated
    rw [List.erase_of_not_mem fun waiting => unrelated (mem_waitingFor.mp waiting).1]

/-- Of the nodes that wait for `a`, those become free that wait for nobody else. -/
theorem waitingFor_append_eq_nil {order : List Nat} {a : Nat} (fresh : a ∉ order) (id : Nat) :
    waitingFor constraints (order ++ [a]) id = [] ↔
      if constraints.Requires a id then (waitingFor constraints order id).length ≤ 1
      else waitingFor constraints order id = [] := by
  rw [← List.length_eq_zero_iff, length_waitingFor_append fresh]
  split
  · omega
  · exact List.length_eq_zero_iff

structure Invariant (constraints : Constraints) (pass : OrderingPass) : Prop where
  degree : ∀ id, pass.inDegree.get? id =
    if id ∈ constraints.endpoints then some (waitingFor constraints pass.order id).length else none
  free : ∀ id, id ∈ pass.order ∨ id ∈ pass.ready ↔
    id ∈ constraints.endpoints ∧ waitingFor constraints pass.order id = []
  once : (pass.order ++ pass.ready).Nodup
  ascending : pass.ready.Pairwise (· ≤ ·)
  met : ∀ a b, constraints.Requires a b → b ∈ pass.order → Precedes pass.order a b

theorem entries_initialDegrees (constraints : Constraints) :
    (initialDegrees constraints).entries =
      constraints.endpoints.toList.map fun id => (id, (constraints.predecessors id).length) :=
  Table.entries_ofList (List.pairwise_map.mpr constraints.endpoints.ascending)

theorem mem_ready_start {id : Nat} :
    id ∈ (start constraints).ready ↔
      id ∈ constraints.endpoints ∧ constraints.predecessors id = [] := by
  simp only [start, entries_initialDegrees, List.mem_map, List.mem_filter]
  constructor
  · rintro ⟨_, ⟨⟨id, member, rfl⟩, zero⟩, rfl⟩
    exact ⟨member, by simpa using zero⟩
  · rintro ⟨member, none⟩
    exact ⟨_, ⟨⟨id, member, rfl⟩, by simp [none]⟩, rfl⟩

theorem ready_start_ascending : (start constraints).ready.Pairwise (· < ·) := by
  apply List.pairwise_map.mpr
  exact (initialDegrees constraints).ascending.filter _

theorem start_invariant (constraints : Constraints) : Invariant constraints (start constraints) := by
  have nobody (id : Nat) : waitingFor constraints [] id = constraints.predecessors id := by
    simp [waitingFor]
  constructor
  case degree =>
    intro id
    split
    · rename_i member
      apply Table.get?_eq_some_iff.mpr
      rw [start, entries_initialDegrees, nobody]
      exact List.mem_map_of_mem member
    · rename_i absent
      apply Option.eq_none_iff_forall_ne_some.mpr
      intro degree found
      have entry := Table.get?_eq_some_iff.mp found
      rw [start, entries_initialDegrees] at entry
      obtain ⟨other, member, same⟩ := List.mem_map.mp entry
      exact absent ((Prod.mk.inj same).1 ▸ member)
  case free =>
    intro id
    rw [show (start constraints).order = [] from rfl, nobody, mem_ready_start]
    simp
  case once => exact ready_start_ascending.imp Nat.ne_of_lt
  case ascending => exact ready_start_ascending.imp Nat.le_of_lt
  case met => exact fun a b _ member => absurd member List.not_mem_nil

theorem step_eq_some : pass.step constraints = some next ↔ ∃ id rest, pass.ready = id :: rest ∧
    next = (constraints.successors id).foldl release
      { pass with ready := rest, order := pass.order ++ [id] } := by
  rw [step]
  split
  · rename_i empty
    simp [empty]
  · rename_i id rest queue
    simp [queue, eq_comm]

theorem step_eq_none : pass.step constraints = none ↔ pass.ready = [] := by
  rw [step]
  split <;> simp_all

/-- A node that is ready is not ordered yet, and all that come before it are. -/
theorem Invariant.head {id : Nat} {rest : List Nat} (valid : Invariant constraints pass)
    (queue : pass.ready = id :: rest) :
    id ∉ pass.order ∧ id ∈ constraints.endpoints ∧
      ∀ a, constraints.Requires a id → a ∈ pass.order := by
  have member : id ∈ pass.ready := queue ▸ List.mem_cons_self
  obtain ⟨endpoint, none⟩ := (valid.free id).mp (.inr member)
  refine ⟨fun ordered => List.disjoint_of_nodup_append valid.once ordered member, endpoint, ?_⟩
  intro a required
  by_contra absent
  exact List.not_mem_nil (none ▸ mem_waitingFor.mpr ⟨required, absent⟩)

theorem Invariant.almostFree_iff {id : Nat} (valid : Invariant constraints pass)
    (endpoint : id ∈ constraints.endpoints) :
    pass.almostFree id ↔ (waitingFor constraints pass.order id).length ≤ 1 := by
  simp [almostFree, valid.degree, endpoint]

theorem step_invariant (valid : Invariant constraints pass)
    (stepped : pass.step constraints = some next) : Invariant constraints next := by
  obtain ⟨id, rest, queue, rfl⟩ := step_eq_some.mp stepped
  obtain ⟨fresh, endpoint, closed⟩ := valid.head queue
  let popped : OrderingPass := { pass with ready := rest, order := pass.order ++ [id] }
  have order : ((constraints.successors id).foldl release popped).order = pass.order ++ [id] :=
    order_foldl_release _ _
  have ready : ((constraints.successors id).foldl release popped).ready.Perm
      (rest ++ (constraints.successors id).filter pass.almostFree) :=
    ready_foldl_release Constraints.successors_nodup popped
  have released (x : Nat) : x ∈ (constraints.successors id).filter pass.almostFree ↔
      constraints.Requires id x ∧ (waitingFor constraints pass.order x).length ≤ 1 := by
    rw [List.mem_filter, Constraints.mem_successors]
    exact and_congr_right fun required => valid.almostFree_iff required.right_mem
  constructor
  case degree =>
    intro x
    rw [get?_foldl_release Constraints.successors_nodup, order, length_waitingFor_append fresh,
      valid.degree]
    simp only [Constraints.mem_successors]
    by_cases required : constraints.Requires id x
    · simp [required, required.right_mem]
    · simp [required]
  case free =>
    intro x
    have before := valid.free x
    rw [order, waitingFor_append_eq_nil fresh, ready.mem_iff, List.mem_append, List.mem_append,
      released, List.mem_singleton]
    rw [queue, List.mem_cons] at before
    by_cases required : constraints.Requires id x
    · have waiting := mem_waitingFor.mpr ⟨required, fresh⟩
      have occupied : waitingFor constraints pass.order x ≠ [] := List.ne_nil_of_mem waiting
      simp only [occupied, and_false, iff_false, not_or] at before
      simp [before, required, required.right_mem]
    · simp only [required, if_false, false_and, or_false, ← before, or_assoc]
  case once =>
    rw [order]
    refine (List.Perm.append_left _ ready).nodup_iff.mpr ?_
    have once := valid.once
    rw [queue] at once
    rw [← List.append_assoc, List.append_assoc pass.order]
    refine List.nodup_append'.mpr ⟨by simpa using once, Constraints.successors_nodup.filter _, ?_⟩
    intro x known new
    have waiting := mem_waitingFor.mpr ⟨((released x).mp new).1, fresh⟩
    have free := (valid.free x).mp (by simpa [queue] using known)
    exact List.not_mem_nil (free.2 ▸ waiting)
  case ascending =>
    have ascending := valid.ascending
    rw [queue] at ascending
    have rest : popped.ready.Pairwise (· ≤ ·) := ascending.of_cons
    exact ready_ascending_foldl_release _ rest
  case met =>
    intro a b required member
    rw [order] at member ⊢
    rcases List.mem_append.mp member with member | member
    · exact (valid.met a b required member).of_sublist (List.sublist_append_left ..)
    · obtain rfl := List.mem_singleton.mp member
      exact .of_mem_append (closed a required) List.mem_cons_self

theorem run_invariant (valid : Invariant constraints pass) (fuel : Nat) :
    Invariant constraints (run constraints fuel pass) := by
  induction fuel generalizing pass with
  | zero => exact valid
  | succ fuel ih =>
    rw [run]
    split
    · exact valid
    · exact ih (step_invariant valid ‹_›)

theorem Invariant.keys_perm (valid : Invariant constraints pass) :
    pass.inDegree.keys.Perm constraints.endpoints.toList := by
  apply (List.perm_ext_iff_of_nodup pass.inDegree.keys_nodup constraints.endpoints.nodup).mpr
  intro id
  rw [Table.mem_keys, valid.degree]
  change _ ↔ id ∈ constraints.endpoints
  split <;> simp_all

theorem Invariant.size_eq (valid : Invariant constraints pass) :
    pass.inDegree.size = constraints.endpoints.toList.length := by
  simpa [Table.keys, Table.size] using valid.keys_perm.length_eq

/-- Nodes that are ordered or ready are endpoints, and none is counted twice. -/
theorem Invariant.length_le (valid : Invariant constraints pass) :
    (pass.order ++ pass.ready).length ≤ constraints.endpoints.toList.length := by
  refine (valid.once.subperm fun id member => ?_).length_le
  exact ((valid.free id).mp (List.mem_append.mp member)).1

/-- Each step orders one more endpoint, so that with fuel for all endpoints the queue runs empty. -/
theorem ready_run (valid : Invariant constraints pass) {fuel : Nat}
    (enough : constraints.endpoints.toList.length ≤ pass.order.length + fuel) :
    (run constraints fuel pass).ready = [] := by
  induction fuel generalizing pass with
  | zero =>
    have bound := valid.length_le
    rw [List.length_append] at bound
    have empty : pass.ready.length = 0 := by omega
    exact List.eq_nil_of_length_eq_zero empty
  | succ fuel ih =>
    rw [run]
    split
    · exact step_eq_none.mp ‹_›
    · rename_i next stepped
      have valid := step_invariant valid stepped
      obtain ⟨id, rest, _, rfl⟩ := step_eq_some.mp stepped
      refine ih valid ?_
      rw [order_foldl_release, List.length_append, List.length_singleton]
      omega

theorem finish_invariant (constraints : Constraints) :
    Invariant constraints (finish constraints) :=
  run_invariant (start_invariant constraints) _

theorem ready_finish (constraints : Constraints) : (finish constraints).ready = [] := by
  have valid := start_invariant constraints
  apply ready_run valid
  rw [valid.size_eq]
  exact Nat.le_add_left ..

/-- In the end those nodes are ordered that have to wait for none of the others. -/
theorem mem_order_finish {id : Nat} : id ∈ (finish constraints).order ↔
    id ∈ constraints.endpoints ∧ waitingFor constraints (finish constraints).order id = [] := by
  have free := (finish_invariant constraints).free id
  rw [ready_finish] at free
  simpa using free

theorem order_finish_nodup : (finish constraints).order.Nodup := by
  have once := (finish_invariant constraints).once
  rwa [ready_finish, List.append_nil] at once

theorem mem_remaining_finish {id : Nat} : id ∈ (finish constraints).remaining ↔
    id ∈ constraints.endpoints ∧ id ∉ (finish constraints).order := by
  have valid := finish_invariant constraints
  have degree : id ∈ (finish constraints).remaining ↔
      ∃ count, (finish constraints).inDegree.get? id = some count ∧ 0 < count := by
    simp only [remaining, List.mem_map, List.mem_filter, Table.get?_eq_some_iff]
    constructor
    · rintro ⟨⟨_, count⟩, ⟨member, positive⟩, rfl⟩
      exact ⟨count, member, by simpa using positive⟩
    · rintro ⟨count, member, positive⟩
      exact ⟨_, ⟨member, by simpa using positive⟩, rfl⟩
  rw [degree, valid.degree, mem_order_finish]
  by_cases endpoint : id ∈ constraints.endpoints
  · simp [endpoint, List.length_pos_iff]
  · simp [endpoint]

/-- Each node that is left has a predecessor that is left. -/
theorem exists_remaining_predecessor {id : Nat} (left : id ∈ (finish constraints).remaining) :
    ∃ a ∈ (finish constraints).remaining, constraints.Requires a id := by
  obtain ⟨endpoint, absent⟩ := mem_remaining_finish.mp left
  have waits : waitingFor constraints (finish constraints).order id ≠ [] := fun none =>
    absent (mem_order_finish.mpr ⟨endpoint, none⟩)
  obtain ⟨a, member⟩ := List.exists_mem_of_ne_nil _ waits
  obtain ⟨required, absent⟩ := mem_waitingFor.mp member
  exact ⟨a, mem_remaining_finish.mpr ⟨required.left_mem, absent⟩, required⟩

/-- The pass falls short of the endpoints if and only if some node is left. -/
theorem length_order_finish_lt_iff :
    (finish constraints).order.length < (finish constraints).inDegree.size ↔
      (finish constraints).remaining ≠ [] := by
  have valid := finish_invariant constraints
  rw [valid.size_eq]
  constructor
  · intro short none
    have all : constraints.endpoints.toList ⊆ (finish constraints).order := by
      intro id endpoint
      by_contra absent
      exact List.not_mem_nil (none ▸ mem_remaining_finish.mpr ⟨endpoint, absent⟩)
    have bound := (constraints.endpoints.nodup.subperm all).length_le
    omega
  · intro some
    obtain ⟨id, left⟩ := List.exists_mem_of_ne_nil _ some
    obtain ⟨endpoint, absent⟩ := mem_remaining_finish.mp left
    have more : (id :: (finish constraints).order).Subperm constraints.endpoints.toList := by
      refine (List.nodup_cons.mpr ⟨absent, order_finish_nodup⟩).subperm fun x member => ?_
      rcases List.mem_cons.mp member with rfl | member
      · exact endpoint
      · exact (mem_order_finish.mp member).1
    exact more.length_le

end OrderingPass
end ShaderGraph
