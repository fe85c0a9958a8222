import ShaderGraph.Proofs.Order.Schedule

/-! The ordering pass moment by moment. From one moment to the next a node is taken from the queue, or
one of its successors is released. No in-degree is lowered below zero, no node is queued twice, and the
nodes that are left in the end lead to a cycle. -/
namespace ShaderGraph.OrderingPass

/-- A pass on its way, with the successors of the node ordered last that are still to be released. All
nodes that have come into the queue so far are noted, which the pass itself does not do. -/
structure Moment where
  pass : OrderingPass
  pending : List Nat
  queued : List Nat
  deriving DecidableEq, Repr

def pop (pass : OrderingPass) (id : Nat) (rest : List Nat) : OrderingPass :=
  { pass with ready := rest, order := pass.order ++ [id] }

namespace Moment

def first (constraints : Constraints) : Moment :=
  ⟨start constraints, [], (start constraints).ready⟩

/-- Releases a successor, or takes the lowest node that is ready if there is none to release. -/
def next (constraints : Constraints) (m : Moment) : Option Moment :=
  match m.pending, m.pass.ready with
  | id :: pending, _ =>
    let queued := if m.pass.almostFree id then m.queued ++ [id] else m.queued
    some ⟨m.pass.release id, pending, queued⟩
  | [], id :: rest => some ⟨m.pass.pop id rest, constraints.successors id, m.queued⟩
  | [], [] => none

def Reached (constraints : Constraints) : Moment → Prop :=
  Relation.ReflTransGen (fun a b => a.next constraints = some b) (first constraints)

/-- What holds at each moment. The in-degree of a node is the number of its predecessors that are not
ordered. It is one more for the successors of the node ordered last, until they are released. -/
structure Safe (constraints : Constraints) (m : Moment) : Prop where
  degree : ∀ id, m.pass.inDegree.get? id =
    if id ∈ constraints.endpoints then
      some ((waitingFor constraints m.pass.order id).length + if id ∈ m.pending then 1 else 0)
    else none
  positive : ∀ id ∈ m.pending, ∃ degree, m.pass.inDegree.get? id = some (degree + 1)
  balance : m.queued.Perm (m.pass.order ++ m.pass.ready)
  once : m.queued.Nodup
  bound : m.pass.order.length ≤ constraints.endpoints.toList.length

variable {constraints : Constraints} {m later last : Moment} {pass : OrderingPass}

theorem next_cases (stepped : m.next constraints = some later) :
    (∃ id pending, m.pending = id :: pending ∧
      later = ⟨m.pass.release id, pending,
        if m.pass.almostFree id then m.queued ++ [id] else m.queued⟩) ∨
    ∃ id rest, m.pending = [] ∧ m.pass.ready = id :: rest ∧
      later = ⟨m.pass.pop id rest, constraints.successors id, m.queued⟩ := by
  rw [next] at stepped
  split at stepped
  · exact .inl ⟨_, _, ‹_›, (Option.some.inj stepped).symm⟩
  · exact .inr ⟨_, _, ‹_›, ‹_›, (Option.some.inj stepped).symm⟩
  · contradiction

theorem next_eq_none : m.next constraints = none ↔ m.pending = [] ∧ m.pass.ready = [] := by
  rw [next]
  split <;> simp_all

/-- A moment is in front of a turn of the loop, or in a turn that has released some successors of its
node and has others pending. -/
inductive InTurn (constraints : Constraints) : Moment → Prop
  | front {pass : OrderingPass} {queued : List Nat} (valid : Invariant constraints pass) :
      InTurn constraints ⟨pass, [], queued⟩
  | within {pass : OrderingPass} {id : Nat} {rest done pending queued : List Nat}
      (valid : Invariant constraints pass) (queue : pass.ready = id :: rest)
      (split : constraints.successors id = done ++ pending) :
      InTurn constraints ⟨done.foldl release (pass.pop id rest), pending, queued⟩

/-- A turn that has released all successors is over. -/
theorem InTurn.valid (turn : InTurn constraints m) (settled : m.pending = []) :
    Invariant constraints m.pass := by
  cases turn with
  | front valid => exact valid
  | @within pass id rest done pending queued valid queue split =>
    obtain rfl : pending = [] := settled
    rw [List.append_nil] at split
    exact step_invariant valid (step_eq_some.mpr ⟨id, rest, queue, split ▸ rfl⟩)

theorem InTurn.next (turn : InTurn constraints m) (stepped : m.next constraints = some later) :
    InTurn constraints later := by
  rcases next_cases stepped with ⟨id, pending, waits, rfl⟩ | ⟨id, rest, settled, queue, rfl⟩
  · cases turn with
    | front valid => contradiction
    | @within pass popped rest done _ queued valid queue split =>
      obtain rfl : _ = id :: pending := waits
      have released : release (done.foldl release (pass.pop popped rest)) id =
          (done ++ [id]).foldl release (pass.pop popped rest) := by
        rw [List.foldl_append, List.foldl_cons, List.foldl_nil]
      rw [released]
      exact .within valid queue (by rw [split, List.append_assoc, List.singleton_append])
  · have none : constraints.successors id = [] ++ constraints.successors id := rfl
    exact .within (turn.valid settled) queue none

theorem inTurn_of_reached (reached : Reached constraints m) : InTurn constraints m := by
  induction reached with
  | refl => exact .front (start_invariant constraints)
  | tail _ stepped ih => exact ih.next stepped

/-- What has come into the queue has been ordered or is still there. -/
theorem balance_next (balance : m.queued.Perm (m.pass.order ++ m.pass.ready))
    (stepped : m.next constraints = some later) :
    later.queued.Perm (later.pass.order ++ later.pass.ready) := by
  rcases next_cases stepped with ⟨id, pending, _, rfl⟩ | ⟨id, rest, _, queue, rfl⟩
  · have order : (m.pass.release id).order = m.pass.order := order_foldl_release [id] m.pass
    simp only [order, ready_release]
    split
    · have added : (m.queued ++ [id]).Perm (m.pass.order ++ (m.pass.ready ++ [id])) :=
        List.append_assoc .. ▸ balance.append_right [id]
      have last := (List.perm_append_singleton id m.pass.ready).trans (enqueue_perm id _).symm
      exact added.trans (last.append_left m.pass.order)
    · exact balance
  · rw [queue] at balance
    simpa [pop] using balance

theorem balance_of_reached (reached : Reached constraints m) :
    m.queued.Perm (m.pass.order ++ m.pass.ready) := by
  induction reached with
  | refl => exact .refl _
  | tail _ stepped ih => exact balance_next ih stepped

/-- At the end of its turn a moment has the same order, and nothing has left the queue. -/
theorem InTurn.ahead (turn : InTurn constraints m) : ∃ behind, Invariant constraints behind ∧
    m.pass.order = behind.order ∧ m.pass.ready.Subperm behind.ready := by
  cases turn with
  | front valid => exact ⟨_, valid, rfl, .refl _⟩
  | @within pass id rest done pending queued valid queue split =>
    have unique : (constraints.successors id).Nodup := Constraints.successors_nodup
    have whole := step_invariant valid (step_eq_some.mpr ⟨id, rest, queue, rfl⟩)
    refine ⟨_, whole, ?_, ?_⟩
    · simp only [order_foldl_release]
      rfl
    · have some := ready_foldl_release (split ▸ unique).of_append_left (pass.pop id rest)
      have all := ready_foldl_release unique (pass.pop id rest)
      refine some.subperm.trans (.trans (List.Sublist.subperm ?_) all.symm.subperm)
      rw [split, List.filter_append, ← List.append_assoc]
      exact List.sublist_append_left ..

theorem InTurn.degree (turn : InTurn constraints m) (id : Nat) : m.pass.inDegree.get? id =
    if id ∈ constraints.endpoints then
      some ((waitingFor constraints m.pass.order id).length + if id ∈ m.pending then 1 else 0)
    else none := by
  cases turn with
  | front valid => simpa using valid.degree id
  | @within pass popped rest done pending queued valid queue split =>
    obtain ⟨fresh, _, _⟩ := valid.head queue
    have unique : (done ++ pending).Nodup := split ▸ Constraints.successors_nodup
    have order : (done.foldl release (pass.pop popped rest)).order = pass.order ++ [popped] :=
      order_foldl_release _ _
    have successor : id ∈ done ∨ id ∈ pending ↔ constraints.Requires popped id := by
      rw [← List.mem_append, ← split, Constraints.mem_successors]
    have before : (pass.pop popped rest).inDegree.get? id = _ := valid.degree id
    simp only [get?_foldl_release unique.of_append_left, order, length_waitingFor_append fresh, before]
    by_cases required : constraints.Requires popped id
    · have waits : 0 < (waitingFor constraints pass.order id).length :=
        List.length_pos_of_mem (mem_waitingFor.mpr ⟨required, fresh⟩)
      by_cases released : id ∈ done
      · have settled : id ∉ pending := fun waiting =>
          List.disjoint_of_nodup_append unique released waiting
        simp [required, required.right_mem, released, settled]
      · have waiting : id ∈ pending := (successor.mpr required).resolve_left released
        simp [required, required.right_mem, released, waiting]
        omega
    · have apart := not_or.mp (mt successor.mp required)
      simp [required, apart.1, apart.2]

/-- What is to be released is a successor, and so an endpoint. -/
theorem InTurn.endpoint (turn : InTurn constraints m) {id : Nat} (waits : id ∈ m.pending) :
    id ∈ constraints.endpoints := by
  cases turn with
  | front valid => exact absurd waits List.not_mem_nil
  | within valid queue split =>
    have successor := split ▸ List.mem_append_right _ waits
    exact (Constraints.mem_successors.mp successor).right_mem

theorem safe_of_reached (reached : Reached constraints m) : m.Safe constraints := by
  have turn := inTurn_of_reached reached
  have balance := balance_of_reached reached
  obtain ⟨behind, valid, order, ready⟩ := turn.ahead
  constructor
  case degree => exact turn.degree
  case positive =>
    intro id waits
    refine ⟨(waitingFor constraints m.pass.order id).length, ?_⟩
    rw [turn.degree, if_pos (turn.endpoint waits), if_pos waits]
  case balance => exact balance
  case once =>
    refine balance.nodup_iff.mpr ?_
    rw [order]
    obtain ⟨some, same, kept⟩ := ready
    refine ((same.append_left behind.order).nodup_iff).mp (valid.once.sublist ?_)
    exact kept.append_left behind.order
  case bound =>
    have bound := valid.length_le
    rw [List.length_append] at bound
    rw [order]
    omega

theorem reached_release {pending queued : List Nat}
    (reached : Reached constraints ⟨pass, pending, queued⟩) :
    ∃ queued, Reached constraints ⟨pending.foldl release pass, [], queued⟩ := by
  induction pending generalizing pass queued with
  | nil => exact ⟨queued, reached⟩
  | cons id rest ih => exact ih (reached.tail rfl)

/-- The steps of a pass go through moments. -/
theorem reached_run {queued : List Nat} (reached : Reached constraints ⟨pass, [], queued⟩) (fuel : Nat) :
    ∃ queued, Reached constraints ⟨run constraints fuel pass, [], queued⟩ := by
  induction fuel generalizing pass queued with
  | zero => exact ⟨queued, reached⟩
  | succ fuel ih =>
    rw [run]
    split
    · exact ⟨queued, reached⟩
    · rename_i stepped
      obtain ⟨id, rest, queue, rfl⟩ := step_eq_some.mp stepped
      have popped : Reached constraints ⟨pass.pop id rest, constraints.successors id, queued⟩ :=
        reached.tail (by simp [next, queue])
      obtain ⟨more, released⟩ := reached_release popped
      exact ih released

theorem reached_finish (constraints : Constraints) :
    ∃ last, Reached constraints last ∧ last.next constraints = none ∧
      last.pass = finish constraints := by
  have begins : Reached constraints ⟨start constraints, [], (start constraints).ready⟩ := .refl
  obtain ⟨queued, reached⟩ := reached_run begins (start constraints).inDegree.size
  exact ⟨_, reached, next_eq_none.mpr ⟨rfl, ready_finish constraints⟩, rfl⟩

/-- There is one way through the moments, and so one end. -/
theorem pass_of_reached_end (reached : Reached constraints last)
    (stays : last.next constraints = none) : last.pass = finish constraints := by
  obtain ⟨other, found, ended, same⟩ := reached_finish constraints
  have no_further {a b : Moment} (none : a.next constraints = none)
      (way : Relation.ReflTransGen (fun a b => a.next constraints = some b) a b) : a = b := by
    rcases way.cases_head with here | ⟨_, stepped, _⟩
    · exact here
    · rw [none] at stepped
      contradiction
  have one : Relator.RightUnique fun a b : Moment => a.next constraints = some b :=
    fun _ _ _ first second => Option.some.inj (first.symm.trans second)
  rcases Relation.ReflTransGen.total_of_right_unique one reached found with way | way
  · rw [no_further stays way, same]
  · rw [← no_further ended way, same]

end Moment

/-- What is left when a pass is over. If nodes are left, the walk from the lowest of them comes back to a
node it has met, after at most as many steps as there are such nodes. -/
structure LeavesCycle (constraints : Constraints) (pass : OrderingPass) : Prop where
  left : ∀ id, id ∈ pass.remaining ↔ id ∈ constraints.endpoints ∧ id ∉ pass.order
  waits : ∀ id ∈ pass.remaining, ∃ a ∈ pass.remaining, constraints.Requires a id
  closed : pass.order.length < pass.inDegree.size → ∃ lowest others ids,
    pass.remaining = lowest :: others ∧ trace constraints pass.remaining = .closed ids ∧
    ∀ fuel, pass.remaining.length ≤ fuel →
      walk constraints pass.remaining fuel lowest [lowest] = .closed ids

theorem finish_leavesCycle (constraints : Constraints) :
    LeavesCycle constraints (finish constraints) := by
  constructor
  case left => exact fun id => mem_remaining_finish
  case waits => exact fun id => exists_remaining_predecessor
  case closed =>
    intro short
    have some := length_order_finish_lt_iff.mp short
    obtain ⟨ids, closed, _⟩ := trace_closed some fun _ => exists_remaining_predecessor
    obtain ⟨lowest, others, split⟩ := List.exists_cons_of_ne_nil some
    rw [split] at closed ⊢
    exact ⟨lowest, others, ids, rfl, closed, fun fuel enough => walk_closed_of_le closed enough⟩

/-- The loop is safe at each moment that it comes to, it ends, and what it leaves then leads to a
cycle. -/
theorem reached_safe (constraints : Constraints) :
    (∀ m, Moment.Reached constraints m → m.Safe constraints) ∧
      (∃ last, Moment.Reached constraints last ∧ last.next constraints = none) ∧
      ∀ last, Moment.Reached constraints last → last.next constraints = none →
        last.pass = finish constraints ∧ LeavesCycle constraints last.pass := by
  refine ⟨fun _ => Moment.safe_of_reached, ?_, fun last reached stays => ?_⟩
  · obtain ⟨last, reached, stays, _⟩ := Moment.reached_finish constraints
    exact ⟨last, reached, stays⟩
  · have same := Moment.pass_of_reached_end reached stays
    exact ⟨same, same ▸ finish_leavesCycle constraints⟩

def besideCycle : Constraints := .ofList [⟨5, 3⟩, ⟨3, 4⟩, ⟨4, 3⟩, ⟨4, 1⟩]

theorem besideCycle_safe :
    (∃ m : Moment, Moment.Reached besideCycle m ∧ m.pass.order = [5] ∧ m.pending = [3] ∧
      m.Safe besideCycle ∧ ∃ degree, m.pass.inDegree.get? 3 = some (degree + 1)) ∧
    ∃ last : Moment, Moment.Reached besideCycle last ∧ last.next besideCycle = none ∧
      last.pass.remaining = [1, 3, 4] ∧ LeavesCycle besideCycle last.pass ∧
      ∃ ids, trace besideCycle [1, 3, 4] = .closed ids := by
  obtain ⟨safe, _, leaves⟩ := reached_safe besideCycle
  have first : Moment.Reached besideCycle ⟨(start besideCycle).pop 5 [], [3], [5]⟩ :=
    .single rfl
  have last : Moment.Reached besideCycle ⟨((start besideCycle).pop 5 []).release 3, [], [5]⟩ :=
    first.tail rfl
  obtain ⟨_, left⟩ := leaves _ last rfl
  obtain ⟨_, _, ids, _, closed, _⟩ := left.closed (by decide +kernel)
  exact ⟨⟨_, first, rfl, rfl, safe _ first, (safe _ first).positive 3 List.mem_cons_self⟩,
    _, last, rfl, rfl, left, ids, closed⟩

end ShaderGraph.OrderingPass
