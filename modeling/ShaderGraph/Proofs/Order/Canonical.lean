import ShaderGraph.Proofs.Order.Schedule

/-! The order of the pass is the least. Of all orders that meet the constraints it comes first
lexicographically, since each node in it is the lowest that could stand at its place. -/
namespace ShaderGraph

variable {constraints : Constraints}

namespace Constraints

/-- An order of the nodes that stand in a constraint, each of them once, which meets all
constraints. -/
structure Linearizes (constraints : Constraints) (order : List Nat) : Prop where
  perm : order.Perm constraints.endpoints.toList
  met : ∀ a b, constraints.Requires a b → Precedes order a b

/-- A node that may go next once those in front have gone. -/
structure Available (constraints : Constraints) (front : List Nat) (id : Nat) : Prop where
  endpoint : id ∈ constraints.endpoints
  fresh : id ∉ front
  free : ∀ a, constraints.Requires a id → a ∈ front

/-- Each node is the lowest of those that could have gone in its place. -/
def Greedy (constraints : Constraints) (order : List Nat) : Prop :=
  ∀ front id back, order = front ++ id :: back →
    ∀ other, constraints.Available front other → id ≤ other

variable {order front rest other : List Nat} {id : Nat}

theorem Linearizes.nodup (linear : constraints.Linearizes order) : order.Nodup :=
  linear.perm.nodup_iff.mpr constraints.endpoints.nodup

theorem Linearizes.available (linear : constraints.Linearizes (front ++ id :: rest)) :
    constraints.Available front id := by
  constructor
  case endpoint => exact linear.perm.subset (by simp)
  case fresh => exact fun member => List.disjoint_of_nodup_append linear.nodup member (by simp)
  case free => exact fun a required => (linear.met a id required).mem_front linear.nodup

theorem greedy_nil : constraints.Greedy [] := by
  intro front id back split
  simp at split

theorem Greedy.append (greedy : constraints.Greedy order)
    (least : ∀ other, constraints.Available order other → id ≤ other) :
    constraints.Greedy (order ++ [id]) := by
  intro front first back split
  rcases List.eq_nil_or_concat back with rfl | ⟨behind, last, rfl⟩
  · obtain ⟨rfl, same⟩ := List.append_inj' split rfl
    obtain rfl := List.singleton_inj.mp same
    exact least
  · rw [List.concat_eq_append, ← List.cons_append, ← List.append_assoc] at split
    obtain ⟨rfl, _⟩ := List.append_inj' split rfl
    exact greedy front first behind rfl

/-- Where a greedy order parts from another that meets the constraints, the other goes on with a
node that was available, and so with a higher one. -/
theorem Greedy.eq_or_lex (greedy : constraints.Greedy (front ++ rest))
    (linear : constraints.Linearizes (front ++ other)) (level : rest.length = other.length) :
    rest = other ∨ List.Lex (· < ·) rest other := by
  induction rest generalizing front other with
  | nil => exact .inl (List.eq_nil_of_length_eq_zero level.symm).symm
  | cons id rest ih =>
    cases other with
    | nil => contradiction
    | cons next others =>
      have least : id ≤ next := greedy front id rest rfl next linear.available
      rcases Nat.lt_or_eq_of_le least with less | rfl
      · exact .inr (.rel less)
      · rw [List.append_cons] at greedy linear
        exact (ih greedy linear (Nat.succ.inj level)).imp (congrArg (id :: ·)) .cons

end Constraints

namespace OrderingPass

variable {pass next : OrderingPass}

/-- All nodes that could go next are ready, and the pass takes the lowest of them. -/
theorem step_greedy (valid : Invariant constraints pass) (greedy : constraints.Greedy pass.order)
    (stepped : pass.step constraints = some next) : constraints.Greedy next.order := by
  obtain ⟨id, rest, queue, rfl⟩ := step_eq_some.mp stepped
  rw [order_foldl_release]
  refine greedy.append fun other available => ?_
  have free : waitingFor constraints pass.order other = [] := by
    refine List.eq_nil_iff_forall_not_mem.mpr fun a waits => ?_
    obtain ⟨required, absent⟩ := mem_waitingFor.mp waits
    exact absent (available.free a required)
  have ready : other ∈ pass.ready :=
    ((valid.free other).mpr ⟨available.endpoint, free⟩).resolve_left available.fresh
  have ascending := valid.ascending
  rw [queue] at ready ascending
  rcases List.mem_cons.mp ready with rfl | behind
  · exact Nat.le_refl other
  · exact (List.pairwise_cons.mp ascending).1 other behind

theorem run_greedy (valid : Invariant constraints pass) (greedy : constraints.Greedy pass.order)
    (fuel : Nat) : constraints.Greedy (run constraints fuel pass).order := by
  induction fuel generalizing pass with
  | zero => exact greedy
  | succ fuel ih =>
    rw [run]
    split
    · exact greedy
    · rename_i next stepped
      exact ih (step_invariant valid stepped) (step_greedy valid greedy stepped)

theorem finish_greedy (constraints : Constraints) : constraints.Greedy (finish constraints).order :=
  run_greedy (start_invariant constraints) Constraints.greedy_nil _

end OrderingPass

variable {ids : List Nat}

theorem schedule_of_not_cyclic (ids : List Nat) (acyclic : ¬constraints.Cyclic) :
    schedule ids constraints = .ok ⟨(OrderingPass.finish constraints).order,
      (SortedSet.ofList (ids.filter
        (!(OrderingPass.finish constraints).order.contains ·))).toList⟩ := by
  apply schedule_of_remaining_eq_nil
  by_contra some
  obtain ⟨_, _, valid⟩ := schedule_of_remaining_ne_nil ids some
  exact acyclic valid.cyclic

/-- Without a cycle the pass orders all nodes that stand in a constraint. -/
theorem finish_linearizes (acyclic : ¬constraints.Cyclic) :
    constraints.Linearizes (OrderingPass.finish constraints).order := by
  have sound := schedule_sound (schedule_of_not_cyclic [] acyclic)
  constructor
  case perm =>
    exact (List.perm_ext_iff_of_nodup OrderingPass.order_finish_nodup
      constraints.endpoints.nodup).mpr sound.constrained
  case met =>
    intro a b required
    have ordered := (sound.constrained b).mpr required.right_mem
    exact (OrderingPass.finish_invariant constraints).met a b required ordered

/-- Without a cycle, a schedule is the lexicographically least order of the nodes that stand in a
constraint among those that meet all constraints, and then the other given nodes, ascending. -/
theorem schedule_eq_least_order (ids : List Nat) (acyclic : ¬constraints.Cyclic) :
    ∃ s, schedule ids constraints = .ok s ∧ s.order = s.constrained ++ s.unrelated ∧
      constraints.Linearizes s.constrained ∧
      (∀ other, constraints.Linearizes other →
        s.constrained = other ∨ List.Lex (· < ·) s.constrained other) ∧
      s.unrelated.Pairwise (· < ·) ∧
      ∀ id, id ∈ s.unrelated ↔ id ∈ ids ∧ id ∉ constraints.endpoints := by
  have found := schedule_of_not_cyclic ids acyclic
  have linear := finish_linearizes acyclic
  refine ⟨_, found, rfl, linear, fun other another => ?_, SortedSet.ascending _,
    (schedule_sound found).unrelated⟩
  have level := (linear.perm.trans another.perm.symm).length_eq
  have greedy : constraints.Greedy ([] ++ (OrderingPass.finish constraints).order) :=
    OrderingPass.finish_greedy constraints
  exact greedy.eq_or_lex another level

def twoChains : Constraints := .ofList [⟨3, 1⟩, ⟨2, 4⟩]

/-- Node 4 is released first, but not before 3 is ready, and then 1. -/
theorem twoChains_least_order :
    ¬twoChains.Cyclic ∧ schedule [7, 2, 0, 7] twoChains = .ok ⟨[2, 3, 1, 4], [0, 7]⟩ ∧
      twoChains.Linearizes [2, 3, 1, 4] ∧
      ∀ other, twoChains.Linearizes other →
        [2, 3, 1, 4] = other ∨ List.Lex (· < ·) [2, 3, 1, 4] other := by
  have found : schedule [7, 2, 0, 7] twoChains = .ok ⟨[2, 3, 1, 4], [0, 7]⟩ := rfl
  have acyclic := not_cyclic_of_schedule found
  obtain ⟨s, same, _, linear, least, _⟩ := schedule_eq_least_order [7, 2, 0, 7] acyclic
  obtain rfl := Except.ok.inj (found.symm.trans same)
  exact ⟨acyclic, found, linear, least⟩

end ShaderGraph
