import ShaderGraph.Order.Schedule
import ShaderGraph.Proofs.Order.Cycle
import ShaderGraph.Proofs.Order.Pass

/-! Schedules are orders of the given nodes and the endpoints of the constraints that meet all
constraints, and there is one unless the constraints have a cycle, which is then reported. -/
namespace ShaderGraph

/-- A schedule meets the constraints with the nodes that stand in them, and has the others behind. -/
structure Schedule.Sound (ids : List Nat) (constraints : Constraints) (s : Schedule) : Prop where
  constrained : ∀ id, id ∈ s.constrained ↔ id ∈ constraints.endpoints
  unrelated : ∀ id, id ∈ s.unrelated ↔ id ∈ ids ∧ id ∉ constraints.endpoints
  nodup : s.order.Nodup
  met : ∀ a b, constraints.Requires a b → Precedes s.order a b

variable {ids : List Nat} {constraints : Constraints}

theorem schedule_of_remaining_eq_nil (none : (OrderingPass.finish constraints).remaining = []) :
    schedule ids constraints = .ok ⟨(OrderingPass.finish constraints).order,
      (SortedSet.ofList (ids.filter
        (!(OrderingPass.finish constraints).order.contains ·))).toList⟩ :=
  if_neg fun short => OrderingPass.length_order_finish_lt_iff.mp short none

theorem schedule_of_remaining_ne_nil (ids : List Nat)
    (some : (OrderingPass.finish constraints).remaining ≠ []) :
    ∃ cycle, schedule ids constraints = .error cycle ∧ cycle.Valid constraints := by
  obtain ⟨cycle, traced, valid⟩ :=
    trace_closed some fun _ left => OrderingPass.exists_remaining_predecessor left
  refine ⟨⟨cycle⟩, ?_, valid⟩
  rw [schedule, if_pos (OrderingPass.length_order_finish_lt_iff.mpr some), traced]
  rfl

theorem mem_order_of_remaining_eq_nil (none : (OrderingPass.finish constraints).remaining = [])
    (id : Nat) : id ∈ (OrderingPass.finish constraints).order ↔ id ∈ constraints.endpoints := by
  constructor
  · exact fun ordered => (OrderingPass.mem_order_finish.mp ordered).1
  · intro endpoint
    by_contra absent
    exact List.not_mem_nil (none ▸ OrderingPass.mem_remaining_finish.mpr ⟨endpoint, absent⟩)

theorem schedule_sound {s : Schedule} (found : schedule ids constraints = .ok s) :
    s.Sound ids constraints := by
  by_cases none : (OrderingPass.finish constraints).remaining = []
  · rw [schedule_of_remaining_eq_nil none] at found
    obtain rfl := Except.ok.inj found
    have ordered := mem_order_of_remaining_eq_nil none
    have unrelated (id : Nat) : id ∈ (SortedSet.ofList (ids.filter
        (!(OrderingPass.finish constraints).order.contains ·))).toList ↔
        id ∈ ids ∧ id ∉ constraints.endpoints := by
      refine SortedSet.mem_ofList.trans ?_
      simp [ordered]
    refine ⟨ordered, unrelated, ?_, fun a b required => ?_⟩
    · refine List.nodup_append'.mpr ⟨OrderingPass.order_finish_nodup, SortedSet.nodup _, ?_⟩
      intro id first second
      exact ((unrelated id).mp second).2 ((ordered id).mp first)
    · have met := (OrderingPass.finish_invariant constraints).met a b required
      exact (met ((ordered b).mpr required.right_mem)).of_sublist (List.sublist_append_left ..)
  · obtain ⟨cycle, failed, _⟩ := schedule_of_remaining_ne_nil ids none
    rw [failed] at found
    contradiction

theorem unrelated_of_schedule {s : Schedule} (found : schedule ids constraints = .ok s) :
    s.unrelated = (SortedSet.ofList (ids.filter (!s.constrained.contains ·))).toList := by
  rw [schedule] at found
  split at found
  · contradiction
  · obtain rfl := Except.ok.inj found
    rfl

theorem valid_of_schedule {cycle : Cycle} (failed : schedule ids constraints = .error cycle) :
    cycle.Valid constraints := by
  by_cases none : (OrderingPass.finish constraints).remaining = []
  · rw [schedule_of_remaining_eq_nil none] at failed
    contradiction
  · obtain ⟨other, found, valid⟩ := schedule_of_remaining_ne_nil ids none
    obtain rfl := Except.error.inj (found.symm.trans failed)
    exact valid

theorem not_cyclic_of_schedule {s : Schedule} (found : schedule ids constraints = .ok s) :
    ¬constraints.Cyclic :=
  have sound := schedule_sound found
  Constraints.not_cyclic_of_order sound.nodup sound.met

/-- No schedule is found if and only if the constraints have a cycle, whatever nodes are given, and
what is reported then is such a cycle. -/
theorem schedule_error_iff_cyclic (ids : List Nat) (constraints : Constraints) :
    ((∃ cycle, schedule ids constraints = .error cycle) ↔ constraints.Cyclic) ∧
      ∀ cycle, schedule ids constraints = .error cycle → cycle.Valid constraints := by
  refine ⟨⟨?_, fun cyclic => ?_⟩, fun _ => valid_of_schedule⟩
  · rintro ⟨cycle, failed⟩
    exact (valid_of_schedule failed).cyclic
  · cases found : schedule ids constraints with
    | error cycle => exact ⟨cycle, rfl⟩
    | ok s => exact absurd cyclic (not_cyclic_of_schedule found)

/-- The walk starts behind the cycle here, and the node in front of it is not reported. -/
theorem schedule_error_behind_cycle :
    let constraints : Constraints := .ofList [⟨1, 2⟩, ⟨3, 4⟩, ⟨4, 3⟩, ⟨4, 1⟩]
    schedule [2, 1, 5] constraints = .error ⟨[3, 4]⟩ ∧
      (Cycle.mk [3, 4]).Valid constraints :=
  ⟨rfl, (schedule_error_iff_cyclic [2, 1, 5] _).2 _ rfl⟩

end ShaderGraph
