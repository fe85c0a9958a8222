import Mathlib.Data.List.Chain
import Mathlib.Data.List.Perm.Subperm
import Mathlib.Data.List.Rotate
import ShaderGraph.Order.Cycle
import ShaderGraph.Proofs.Order.Constraint

/-! Cycles that are real: a walk among nodes of which each has a predecessor closes before its fuel
is spent, and what lies between the two visits of a node is a cycle of the constraints. -/
namespace ShaderGraph

/-- Each node has to come before the next, and the last before the first. -/
def Constraints.Circular (constraints : Constraints) (ids : List Nat) : Prop :=
  ∀ pair ∈ ids.zip (ids.rotate 1), constraints.Requires pair.1 pair.2

/-- What is reported as a cycle: nodes that are on one, each named once, from the lowest on. -/
structure Cycle.Valid (constraints : Constraints) (cycle : Cycle) : Prop where
  nonempty : cycle.ids ≠ []
  nodup : cycle.ids.Nodup
  circular : constraints.Circular cycle.ids
  lowest : ∀ first ∈ cycle.ids.head?, ∀ id ∈ cycle.ids, first ≤ id

variable {constraints : Constraints}

theorem forall_mem_zip_iff_isChain {r : α → α → Prop} {a b : α} {list : List α} :
    (∀ pair ∈ (a :: list).zip (list ++ [b]), r pair.1 pair.2) ↔ (a :: (list ++ [b])).IsChain r := by
  induction list generalizing a with
  | nil => simp
  | cons c rest ih =>
    rw [List.cons_append, List.isChain_cons_cons, ← ih, List.zip_cons_cons]
    exact List.forall_mem_cons

namespace Constraints

theorem circular_cons {first : Nat} {rest : List Nat} :
    constraints.Circular (first :: rest) ↔ (first :: (rest ++ [first])).IsChain constraints.Requires := by
  rw [Circular, List.rotate_cons_succ, List.rotate_zero]
  exact forall_mem_zip_iff_isChain

theorem circular_rotate {ids : List Nat} (n : Nat) :
    constraints.Circular (ids.rotate n) ↔ constraints.Circular ids := by
  have turned : (ids.rotate n).zip ((ids.rotate n).rotate 1) = (ids.zip (ids.rotate 1)).rotate n := by
    rw [List.rotate_rotate, Nat.add_comm, ← List.rotate_rotate]
    exact (List.zipWith_rotate_distrib Prod.mk ids (ids.rotate 1) n (by simp)).symm
  simp only [Circular, turned, List.mem_rotate]

theorem Circular.exists_requires {ids : List Nat} {id : Nat} (circular : constraints.Circular ids)
    (member : id ∈ ids) : ∃ next, constraints.Requires id next := by
  have firsts : (ids.zip (ids.rotate 1)).map Prod.fst = ids := List.map_fst_zip (by simp)
  rw [← firsts] at member
  obtain ⟨pair, among, rfl⟩ := List.mem_map.mp member
  exact ⟨pair.2, circular pair among⟩

theorem transGen_of_isChain {r : α → α → Prop} {a b : α} {list : List α}
    (chain : (a :: (list ++ [b])).IsChain r) : Relation.TransGen r a b := by
  induction list generalizing a with
  | nil => exact .single (List.isChain_pair.mp chain)
  | cons c rest ih =>
    obtain ⟨step, chain⟩ := List.isChain_cons_cons.mp chain
    exact .head step (ih chain)

end Constraints

theorem Cycle.Valid.cyclic {cycle : Cycle} (valid : cycle.Valid constraints) :
    constraints.Cyclic := by
  obtain ⟨ids⟩ := cycle
  cases ids with
  | nil => exact absurd rfl valid.nonempty
  | cons first rest =>
    exact ⟨first, Constraints.transGen_of_isChain (Constraints.circular_cons.mp valid.circular)⟩

theorem foldl_min_mem (list : List Nat) (id : Nat) : list.foldl Nat.min id ∈ id :: list := by
  induction list generalizing id with
  | nil => exact List.mem_cons_self
  | cons other rest ih =>
    rcases List.mem_cons.mp (ih (Nat.min id other)) with same | member
    · rw [List.foldl_cons, same]
      rcases Nat.le_total id other with less | less
      · simp [Nat.min_eq_left less]
      · simp [Nat.min_eq_right less]
    · exact List.mem_cons_of_mem _ (List.mem_cons_of_mem _ member)

theorem foldl_min_le {list : List Nat} {id other : Nat} (member : other ∈ id :: list) :
    list.foldl Nat.min id ≤ other := by
  have below (list : List Nat) (id : Nat) : list.foldl Nat.min id ≤ id := by
    induction list generalizing id with
    | nil => exact Nat.le_refl _
    | cons next rest ih => exact Nat.le_trans (ih _) (Nat.min_le_left ..)
  induction list generalizing id with
  | nil => exact Nat.le_of_eq (List.mem_singleton.mp member).symm
  | cons next rest ih =>
    rcases List.mem_cons.mp member with rfl | member
    · exact below ..
    · rcases List.mem_cons.mp member with rfl | member
      · exact Nat.le_trans (below rest (Nat.min id other)) (Nat.min_le_right ..)
      · exact ih (List.mem_cons_of_mem _ member)

theorem dropWhile_ne [DecidableEq α] {list : List α} {a : α} (member : a ∈ list) :
    ∃ rest, list.dropWhile (· ≠ a) = a :: rest := by
  induction list with
  | nil => exact absurd member List.not_mem_nil
  | cons b rest ih =>
    by_cases same : b = a
    · exact ⟨rest, by simp [same]⟩
    · obtain ⟨behind, found⟩ := ih ((List.mem_cons.mp member).resolve_left (Ne.symm same))
      exact ⟨behind, by simpa [same] using found⟩

theorem takeWhile_ne [DecidableEq α] {list : List α} {a : α} (member : a ∈ list) :
    ∃ after, list = (list.takeWhile (· ≠ a) ++ [a]) ++ after := by
  obtain ⟨after, found⟩ := dropWhile_ne member
  refine ⟨after, ?_⟩
  rw [← List.append_cons, ← found]
  exact List.takeWhile_append_dropWhile.symm

theorem fromLowest_eq_rotate (ids : List Nat) : ∃ n, fromLowest ids = ids.rotate n := by
  cases ids with
  | nil => exact ⟨0, rfl⟩
  | cons id rest =>
    let lowest := rest.foldl Nat.min id
    refine ⟨((id :: rest).takeWhile (· ≠ lowest)).length, ?_⟩
    have turned := List.rotate_append_length_eq
      ((id :: rest).takeWhile (· ≠ lowest)) ((id :: rest).dropWhile (· ≠ lowest))
    rw [List.takeWhile_append_dropWhile] at turned
    exact turned.symm

theorem head_fromLowest (id : Nat) (rest : List Nat) :
    (fromLowest (id :: rest)).head? = some (rest.foldl Nat.min id) := by
  obtain ⟨behind, found⟩ := dropWhile_ne (foldl_min_mem rest id)
  simp only [fromLowest, found, List.cons_append, List.head?_cons]

theorem fromLowest_valid {ids : List Nat} (nonempty : ids ≠ []) (nodup : ids.Nodup)
    (circular : constraints.Circular ids) : (Cycle.mk (fromLowest ids)).Valid constraints := by
  obtain ⟨n, turned⟩ := fromLowest_eq_rotate ids
  refine ⟨?_, ?_, ?_, ?_⟩
  · simpa [turned] using nonempty
  · simpa [turned] using nodup
  · simpa [turned, Constraints.circular_rotate] using circular
  · intro first head id member
    rw [turned, List.mem_rotate] at member
    cases ids with
    | nil => exact absurd rfl nonempty
    | cons start rest =>
      rw [head_fromLowest, Option.mem_some] at head
      exact head ▸ foldl_min_le member

/-- The part of a path up to a node is a cycle if the node has to come before the path's head. -/
theorem circular_of_path {current previous : Nat} {behind : List Nat}
    (chain : (current :: behind).IsChain constraints.Requires)
    (met : previous ∈ current :: behind) (step : constraints.Requires previous current) :
    constraints.Circular ((current :: behind).takeWhile (· ≠ previous) ++ [previous]) := by
  obtain ⟨after, split⟩ := takeWhile_ne met
  generalize (current :: behind).takeWhile (· ≠ previous) = loop at split ⊢
  have chain : (loop ++ [previous]).IsChain constraints.Requires :=
    (split ▸ chain).left_of_append
  cases loop with
  | nil =>
    obtain ⟨rfl, _⟩ := List.cons.inj split
    exact Constraints.circular_cons.mpr (List.isChain_pair.mpr step)
  | cons first rest =>
    obtain ⟨rfl, _⟩ := List.cons.inj split
    have last : (current :: (rest ++ [previous])).getLast? = some previous :=
      List.getLast?_concat (l := current :: rest)
    refine Constraints.circular_cons.mpr (List.isChain_append.mpr ⟨chain, by simp, ?_⟩)
    simpa [last] using step

/-- Walking back among nodes of which each has a predecessor, one comes back to the path. The path
has no node twice, so it is longer than all nodes together before the fuel is spent. -/
theorem walk_closed {remaining behind : List Nat} {current fuel : Nat}
    (left : ∀ id ∈ remaining, ∃ a ∈ remaining, constraints.Requires a id)
    (chain : (current :: behind).IsChain constraints.Requires)
    (unique : (current :: behind).Nodup) (within : current :: behind ⊆ remaining)
    (enough : remaining.length < fuel + (current :: behind).length) :
    ∃ ids, walk constraints remaining fuel current (current :: behind) = .closed ids ∧
      (Cycle.mk ids).Valid constraints := by
  induction fuel generalizing current behind with
  | zero =>
    have bound := (unique.subperm within).length_le
    omega
  | succ fuel ih =>
    rw [walk]
    split
    · rename_i none
      obtain ⟨a, member, required⟩ := left current (within List.mem_cons_self)
      have excluded := List.find?_eq_none.mp none a (Constraints.mem_predecessors.mpr required)
      exact absurd (List.contains_iff_mem.mpr member) excluded
    · rename_i previous found
      have step := Constraints.mem_predecessors.mp (List.mem_of_find?_eq_some found)
      have member : previous ∈ remaining := by simpa using List.find?_some found
      split
      · rename_i met
        have met : previous ∈ current :: behind := by simpa using met
        refine ⟨_, rfl, fromLowest_valid (by simp) ?_ (circular_of_path chain met step)⟩
        obtain ⟨after, split⟩ := takeWhile_ne met
        rw [split] at unique
        exact unique.of_append_left
      · rename_i fresh
        have fresh : previous ∉ current :: behind := by simpa using fresh
        refine ih (List.isChain_cons_cons.mpr ⟨step, chain⟩) (List.nodup_cons.mpr ⟨fresh, unique⟩)
          (List.cons_subset.mpr ⟨member, within⟩) ?_
        simp only [List.length_cons] at enough ⊢
        omega

/-- A walk that closes does not use what is left of its fuel. -/
theorem walk_closed_of_le {remaining path ids : List Nat} {current fuel more : Nat}
    (closed : walk constraints remaining fuel current path = .closed ids) (enough : fuel ≤ more) :
    walk constraints remaining more current path = .closed ids := by
  induction fuel generalizing current path more with
  | zero => rw [walk] at closed; contradiction
  | succ fuel ih =>
    obtain ⟨more, rfl⟩ := Nat.exists_eq_add_of_le' (Nat.le_trans (Nat.le_add_left 1 fuel) enough)
    rw [walk] at closed ⊢
    split at closed
    · contradiction
    · split at closed
      · rename_i met
        rwa [if_pos met]
      · rename_i fresh
        rw [if_neg fresh]
        exact ih closed (Nat.le_of_succ_le_succ enough)

theorem trace_closed {remaining : List Nat} (nonempty : remaining ≠ [])
    (left : ∀ id ∈ remaining, ∃ a ∈ remaining, constraints.Requires a id) :
    ∃ ids, trace constraints remaining = .closed ids ∧ (Cycle.mk ids).Valid constraints := by
  cases remaining with
  | nil => exact absurd rfl nonempty
  | cons id rest =>
    exact walk_closed left (List.isChain_singleton id) (List.nodup_singleton id) (by simp) (by simp)

end ShaderGraph
