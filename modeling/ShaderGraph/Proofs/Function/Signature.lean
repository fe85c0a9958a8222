import ShaderGraph.Proofs.Function.Library

/-! The order of the parameters of a function. Metadata give each parameter one index, and two
parameters with one index stand in the order of their names. -/
namespace ShaderGraph

def Param.Before (a b : Param) : Prop :=
  a.index < b.index ∨ a.index = b.index ∧ a.name < b.name

theorem placeByIndex_perm (param : Param) (params : List Param) :
    (placeByIndex param params).Perm (param :: params) := by
  induction params with
  | nil => exact .refl _
  | cons first rest ih =>
    rw [placeByIndex]
    split
    · exact .refl _
    · exact (ih.cons first).trans (.swap param first rest)

theorem byIndex_perm (params : List Param) : (byIndex params).Perm params := by
  induction params with
  | nil => exact .refl _
  | cons param rest ih =>
    rw [byIndex, List.foldr_cons, ← byIndex]
    exact (placeByIndex_perm param (byIndex rest)).trans (ih.cons param)

theorem mem_placeByIndex {param other : Param} {params : List Param} :
    other ∈ placeByIndex param params ↔ other = param ∨ other ∈ params :=
  (placeByIndex_perm param params).mem_iff.trans List.mem_cons

theorem mem_byIndex {other : Param} {params : List Param} :
    other ∈ byIndex params ↔ other ∈ params :=
  (byIndex_perm params).mem_iff

/-- A parameter stays in front of those with its index, so its name has to come first. -/
theorem pairwise_placeByIndex {param : Param} {params : List Param}
    (ordered : params.Pairwise Param.Before) (least : ∀ other ∈ params, param.name < other.name) :
    (placeByIndex param params).Pairwise Param.Before := by
  induction params with
  | nil => exact List.pairwise_singleton _ _
  | cons first rest ih =>
    obtain ⟨front, ordered⟩ := List.pairwise_cons.mp ordered
    rw [placeByIndex]
    split
    · rename_i below
      have tail := List.pairwise_cons.mpr ⟨front, ordered⟩
      refine List.pairwise_cons.mpr ⟨fun other member => ?_, tail⟩
      have below : param.index ≤ other.index := by
        rcases List.mem_cons.mp member with rfl | member
        · exact below
        · have := front other member
          unfold Param.Before at this
          omega
      rcases Int.lt_or_eq_of_le below with less | level
      · exact .inl less
      · exact .inr ⟨level, least other member⟩
    · rename_i above
      refine List.pairwise_cons.mpr ⟨fun other member => ?_, ?_⟩
      · rcases mem_placeByIndex.mp member with rfl | member
        · exact .inl (Int.not_le.mp above)
        · exact front other member
      · exact ih ordered fun other member => least other (List.mem_cons_of_mem _ member)

theorem pairwise_byIndex {params : List Param}
    (ascending : params.Pairwise (fun a b => a.name < b.name)) :
    (byIndex params).Pairwise Param.Before := by
  induction params with
  | nil => exact .nil
  | cons param rest ih =>
    obtain ⟨least, ascending⟩ := List.pairwise_cons.mp ascending
    refine pairwise_placeByIndex (ih ascending) fun other member => ?_
    exact least other (mem_byIndex.mp member)

theorem ParamTable.pairwise_params (table : ParamTable) : table.params.Pairwise Param.Before :=
  pairwise_byIndex (List.pairwise_map.mpr table.ascending)

theorem ParamTable.names_nodup (table : ParamTable) : (table.params.map Param.name).Nodup := by
  have names : (table.params.map Param.name).Perm table.keys := by
    refine ((byIndex_perm _).map Param.name).trans (.of_eq ?_)
    simp [Table.keys, Function.comp_def]
  exact names.nodup_iff.mpr table.keys_nodup

structure Signature.Ordered (signature : Signature) : Prop where
  inputs : signature.inputs.Pairwise Param.Before
  outputs : signature.outputs.Pairwise Param.Before

structure Signature.Named (signature : Signature) : Prop where
  inputs : (signature.inputs.map Param.name).Nodup
  outputs : (signature.outputs.map Param.name).Nodup

theorem Metadata.ordered_signature (name : String) (m : Metadata) : (m.signature name).Ordered :=
  ⟨m.inputs.pairwise_params, m.outputs.pairwise_params⟩

theorem Metadata.named_signature (name : String) (m : Metadata) : (m.signature name).Named :=
  ⟨m.inputs.names_nodup, m.outputs.names_nodup⟩

theorem Signature.metadata_of_parse {name text : String} {signature : Signature}
    (parsed : parse name text = .ok signature) : ∃ m : Metadata, signature = m.signature name := by
  rw [parse] at parsed
  cases read : Metadata.parse text with
  | error cause => simp [read, Functor.map, Except.map] at parsed
  | ok m =>
    rw [read] at parsed
    exact ⟨m, (Except.ok.inj parsed).symm⟩

namespace Library

def Ordered (library : Library σ) : Prop :=
  ∀ function signature, library.signatures.get? function = some signature → signature.Ordered

/-- In all signatures that are kept the parameters differ in their names. -/
def Named (library : Library σ) : Prop :=
  ∀ function signature, library.signatures.get? function = some signature → signature.Named

theorem ordered_ofStore (store : σ) : (ofStore store).Ordered :=
  fun _ _ found => nomatch found

theorem named_ofStore (store : σ) : (ofStore store).Named :=
  fun _ _ found => nomatch found

/-- What holds of all signatures that metadata describe holds of those that are added. -/
theorem Extends.forall_signatures {P : Signature → Prop} {later earlier : Library σ}
    (grown : later.Extends earlier) (described : ∀ name (m : Metadata), P (m.signature name))
    (kept : ∀ f s, earlier.signatures.get? f = some s → P s) :
    ∀ f s, later.signatures.get? f = some s → P s := by
  intro function signature found
  rcases grown.described function signature found with known | ⟨text, parsed⟩
  · exact kept function signature known
  · obtain ⟨m, rfl⟩ := Signature.metadata_of_parse parsed
    exact described function m

theorem Extends.ordered {later earlier : Library σ} (grown : later.Extends earlier)
    (ordered : earlier.Ordered) : later.Ordered :=
  grown.forall_signatures Metadata.ordered_signature ordered

theorem Extends.named {later earlier : Library σ} (grown : later.Extends earlier)
    (named : earlier.Named) : later.Named :=
  grown.forall_signatures Metadata.named_signature named

end Library
end ShaderGraph
