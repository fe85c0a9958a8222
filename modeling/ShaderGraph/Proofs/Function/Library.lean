import ShaderGraph.Function.Library
import ShaderGraph.Proofs.Run
import ShaderGraph.Proofs.Table

/-! Libraries only grow: the signatures that are kept stay, and what is added is what metadata
describe. -/
namespace ShaderGraph.Library

/-- A library keeps the signatures of an earlier one, and besides only signatures that a metadata
document describes. -/
structure Extends (later earlier : Library σ) : Prop where
  kept : ∀ function signature, earlier.signatures.get? function = some signature →
    later.signatures.get? function = some signature
  described : ∀ function signature, later.signatures.get? function = some signature →
    earlier.signatures.get? function = some signature ∨
      ∃ text, Signature.parse function text = .ok signature

namespace Extends

theorem of_signatures_eq {later earlier : Library σ} (same : later.signatures = earlier.signatures) :
    later.Extends earlier :=
  ⟨fun _ _ found => same ▸ found, fun _ _ found => .inl (same ▸ found)⟩

theorem refl (library : Library σ) : library.Extends library := .of_signatures_eq rfl

theorem trans {first second third : Library σ} (late : third.Extends second)
    (early : second.Extends first) : third.Extends first := by
  refine ⟨fun f s found => late.kept f s (early.kept f s found), fun f s found => ?_⟩
  rcases late.described f s found with found | described
  · exact early.described f s found
  · exact .inr described

theorem insert {library : Library σ} {function text : String} {signature : Signature} (store : σ)
    (absent : library.signatures.get? function = none)
    (parsed : Signature.parse function text = .ok signature) :
    Extends { library with store, signatures := library.signatures.insert function signature }
      library := by
  constructor
  · intro other known found
    have apart : other ≠ function := fun same => by simp [same, absent] at found
    simpa [Table.get?_insert, apart] using found
  · intro other known found
    by_cases same : other = function
    · subst same
      simp only [Table.get?_insert, if_true, Option.some.injEq] at found
      exact .inr ⟨text, found ▸ parsed⟩
    · exact .inl (by simpa [Table.get?_insert, same] using found)

end Extends

variable [ResourceStore σ] {library final : Library σ}

theorem load_extends (function : String) (library : Library σ) :
    (load function library).state.Extends library := by
  rw [load]
  split
  · exact .refl library
  · rename_i absent
    simp only
    split
    · exact .of_signatures_eq rfl
    · split
      · exact .of_signatures_eq rfl
      · exact .insert _ absent ‹_›

theorem loadSource_extends (function : String) (path : ResourcePath) (library : Library σ) :
    (loadSource function path library).state.Extends library := by
  rw [loadSource]
  split
  · exact .refl library
  · simp only
    split <;> exact .of_signatures_eq rfl

/-- What was loaded is kept. -/
theorem get?_of_load_returns {function : String} {signature : Signature}
    (loaded : (load function).Returns library signature final) :
    final.signatures.get? function = some signature := by
  obtain ⟨result, rfl⟩ := loaded
  revert result
  rw [load]
  split
  · rename_i known found
    exact fun same => found.trans (congrArg some (Except.ok.inj same))
  · simp only
    split
    · intro failed
      contradiction
    · split
      · intro failed
        contradiction
      · intro same
        simp [Table.get?_insert, Except.ok.inj same]

end ShaderGraph.Library
