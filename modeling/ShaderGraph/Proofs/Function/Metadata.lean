import ShaderGraph.Function.Library
import ShaderGraph.Proofs.Glsl.Declaration

/-! What metadata documents declare: one variable for each name that they list under a type. A type
with empty brackets is that of an array, whose length is written behind the name. -/
namespace ShaderGraph

deriving instance DecidableEq for Metadata

def itemType? (type : String) : Option String := (beforeBrackets? type.toList).map String.ofList

def declareName (type name : String) : Declaration :=
  match itemType? type with
  | some item => ⟨item, name ++ "[1]"⟩
  | none => ⟨type, name⟩

theorem declareNames_eq_map (type : String) (names : List String) :
    declareNames type names = names.map (declareName type) := by
  unfold declareNames declareName itemType?
  cases beforeBrackets? type.toList <;> rfl

namespace NameTable

def Lists (table : NameTable) (type name : String) : Prop :=
  ∃ names, (type, names) ∈ table.entries ∧ name ∈ names

theorem mem_declarations {table : NameTable} {d : Declaration} :
    d ∈ table.declarations.toList ↔ ∃ type name, table.Lists type name ∧ declareName type name = d := by
  rw [declarations, DeclarationSet.toList_ofList, List.mem_eraseDups]
  simp only [List.mem_flatMap, declareNames_eq_map, List.mem_map, Lists]
  constructor
  · rintro ⟨⟨type, names⟩, entry, name, listed, rfl⟩
    exact ⟨type, name, ⟨names, entry, listed⟩, rfl⟩
  · rintro ⟨type, name, ⟨names, entry, listed⟩, rfl⟩
    exact ⟨(type, names), entry, name, listed, rfl⟩

end NameTable

def Library.DescribedBy (library : Library σ) (metadata : String → Option Metadata) : Prop :=
  ∀ function signature, library.signatures.get? function = some signature →
    ∃ m, metadata function = some m ∧ m.signature function = signature

end ShaderGraph
