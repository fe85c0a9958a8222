import Mathlib.Data.List.Nodup
import ShaderGraph.Proofs.Function.Metadata
import ShaderGraph.Proofs.Function.Signature

/-! What a signature has of the metadata that it describes: their parameters in the order of index and
name, and the variables that their tables declare when they are walked key by key. -/
namespace ShaderGraph

theorem not_brackets_infix_cons {c : Char} {item : List Char} (flat : ¬['[', ']'] <:+: item)
    (apart : ∀ behind, c = '[' → item ≠ ']' :: behind) : ¬['[', ']'] <:+: c :: item := by
  rw [List.infix_cons_iff, not_or]
  refine ⟨fun starts => ?_, flat⟩
  obtain ⟨behind, same⟩ := starts
  obtain ⟨rfl, rfl⟩ := List.cons.inj same
  exact apart behind rfl rfl

theorem beforeBrackets?_eq_none {cs : List Char} (flat : beforeBrackets? cs = none) :
    ¬['[', ']'] <:+: cs := by
  fun_induction beforeBrackets? cs with
  | case1 => simp
  | case2 => contradiction
  | case3 c rest apart ih =>
    exact not_brackets_infix_cons (ih (Option.map_eq_none_iff.mp flat)) apart

/-- A text is split at its first pair of empty brackets, so there is none in front of it. -/
theorem beforeBrackets?_eq_some {cs item : List Char} (split : beforeBrackets? cs = some item) :
    (∃ rest, cs = item ++ '[' :: ']' :: rest) ∧ ¬['[', ']'] <:+: item := by
  fun_induction beforeBrackets? cs generalizing item with
  | case1 => contradiction
  | case2 rest =>
    obtain rfl := Option.some.inj split
    exact ⟨⟨rest, rfl⟩, by simp⟩
  | case3 c rest apart ih =>
    obtain ⟨tail, found, rfl⟩ := Option.map_eq_some_iff.mp split
    obtain ⟨⟨behind, rfl⟩, flat⟩ := ih found
    refine ⟨⟨behind, rfl⟩, not_brackets_infix_cons flat ?_⟩
    rintro more rfl rfl
    exact apart _ rfl rfl

/-- The variable that a name under a type declares. A type with empty brackets is that of the items
in front of the first of them, and the variable is an array of one item. -/
inductive NameDeclares (type name : String) : Declaration → Prop
  | array {item rest : String} (split : type = item ++ "[]" ++ rest)
      (first : item.contains "[]" = false) : NameDeclares type name ⟨item, name ++ "[1]"⟩
  | single (flat : type.contains "[]" = false) : NameDeclares type name ⟨type, name⟩

theorem nameDeclares_declareName (type name : String) :
    NameDeclares type name (declareName type name) := by
  rw [declareName, itemType?]
  cases split : beforeBrackets? type.toList with
  | none => exact .single (String.contains_string_eq_false_iff.mpr (beforeBrackets?_eq_none split))
  | some item =>
    obtain ⟨⟨rest, whole⟩, flat⟩ := beforeBrackets?_eq_some split
    have parts : type = String.ofList item ++ "[]" ++ String.ofList rest := by
      rw [← String.toList_inj, whole]
      simp
    refine .array parts ?_
    rw [String.contains_string_eq_false_iff, String.toList_ofList (l := item)]
    exact flat

namespace NameTable

def listed (table : NameTable) : List (String × String) :=
  table.entries.flatMap fun (type, names) => names.map (type, ·)

/-- A set has what a table declares, in the order of the types and of the names under them, and of
equal declarations the first. -/
structure DeclaredIn (table : NameTable) (set : DeclarationSet) : Prop where
  ascending : table.keys.Pairwise (· < ·)
  walked : ∃ declared,
    List.Forall₂ (fun entry d => NameDeclares entry.1 entry.2 d) table.listed declared ∧
      set.toList = declared.eraseDups

theorem declaredIn_declarations (table : NameTable) : table.DeclaredIn table.declarations where
  ascending := List.pairwise_map.mpr table.ascending
  walked := by
    refine ⟨table.listed.map fun entry => declareName entry.1 entry.2, ?_, ?_⟩
    · rw [List.forall₂_map_right_iff, List.forall₂_same]
      exact fun entry _ => nameDeclares_declareName entry.1 entry.2
    · rw [declarations, DeclarationSet.toList_ofList, listed, List.map_flatMap]
      simp only [declareNames_eq_map, List.map_map]
      rfl

end NameTable

structure ParamTable.OrderedIn (table : ParamTable) (params : List Param) : Prop where
  perm : params.Perm (table.entries.map fun (name, type, index) => ⟨name, type, index⟩)
  nodup : params.Nodup
  ascending : params.Pairwise Param.Before

theorem ParamTable.orderedIn_params (table : ParamTable) : table.OrderedIn table.params where
  perm := byIndex_perm _
  nodup := .of_map Param.name table.names_nodup
  ascending := table.pairwise_params

structure Signature.Describes (signature : Signature) (m : Metadata) : Prop where
  inputs : m.inputs.OrderedIn signature.inputs
  outputs : m.outputs.OrderedIn signature.outputs
  uniforms : m.uniforms.DeclaredIn signature.uniforms
  varyings : m.varyings.DeclaredIn signature.varyings
  attributes : m.attributes.DeclaredIn signature.attributes

theorem Metadata.signature_describes (name : String) (m : Metadata) :
    (m.signature name).Describes m where
  inputs := m.inputs.orderedIn_params
  outputs := m.outputs.orderedIn_params
  uniforms := m.uniforms.declaredIn_declarations
  varyings := m.varyings.declaredIn_declarations
  attributes := m.attributes.declaredIn_declarations

end ShaderGraph
