import ShaderGraph.Proofs.Function.Expansion
import ShaderGraph.Proofs.Program.Account
import ShaderGraph.Proofs.Shader.Compile

/-! From the metadata of a function to the arguments of its calls. The signature has the parameters and
the declarations of the metadata in their order, and a call has a variable for each parameter, first for
the inputs and then for the outputs. -/
namespace ShaderGraph

variable {supplied : SortedSet String} {document : GraphDocument} {σ : Type}

namespace Compilation

variable {library final : Library σ} {program : Program}

/-- A call is that of its node with the signature that the library keeps for the function. -/
theorem call_of_signature (c : Compilation supplied document library final program) {call : Call}
    (called : call ∈ program.calls) {signature : Signature}
    (kept : final.signatures.get? call.function = some signature) :
    ∃ node : GraphNode, call = (⟨node, signature⟩ : CallSite).call c.graph := by
  rw [c.calls_eq] at called
  obtain ⟨step, among, rfl⟩ := List.mem_map.mp called
  have fits := c.fits step among
  obtain rfl : step.signature = signature := Option.some.inj (fits.signature.symm.trans kept)
  exact ⟨step.node, fits.call_eq⟩

end Compilation

/-- Metadata that are read make a signature that describes them, and a call of a function with this
signature has as its arguments the variables of all inputs and then those of all outputs, in the order
of the signature. The variable of an input is the one to which it is bound, if there is one. The call is
written with commas between its arguments, and without blanks if it has none. -/
theorem metadata_order_arguments [ResourceStore σ] (function : String) (m : Metadata) :
    let signature := m.signature function
    (∀ text, Metadata.parse text = .ok m → Signature.parse function text = .ok signature) ∧
    signature.Describes m ∧
    ∀ {supplied : SortedSet String} {document : GraphDocument} {library final : Library σ}
      {shader : Shader}, (compile supplied document).Returns library shader final →
      final.signatures.get? function = some signature →
      ∃ graph, (Graph.ofDocument document supplied).1 = .ok graph ∧
        ∀ call ∈ shader.program.calls, call.function = function →
          let inputs := signature.inputs.map fun param =>
            (graph.binding? call.node param.name).getD
              ("default_" ++ param.name ++ "_for_" ++ call.node)
          let outputs := signature.outputs.map fun param => call.node ++ "_at_" ++ param.name
          call.inputs = inputs ∧ call.outputs = outputs ∧
            call.statement = if inputs ++ outputs = [] then function ++ "();"
              else function ++ "( " ++ ", ".intercalate (inputs ++ outputs) ++ " );" := by
  intro signature
  refine ⟨fun text parsed => ?_, m.signature_describes function, ?_⟩
  · rw [Signature.parse, parsed]
    rfl
  · intro supplied document library final shader compiled kept
    obtain ⟨c⟩ := compile_returns compiled
    refine ⟨c.graph, c.read, ?_⟩
    rintro call called rfl
    obtain ⟨node, same⟩ := c.call_of_signature called kept
    rw [same]
    exact ⟨rfl, rfl, callStatement_eq _ _⟩

/-- Metadata with two inputs that share an index and one whose index is negative, and with two types
that stand for arrays of one kind of items. -/
def toneMetadata : Metadata where
  source := none
  uniforms := .ofList [("float[]x", ["k", "j"]), ("float[]", ["k"]), ("vec2", ["k[1]"])]
  varyings := ∅
  attributes := ∅
  inputs := .ofList [("b", "float", 0), ("a", "vec3", 0), ("z", "int", -1)]
  outputs := .ofList [("o", "vec3", 7)]

def mixedToneLibrary : Library MemoryStore where
  store := .empty
  signatures := .ofList
    [("mark", Metadata.empty.signature "mark"), ("tone", toneMetadata.signature "tone")]
  sources := ∅

def fedTone : GraphDocument where
  nodes := [⟨"t", "tone", none⟩, ⟨"m", "mark", none⟩, ⟨"s", "vec3", none⟩]
  edges := [⟨⟨"s", "value"⟩, ⟨"t", "a"⟩⟩]
  settings := []

theorem fedTone_arguments :
    (toneMetadata.signature "tone").Describes toneMetadata ∧
    (toneMetadata.signature "tone").inputs.map Param.name = ["z", "a", "b"] ∧
    (toneMetadata.signature "tone").uniforms.toList =
      [⟨"float", "k[1]"⟩, ⟨"float", "j[1]"⟩, ⟨"vec2", "k[1]"⟩] ∧
    ∃ shader final, (compile ∅ fedTone).Returns mixedToneLibrary shader final ∧
      final.signatures.get? "tone" = some (toneMetadata.signature "tone") ∧
      final.signatures.get? "mark" = some (Metadata.empty.signature "mark") ∧
      ∃ tone mark, shader.program.calls = [tone, mark] ∧
        tone.function = "tone" ∧ mark.function = "mark" ∧
        tone.statement = "tone( default_z_for_t, s, default_b_for_t, t_at_o );" ∧
        mark.statement = "mark();" := by
  have compiled : (compile ∅ fedTone).Returns mixedToneLibrary _ _ := ⟨rfl, rfl⟩
  have kept : (compile ∅ fedTone mixedToneLibrary).state.signatures.get? "tone" =
      some (toneMetadata.signature "tone") := by decide +kernel
  have keptMark : (compile ∅ fedTone mixedToneLibrary).state.signatures.get? "mark" =
      some (Metadata.empty.signature "mark") := by decide +kernel
  obtain ⟨_, describes, tones⟩ := metadata_order_arguments (σ := MemoryStore) "tone" toneMetadata
  obtain ⟨_, _, marks⟩ := metadata_order_arguments (σ := MemoryStore) "mark" .empty
  obtain ⟨graph, read, tones⟩ := tones compiled kept
  obtain ⟨_, _, marks⟩ := marks compiled keptMark
  obtain rfl := Except.ok.inj ((rfl : (Graph.ofDocument fedTone ∅).1 = .ok _).symm.trans read)
  obtain ⟨_, _, tone⟩ := tones _ List.mem_cons_self rfl
  obtain ⟨_, _, mark⟩ := marks _ (List.mem_cons_of_mem _ List.mem_cons_self) rfl
  exact ⟨describes, by decide +kernel, by decide +kernel, _, _, compiled, kept, keptMark,
    _, _, rfl, rfl, rfl, tone.trans (by decide +kernel), mark.trans (if_pos rfl)⟩

end ShaderGraph
