import ShaderGraph.Proofs.Function.Signature
import ShaderGraph.Proofs.Graph.Variable
import ShaderGraph.Proofs.Program.Account
import ShaderGraph.Proofs.Program.Evaluation
import ShaderGraph.Proofs.Shader.Dataflow

/-! The variables of a main function. Each is made for an output of a call, or for an input that no
edge feeds, and two of them can share a name only if the names that they are made of go on behind one
another. -/
namespace ShaderGraph

structure Slot where
  node : String
  param : String
  deriving DecidableEq, Repr

namespace Slot

def output (s : Slot) : String := outputVariable s.node s.param

def default (s : Slot) : String := defaultVariable s.node s.param

variable {a b : Slot}

theorem of_output_eq (same : a.output = b.output) :
    a.node = b.node ∨ Continues "_at" a.node b.node :=
  continues_of_outputVariable_eq same

theorem of_default_eq (same : a.default = b.default) :
    a = b ∨ Continues "_for" a.param b.param := by
  refine (continues_of_defaultVariable_eq same).imp_left ?_
  rintro ⟨param, node⟩
  cases a
  cases b
  simp_all

/-- Outputs of one node are told apart by their variables. -/
theorem eq_of_output_eq (apart : ¬Continues "_at" a.node b.node) (same : a.output = b.output) :
    a = b := by
  have node := (of_output_eq same).resolve_right apart
  obtain ⟨_, param⟩ := a
  obtain rfl : _ = b.node := node
  exact congrArg (Slot.mk b.node) (outputVariable_injective same)

end Slot

namespace Dataflow

variable (flow : Dataflow)

def signatureOutputs (function : String) : List Param :=
  ((flow.signature? function).map Signature.outputs).getD []

def signatureInputs (function : String) : List Param :=
  ((flow.signature? function).map Signature.inputs).getD []

def outputs (calls : List Call) : List Slot :=
  calls.flatMap fun call =>
    (flow.signatureOutputs call.function).map fun param => ⟨call.node, param.name⟩

def unfed (calls : List Call) : List Slot :=
  calls.flatMap fun call =>
    ((flow.signatureInputs call.function).filter fun param =>
      (flow.edge? call.node param.name).isNone).map fun param => ⟨call.node, param.name⟩

end Dataflow

namespace Feed

variable {graph : Graph} {node : GraphNode}

theorem defaults_of_ofParam {params : List Param} {feeds : List Feed}
    (fed : List.Forall₂ (fun param feed => ofParam graph node param = .ok feed) params feeds) :
    (feeds.filterMap default?).map DefaultVariable.name =
      (params.filter fun param => (graph.binding? node.name param.name).isNone).map
        fun param => defaultVariable node.name param.name := by
  rw [(OpenInput.filled_of_ofParam fed).names, List.map_map]
  rfl

end Feed

variable {supplied : SortedSet String} {document : GraphDocument}

namespace Compilation

variable {library final : Library σ} {program : Program}

theorem signature?_eq (c : Compilation supplied document library final program) {step : CallStep}
    (member : step ∈ c.steps) : c.flow.signature? step.node.function = some step.signature :=
  (c.fits step member).signature

theorem outputs_eq (c : Compilation supplied document library final program) :
    c.flow.outputs program.calls = c.steps.flatMap fun step =>
      step.signature.outputs.map fun param => ⟨step.node.name, param.name⟩ := by
  rw [c.calls_eq, Dataflow.outputs, List.flatMap_map]
  apply List.flatMap_congr
  intro step member
  simp [CallStep.call, Call.ofNode, Dataflow.signatureOutputs, c.signature?_eq member]

theorem unfed_eq (c : Compilation supplied document library final program) :
    c.flow.unfed program.calls = c.steps.flatMap fun step =>
      (step.signature.inputs.filter fun param =>
        (c.graph.binding? step.node.name param.name).isNone).map
          fun param => ⟨step.node.name, param.name⟩ := by
  rw [c.calls_eq, Dataflow.unfed, List.flatMap_map]
  apply List.flatMap_congr
  intro step member
  simp [CallStep.call, Call.ofNode, Dataflow.signatureInputs, c.signature?_eq member,
    c.binding?_eq]

theorem locals_names (c : Compilation supplied document library final program) :
    program.locals.map Declaration.name = (c.flow.outputs program.calls).map Slot.output := by
  rw [c.locals_eq, c.outputs_eq, List.map_flatMap, List.map_flatMap]
  apply List.flatMap_congr
  intro step _
  simp [CallStep.outputs, outputLocals, Slot.output]

theorem defaults_names (c : Compilation supplied document library final program) :
    program.defaults.map DefaultVariable.name =
      (c.flow.unfed program.calls).map Slot.default := by
  rw [c.defaults_eq, c.unfed_eq, List.map_flatMap, List.map_flatMap]
  apply List.flatMap_congr
  intro step member
  rw [CallStep.defaults, Feed.defaults_of_ofParam (c.fits step member).feeds]
  simp [Slot.default]

/-- Parameters with names of their own, of calls with names of their own, are slots of their own. -/
theorem nodup_flatMap_slots {steps : List CallStep} {params : CallStep → List Param}
    (calls : (steps.map (·.node.name)).Nodup)
    (named : ∀ step ∈ steps, ((params step).map Param.name).Nodup) :
    (steps.flatMap fun step => (params step).map fun param =>
      (⟨step.node.name, param.name⟩ : Slot)).Nodup := by
  rw [List.nodup_flatMap]
  constructor
  · intro step member
    refine List.Nodup.of_map Slot.param ?_
    simpa [Function.comp_def] using named step member
  · apply (List.pairwise_map.mp calls).imp
    intro a b apart slot left right
    obtain ⟨_, _, rfl⟩ := List.mem_map.mp left
    obtain ⟨_, _, same⟩ := List.mem_map.mp right
    exact apart (congrArg Slot.node same).symm

theorem names_nodup (c : Compilation supplied document library final program)
    (calls : (program.calls.map Call.node).Nodup) : (c.steps.map (·.node.name)).Nodup := by
  rw [c.calls_eq, List.map_map] at calls
  exact calls

theorem outputs_nodup (c : Compilation supplied document library final program)
    (named : final.Named) (calls : (program.calls.map Call.node).Nodup) :
    (c.flow.outputs program.calls).Nodup := by
  rw [c.outputs_eq]
  refine nodup_flatMap_slots (c.names_nodup calls) fun step member => ?_
  exact (named _ _ (c.fits step member).signature).outputs

theorem unfed_nodup (c : Compilation supplied document library final program)
    (named : final.Named) (calls : (program.calls.map Call.node).Nodup) :
    (c.flow.unfed program.calls).Nodup := by
  rw [c.unfed_eq]
  refine nodup_flatMap_slots (c.names_nodup calls) fun step member => ?_
  have inputs := (named _ _ (c.fits step member).signature).inputs
  exact inputs.sublist (List.filter_sublist.map Param.name)

/-- An output of a call is among the outputs of all. -/
theorem slot_of_output (c : Compilation supplied document library final program) {call : Call}
    {name : String} (member : call ∈ program.calls) (output : name ∈ call.outputs) :
    ∃ slot ∈ c.flow.outputs program.calls, slot.node = call.node ∧ slot.output = name := by
  rw [c.calls_eq] at member
  obtain ⟨step, among, rfl⟩ := List.mem_map.mp member
  obtain ⟨d, declared, rfl⟩ := List.mem_map.mp output
  obtain ⟨param, asked, rfl⟩ := List.mem_map.mp declared
  refine ⟨⟨step.node.name, param.name⟩, ?_, rfl, rfl⟩
  rw [c.outputs_eq]
  exact List.mem_flatMap.mpr ⟨step, among, List.mem_map_of_mem asked⟩

theorem declared_nodup (c : Compilation supplied document library final program)
    (named : final.Named) (calls : (program.calls.map Call.node).Nodup)
    (noOutput : ∀ a ∈ c.flow.outputs program.calls, ∀ b ∈ c.flow.outputs program.calls,
      ¬Continues "_at" a.node b.node)
    (noInput : ∀ a ∈ c.flow.unfed program.calls, ∀ b ∈ c.flow.unfed program.calls,
      ¬Continues "_for" a.param b.param)
    (noDefault : ∀ a ∈ c.flow.outputs program.calls, ¬Begins a.node "default") :
    program.declared.Nodup := by
  rw [Program.declared, c.locals_names, c.defaults_names]
  refine List.nodup_append.mpr ⟨?_, ?_, ?_⟩
  · refine (c.outputs_nodup named calls).map_on fun a left b right same => ?_
    exact Slot.eq_of_output_eq (noOutput a left b right) same
  · refine (c.unfed_nodup named calls).map_on fun a left b right same => ?_
    exact (Slot.of_default_eq same).resolve_right (noInput a left b right)
  · rintro _ left _ right rfl
    obtain ⟨a, output, same⟩ := List.mem_map.mp left
    obtain ⟨b, input, again⟩ := List.mem_map.mp right
    exact noDefault a output (begins_of_variables_eq (same.trans again.symm))

/-- A local is an output of one call. -/
theorem written_once (c : Compilation supplied document library final program)
    (calls : (program.calls.map Call.node).Nodup)
    (noOutput : ∀ a ∈ c.flow.outputs program.calls, ∀ b ∈ c.flow.outputs program.calls,
      ¬Continues "_at" a.node b.node)
    {d : Declaration} (member : d ∈ program.locals) :
    ∃! position : Nat, ∃ call : Call,
      program.calls[position]? = some call ∧ d.name ∈ call.outputs := by
  obtain ⟨step, among, output⟩ := List.mem_flatMap.mp (c.locals_eq ▸ member)
  have written : d.name ∈ step.call.outputs := List.mem_map_of_mem output
  have call : step.call ∈ program.calls := by
    rw [c.calls_eq]
    exact List.mem_map_of_mem among
  obtain ⟨position, here⟩ := List.getElem?_of_mem call
  refine ⟨position, ⟨_, here, written⟩, ?_⟩
  rintro other ⟨again, there, writes⟩
  obtain ⟨a, left, node, name⟩ := c.slot_of_output call written
  obtain ⟨b, right, nodeAgain, same⟩ := c.slot_of_output (List.mem_of_getElem? there) writes
  obtain rfl := Slot.eq_of_output_eq (noOutput a left b right) (name.trans same.symm)
  -- Both calls are of one node, and no two calls are.
  have nodes : (program.calls.map Call.node)[other]? =
      (program.calls.map Call.node)[position]? := by
    rw [List.getElem?_map, List.getElem?_map, there, here, Option.map_some, Option.map_some,
      ← node, ← nodeAgain]
  have bound : other < (program.calls.map Call.node).length := by
    simpa using (List.getElem?_eq_some_iff.mp there).1
  exact (List.getElem?_inj bound calls).mp nodes

end Compilation

/-- The variables of a main function are those of the outputs of its calls and of the inputs that no
edge feeds. Two outputs share a variable only if they are of one node or the name of one node goes on
behind the other with the first word between node and output, two inputs only if they are one or the
name of one goes on behind the other with the word for defaults, and an output and an input only if
the node of the output is named after the defaults. Where none of this is so and no two calls are of
nodes with one name, all variables differ and each local is written by one call. -/
theorem variables_apart [ResourceStore σ] {library : Library σ} {shader : Shader}
    (compiled : (compile supplied document library).result = .ok shader) :
    ∃ graph, (Graph.ofDocument document supplied).1 = .ok graph ∧
      let final := (compile supplied document library).state
      let flow := graph.dataflow document final
      let calls := shader.program.calls
      let outputs := flow.outputs calls
      let inputs := flow.unfed calls
      shader.program.locals.map Declaration.name = outputs.map Slot.output ∧
      shader.program.defaults.map DefaultVariable.name = inputs.map Slot.default ∧
      (∀ a ∈ outputs, ∀ b ∈ outputs, a.output = b.output →
        a.node = b.node ∨ Continues "_at" a.node b.node) ∧
      (∀ a ∈ inputs, ∀ b ∈ inputs, a.default = b.default →
        a = b ∨ Continues "_for" a.param b.param) ∧
      (∀ a ∈ outputs, ∀ b ∈ inputs, a.output = b.default → Begins a.node "default") ∧
      (library.Named → final.Named) ∧
      (library.Named → (calls.map Call.node).Nodup →
        (∀ a ∈ outputs, ∀ b ∈ outputs, ¬Continues "_at" a.node b.node) →
        (∀ a ∈ inputs, ∀ b ∈ inputs, ¬Continues "_for" a.param b.param) →
        (∀ a ∈ outputs, ¬Begins a.node "default") →
        shader.program.declared.Nodup ∧
          ∀ d ∈ shader.program.locals, ∃! position : Nat, ∃ call : Call,
            calls[position]? = some call ∧ d.name ∈ call.outputs) := by
  obtain ⟨c⟩ := compile_returns ⟨compiled, rfl⟩
  refine ⟨c.graph, c.read, c.locals_names, c.defaults_names, fun _ _ _ _ => Slot.of_output_eq,
    fun _ _ _ _ => Slot.of_default_eq, fun _ _ _ _ => begins_of_variables_eq, c.extended.named, ?_⟩
  intro named calls noOutput noInput noDefault
  have kept := c.extended.named named
  exact ⟨c.declared_nodup kept calls noOutput noInput noDefault,
    fun _ member => c.written_once calls noOutput member⟩

def waves : Library MemoryStore where
  store := .empty
  signatures := .ofList
    [("noise", ⟨"noise", [], [⟨"x", "float", 0⟩], none, ∅, ∅, ∅⟩),
      ("wave", ⟨"wave", [⟨"gain", "float", 0⟩], [⟨"at_x", "float", 1⟩], none, ∅, ∅, ∅⟩)]
  sources := ∅

theorem named_waves : waves.Named := by
  intro function signature found
  have member := Table.get?_eq_some_iff.mp found
  have entries : waves.signatures.entries = [("noise", _), ("wave", _)] := rfl
  rw [entries] at member
  rcases List.mem_pair.mp member with same | same
  · obtain ⟨_, rfl⟩ := Prod.mk.inj same
    exact ⟨by decide, by decide⟩
  · obtain ⟨_, rfl⟩ := Prod.mk.inj same
    exact ⟨by decide, by decide⟩

def waveAndNoise (wave noise : String) : GraphDocument where
  nodes := [⟨wave, "wave", none⟩, ⟨noise, "noise", none⟩]
  edges := []
  settings := []

/-- Where one name goes on behind the other, the outputs share a variable; elsewhere all differ. -/
theorem waveAndNoise_variables :
    (∃ shader, (compile ∅ (waveAndNoise "a" "a_at") waves).result = .ok shader ∧
      shader.program.locals.map Declaration.name = ["a_at_at_x", "a_at_at_x"] ∧
      Continues "_at" "a" "a_at") ∧
    ∃ shader, (compile ∅ (waveAndNoise "a" "b") waves).result = .ok shader ∧
      shader.program.declared = ["a_at_at_x", "b_at_x", "default_gain_for_a"] ∧
      shader.program.declared.Nodup ∧
      ∀ d ∈ shader.program.locals, ∃! position : Nat, ∃ call : Call,
        shader.program.calls[position]? = some call ∧ d.name ∈ call.outputs := by
  constructor
  · have compiled : (compile ∅ (waveAndNoise "a" "a_at") waves).result = .ok _ := rfl
    obtain ⟨graph, read, _, _, clash, _⟩ := variables_apart compiled
    obtain rfl := Except.ok.inj
      ((rfl : (Graph.ofDocument (waveAndNoise "a" "a_at") ∅).1 = .ok _).symm.trans read)
    refine ⟨_, compiled, by decide +kernel, ?_⟩
    have behind := clash ⟨"a", "at_x"⟩ (by decide +kernel) ⟨"a_at", "x"⟩ (by decide +kernel)
      (by decide +kernel)
    exact behind.resolve_left (by decide)
  · have compiled : (compile ∅ (waveAndNoise "a" "b") waves).result = .ok _ := rfl
    obtain ⟨graph, read, _, _, _, _, _, _, apart⟩ := variables_apart compiled
    obtain rfl := Except.ok.inj
      ((rfl : (Graph.ofDocument (waveAndNoise "a" "b") ∅).1 = .ok _).symm.trans read)
    have differ := apart named_waves (by decide +kernel) (by decide +kernel) (by decide +kernel)
      (by decide +kernel)
    exact ⟨_, compiled, by decide +kernel, differ⟩

end ShaderGraph
