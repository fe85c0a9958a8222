import ShaderGraph.Proofs.Shader.Compile

/-! What feeds the inputs of calls. An edge from a called node feeds an input with an output of an
earlier call, wherever the edge stands and whether or not its target is declared again. -/
namespace ShaderGraph

variable {supplied : SortedSet String} {document : GraphDocument}

theorem exists_getElem?_of_forall₂ {r : α → β → Prop} {as : List α} {bs : List β} {i : Nat} {a : α}
    (related : List.Forall₂ r as bs) (placed : as[i]? = some a) : ∃ b, bs[i]? = some b ∧ r a b := by
  induction related generalizing i with
  | nil => simp at placed
  | cons first _ ih =>
    cases i with
    | zero =>
      obtain rfl := Option.some.inj placed
      exact ⟨_, rfl, first⟩
    | succ i => exact ih placed

theorem split_at_getElem? {list : List α} {i : Nat} {a : α} (placed : list[i]? = some a) :
    list = list.take i ++ a :: list.drop (i + 1) := by
  obtain ⟨bound, rfl⟩ := List.getElem?_eq_some_iff.mp placed
  rw [← List.drop_eq_getElem_cons bound, List.take_append_drop]

namespace Compilation

variable {library final : Library σ} {program : Program}

/-- An input into which an edge leads is fed by what the last such edge carries. -/
theorem feed_of_edge? (c : Compilation supplied document library final program) {node : GraphNode}
    {param : Param} {feed : Feed} {e : Edge} (fed : Feed.ofParam c.graph node param = .ok feed)
    (last : c.flow.edge? node.name param.name = some e) : feed = .bound (c.flow.carried e) := by
  have bound : c.graph.binding? node.name param.name = some (c.flow.carried e) :=
    (c.binding?_eq node.name param.name).trans (congrArg (Option.map c.flow.carried) last)
  exact Except.ok.inj (fed.symm.trans (Feed.ofParam_of_binding? bound))

/-- An edge from a called node carries the variable of the output that it names. -/
theorem carried_eq_output (c : Compilation supplied document library final program)
    {step : CallStep} {e : Edge} {place : Nat} (member : step ∈ c.steps)
    (found : c.flow.output? e = some (step.node, place)) :
    step.call.outputs[place]? = some (c.flow.carried e) := by
  obtain ⟨_, _, signature, param, known, among, named⟩ := Dataflow.of_output? found
  have same : final.signatures.get? step.node.function = some signature := known
  rw [(c.fits step member).signature] at same
  obtain rfl := Option.some.inj same
  rw [Dataflow.carried_of_output? found, ← named]
  simp [CallStep.call, Call.ofNode, outputLocals, among]

end Compilation

/-- An argument that an edge brings from a called node is an output of an earlier call, also for
calls of nodes whose name is declared again later. -/
theorem argument_defined_before_use [ResourceStore σ] {library : Library σ} {shader : Shader}
    (compiled : (compile supplied document library).result = .ok shader) :
    ∃ graph, (Graph.ofDocument document supplied).1 = .ok graph ∧
      let flow := graph.dataflow document (compile supplied document library).state
      ∀ (position : Nat) (call : Call), shader.program.calls[position]? = some call →
        ∃ signature, flow.signature? call.function = some signature ∧
          call.inputs.length = signature.inputs.length ∧
          ∀ (place : Nat) (param : Param) (edge : Edge) (source : GraphNode) (output : Nat),
            signature.inputs[place]? = some param →
            flow.edge? call.node param.name = some edge →
            flow.output? edge = some (source, output) →
            ∃ argument, call.inputs[place]? = some argument ∧
              (∃ earlier ∈ shader.program.calls.take position,
                earlier.node = source.name ∧ argument ∈ earlier.outputs) ∧
              argument ∈ shader.program.locals.map Declaration.name := by
  obtain ⟨c⟩ := compile_returns ⟨compiled, rfl⟩
  refine ⟨c.graph, c.read, fun position call placed => ?_⟩
  rw [c.calls_eq, List.getElem?_map] at placed
  obtain ⟨step, atPosition, rfl⟩ := Option.map_eq_some_iff.mp placed
  have fits := c.fits step (List.mem_of_getElem? atPosition)
  refine ⟨step.signature, fits.signature, ?_, ?_⟩
  · simp [CallStep.call, Call.ofNode, fits.feeds.length_eq]
  · intro place param edge source output asked last found
    obtain ⟨feed, given, fed⟩ := exists_getElem?_of_forall₂ fits.feeds asked
    obtain rfl := c.feed_of_edge? fed last
    have split := split_at_getElem? atPosition
    obtain ⟨earlier, before, rfl⟩ := c.source_called_before split last found
    have called : earlier ∈ c.steps := List.mem_of_mem_take before
    have output := List.mem_of_getElem? (c.carried_eq_output called found)
    have declared := c.outputs_declared called output
    refine ⟨c.flow.carried edge, ?_, ⟨earlier.call, ?_, rfl, output⟩, declared⟩
    · simp [CallStep.call, Call.ofNode, given, Feed.argument]
    · rw [c.calls_eq, ← List.map_take]
      exact List.mem_map_of_mem before

/-- A node and an earlier one of its name, which stands in no constraint, with one edge to both. -/
def shadowedTarget : GraphDocument where
  nodes := [⟨"mix", "blend", none⟩, ⟨"noise", "perlin", none⟩, ⟨"mix", "blend", none⟩]
  edges := [⟨⟨"noise", "value"⟩, ⟨"mix", "amount"⟩⟩]
  settings := []

def noiseLibrary : Library MemoryStore where
  store := .empty
  signatures := .ofList
    [("perlin", ⟨"perlin", [], [⟨"value", "float", 0⟩], none, ∅, ∅, ∅⟩),
      ("blend", ⟨"blend", [⟨"amount", "float", 0⟩], [], none, ∅, ∅, ∅⟩)]
  sources := ∅

theorem shadowed_argument_defined_before_use :
    ∃ shader, (compile ∅ shadowedTarget noiseLibrary).result = .ok shader ∧
      (∃ call, shader.program.calls[2]? = some call ∧ call.node = "mix" ∧
        call.inputs[0]? = some "noise_at_value") ∧
      ∃ earlier ∈ shader.program.calls.take 2,
        earlier.node = "noise" ∧ "noise_at_value" ∈ earlier.outputs := by
  have compiled : (compile ∅ shadowedTarget noiseLibrary).result = .ok _ := rfl
  obtain ⟨graph, read, law⟩ := argument_defined_before_use compiled
  have graphRead : (Graph.ofDocument shadowedTarget ∅).1 = .ok _ := rfl
  obtain rfl := Except.ok.inj (graphRead.symm.trans read)
  obtain ⟨signature, known, _, law⟩ := law 2 _ rfl
  obtain rfl := Option.some.inj ((rfl : _ = some _).symm.trans known)
  obtain ⟨argument, given, before, _⟩ := law 0 ⟨"amount", "float", 0⟩ _ _ 0 rfl rfl rfl
  obtain rfl := Option.some.inj ((rfl : _ = some "noise_at_value").symm.trans given)
  exact ⟨_, compiled, ⟨_, rfl, rfl, given⟩, before⟩

end ShaderGraph
