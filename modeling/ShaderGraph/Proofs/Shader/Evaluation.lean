import ShaderGraph.Proofs.Function.Signature
import ShaderGraph.Proofs.Program.Evaluation
import ShaderGraph.Proofs.Shader.Dataflow

/-! Compilation keeps the meaning of a graph. After its calls, a program holds in the variable of each
output what the dataflow evaluates to. -/
namespace ShaderGraph

theorem mapM_eq_some_map {r : α → β → Prop} {f : α → Option γ} {g : β → γ} {as : List α}
    {bs : List β} (related : List.Forall₂ r as bs)
    (agree : ∀ a, ∀ b ∈ bs, r a b → f a = some (g b)) : as.mapM f = some (bs.map g) := by
  induction related with
  | nil => rfl
  | cons first _ ih =>
    rw [List.mapM_cons, agree _ _ List.mem_cons_self first,
      ih fun a b member => agree a b (List.mem_cons_of_mem _ member)]
    rfl

variable {supplied : SortedSet String} {document : GraphDocument}

namespace Compilation

variable {library final : Library σ} {program : Program}

/-- After some of the calls, the variables of their outputs hold what the nodes evaluate to. All
variables that are not written by a call are as they were before. -/
structure Simulates (c : Compilation supplied document library final program)
    (I : Interpretation V) (front : List CallStep) (env : String → V) : Prop where
  outside : ∀ name, name ∉ program.declared → env name = I.outside name
  held : ∀ held ∈ program.defaults, env held.name = I.literal held.value
  outputs : ∀ step ∈ front, ∃ outputs,
    (∀ depth, front.length ≤ depth → c.flow.evaluate I depth step.node = some outputs) ∧
    ∀ (place : Nat) (name : String), step.call.outputs[place]? = some name →
      env name = outputs place

variable {c : Compilation supplied document library final program} {I : Interpretation V}
variable {front back : List CallStep} {step : CallStep} {env : String → V}

/-- The variables of its inputs hold the arguments of a call. -/
theorem Simulates.argument (simulates : c.Simulates I front env)
    (separates : c.flow.Separates program) (split : c.steps = front ++ step :: back)
    {param : Param} {feed : Feed} (member : feed ∈ step.feeds)
    (fed : Feed.ofParam c.graph step.node param = .ok feed)
    {depth : Nat} (deep : front.length ≤ depth) :
    c.flow.argument I (c.flow.evaluate I depth) step.node param = some (env feed.argument) := by
  rw [Dataflow.argument]
  cases last : c.flow.edge? step.node.name param.name with
  | none =>
    have unbound : c.graph.binding? step.node.name param.name = none := by
      rw [c.binding?_eq, last, Option.map_none]
    obtain ⟨held, default, name, literal⟩ := Feed.default_of_ofParam unbound fed
    have kept : held ∈ program.defaults := by
      rw [c.defaults_eq]
      have own : held ∈ step.defaults := List.mem_filterMap.mpr ⟨feed, member, default⟩
      exact List.mem_flatMap.mpr ⟨step, by simp [split], own⟩
    simp [literal, name, simulates.held held kept]
  | some e =>
    obtain rfl := c.feed_of_edge? fed last
    cases found : c.flow.output? e with
    | none =>
      have apart : c.flow.carried e ∉ program.declared := fun declared => by
        simpa [found] using separates.apart e (Dataflow.of_edge? last).1 declared
      simp [found, Feed.argument, simulates.outside _ apart]
    | some output =>
      obtain ⟨source, place⟩ := output
      obtain ⟨earlier, before, rfl⟩ := c.source_called_before split last found
      obtain ⟨outputs, evaluated, holds⟩ := simulates.outputs earlier before
      have output := c.carried_eq_output (by simp [split, before]) found
      simp [found, evaluated depth deep, Feed.argument, holds place _ output]

/-- A node evaluates to what its call computes from its arguments. -/
theorem Simulates.evaluate (simulates : c.Simulates I front env)
    (separates : c.flow.Separates program) (split : c.steps = front ++ step :: back)
    {depth : Nat} (deep : front.length < depth) :
    c.flow.evaluate I depth step.node =
      some (I.function step.node.function (step.call.inputs.map env)) := by
  cases depth with
  | zero => contradiction
  | succ depth =>
    have fits := c.fits step (by simp [split])
    have known : c.flow.signature? step.node.function = some step.signature := fits.signature
    have arguments := mapM_eq_some_map fits.feeds fun param feed member fed =>
      simulates.argument separates split member fed (Nat.le_of_lt_succ deep)
    rw [Dataflow.evaluate, known, Option.bind_some, arguments, Option.map_some, CallStep.call,
      Call.ofNode, List.map_map]
    rfl

/-- The outputs of two calls are apart, and so are those of one. -/
theorem outputs_apart (c : Compilation supplied document library final program)
    (separates : c.flow.Separates program) (split : c.steps = front ++ step :: back) :
    step.call.outputs.Nodup ∧ (∀ earlier ∈ front, ∀ name ∈ earlier.call.outputs,
      name ∉ step.call.outputs) ∧ ∀ held ∈ program.defaults, held.name ∉ step.call.outputs := by
  obtain ⟨locals, _, apart⟩ := List.nodup_append.mp separates.distinct
  have member : step ∈ c.steps := by simp [split]
  have outputs : (c.steps.map fun step => step.call.outputs).flatten.Nodup := by
    rw [c.locals_eq, List.map_flatMap] at locals
    exact locals
  rw [split] at outputs
  simp only [List.map_append, List.map_cons, List.flatten_append, List.flatten_cons] at outputs
  obtain ⟨_, rest, before⟩ := List.nodup_append.mp outputs
  refine ⟨(List.nodup_append.mp rest).1, fun earlier among name output here => ?_, ?_⟩
  · have first : name ∈ (front.map fun step => step.call.outputs).flatten :=
      List.mem_flatten_of_mem (List.mem_map_of_mem among) output
    exact before name first name (List.mem_append_left _ here) rfl
  · intro held kept here
    exact apart _ (c.outputs_declared member here) _ (List.mem_map_of_mem kept) rfl

/-- A call writes its outputs, and leaves alone what the calls before it have written. -/
theorem Simulates.execute (simulates : c.Simulates I front env)
    (separates : c.flow.Separates program) (split : c.steps = front ++ step :: back) :
    c.Simulates I (front ++ [step]) (step.call.execute I env) := by
  have member : step ∈ c.steps := by simp [split]
  obtain ⟨distinct, earlierApart, heldApart⟩ := c.outputs_apart separates split
  constructor
  case outside =>
    intro name undeclared
    have apart : name ∉ step.call.outputs := fun output =>
      undeclared (List.mem_append_left _ (c.outputs_declared member output))
    rw [Call.execute_other I apart, simulates.outside name undeclared]
  case held =>
    intro held kept
    rw [Call.execute_other I (heldApart held kept), simulates.held held kept]
  case outputs =>
    intro other among
    rw [List.length_append, List.length_singleton]
    rcases List.mem_append.mp among with earlier | here
    · obtain ⟨outputs, evaluated, holds⟩ := simulates.outputs other earlier
      refine ⟨outputs, fun depth deep => evaluated depth (by omega), fun place name output => ?_⟩
      have apart := earlierApart other earlier name (List.mem_of_getElem? output)
      rw [Call.execute_other I apart, holds place name output]
    · obtain rfl := List.mem_singleton.mp here
      exact ⟨_, fun depth deep => simulates.evaluate separates split deep,
        fun place name output => Call.execute_output I distinct output⟩

/-- Before the calls, the defaults hold their literals. -/
theorem simulates_start (c : Compilation supplied document library final program)
    (separates : c.flow.Separates program) (I : Interpretation V) :
    c.Simulates I [] (program.defaults.foldl (DefaultVariable.assign I) I.outside) := by
  constructor
  case outside =>
    intro name undeclared
    exact assign_other I fun member => undeclared (List.mem_append_right _ member)
  case held =>
    intro held kept
    exact assign_held I (List.nodup_append.mp separates.distinct).2.1 kept
  case outputs =>
    intro step among
    contradiction

theorem Simulates.foldl_execute (simulates : c.Simulates I front env)
    (separates : c.flow.Separates program) (split : c.steps = front ++ back) :
    c.Simulates I c.steps ((back.map CallStep.call).foldl (Call.execute I) env) := by
  induction back generalizing front env with
  | nil => rwa [split, List.append_nil]
  | cons step rest ih => exact ih (simulates.execute separates split) (by simpa using split)

theorem simulates_execute (c : Compilation supplied document library final program)
    (separates : c.flow.Separates program) (I : Interpretation V) :
    c.Simulates I c.steps (program.execute I) := by
  rw [Program.execute, c.calls_eq]
  exact (c.simulates_start separates I).foldl_execute separates rfl

end Compilation

/-- The variables of the outputs of a call hold what its node evaluates to at every depth from the
given one on. -/
structure Dataflow.Holds (flow : Dataflow) (I : Interpretation V) (env : String → V) (depth : Nat)
    (node : GraphNode) (call : Call) : Prop where
  named : call.node = node.name
  function : call.function = node.function
  outputs : ∃ signature outputs, flow.signature? node.function = some signature ∧
    (∀ deep, depth ≤ deep → flow.evaluate I deep node = some outputs) ∧
    ∀ (place : Nat) (param : Param), signature.outputs[place]? = some param →
      env (outputVariable node.name param.name) = outputs place

/-- A program computes the dataflow of its document: after the calls, the variable of each output of
a called node holds the value to which the node evaluates. Arguments are in the order of index and
name if the library was in order before, as libraries are that have only read metadata. -/
theorem execute_eq_evaluate [ResourceStore σ] {library : Library σ} {shader : Shader}
    (compiled : (compile supplied document library).result = .ok shader) :
    ∃ graph scheduled, (Graph.ofDocument document supplied).1 = .ok graph ∧
      graph.schedule.1 = .ok scheduled ∧
      let final := (compile supplied document library).state
      let flow := graph.dataflow document final
      let called := scheduled.nodes.filter (!isPassThrough ·.function)
      called.Perm (graph.nodes.values.filter (!isPassThrough ·.function)) ∧
      (library.Ordered → final.Ordered) ∧
      (flow.Separates shader.program → ∀ I : Interpretation V,
        List.Forall₂ (flow.Holds I (shader.program.execute I) shader.program.calls.length)
          called shader.program.calls) := by
  obtain ⟨c⟩ := compile_returns ⟨compiled, rfl⟩
  refine ⟨c.graph, c.scheduled, c.read, c.ordered, ?_, c.extended.ordered, fun separates I => ?_⟩
  · exact (Graph.nodes_perm_of_schedule c.ordered).filter _
  · have simulates := c.simulates_execute separates I
    rw [← c.called, c.calls_eq, List.length_map, List.forall₂_map_left_iff,
      List.forall₂_map_right_iff, List.forall₂_same]
    intro step member
    obtain ⟨outputs, evaluated, holds⟩ := simulates.outputs step member
    refine ⟨rfl, rfl, step.signature, outputs, (c.fits step member).signature, evaluated, ?_⟩
    intro place param output
    exact holds place _ (by simp [CallStep.call, Call.ofNode, outputLocals, output])

/-- A value, a call of it, and a call that takes an edge, an override and a default. -/
def waveMix : GraphDocument where
  nodes :=
    let held := Yaml.Value.mapping [(.string "b", .number (.int 3))]
    [⟨"mix", "blend", some (.mapping [(.string "inputs", held)])⟩, ⟨"time", "float", none⟩,
      ⟨"wave", "sin", none⟩]
  edges := [⟨⟨"time", "value"⟩, ⟨"wave", "x"⟩⟩, ⟨⟨"wave", "y"⟩, ⟨"mix", "a"⟩⟩]
  settings := []

def waveLibrary : Library MemoryStore where
  store := .empty
  signatures := .ofList
    [("sin", ⟨"sin", [⟨"x", "float", 0⟩], [⟨"y", "float", 1⟩], none, ∅, ∅, ∅⟩),
      ("blend", ⟨"blend", [⟨"a", "float", 0⟩, ⟨"b", "float", 0⟩, ⟨"c", "vec4", 1⟩],
        [⟨"color", "vec4", 2⟩], none, ∅, ∅, ∅⟩)]
  sources := ∅

def expressions : Interpretation String where
  function name arguments _ := name ++ "(" ++ ", ".intercalate arguments ++ ")"
  literal := id
  outside := id

theorem waveMix_executed : ∃ shader, (compile ∅ waveMix waveLibrary).result = .ok shader ∧
    shader.program.execute expressions "mix_at_color" =
      "blend(sin(time), 3, vec4(0, 0, 0, 1))" := by
  have compiled : (compile ∅ waveMix waveLibrary).result = .ok _ := rfl
  obtain ⟨graph, scheduled, read, ordered, _, _, law⟩ := execute_eq_evaluate (V := String) compiled
  obtain rfl := Except.ok.inj ((rfl : (Graph.ofDocument waveMix ∅).1 = .ok _).symm.trans read)
  obtain rfl := Except.ok.inj ((rfl : _ = Except.ok _).symm.trans ordered)
  have held := law ⟨by decide +kernel, by decide +kernel⟩ expressions
  obtain ⟨call, placed, holds⟩ := exists_getElem?_of_forall₂ held (i := 1) rfl
  obtain ⟨_, _, signature, outputs, known, evaluated, values⟩ := holds
  obtain rfl := Option.some.inj ((rfl : _ = some _).symm.trans known)
  obtain rfl := Option.some.inj ((rfl : _ = some _).symm.trans (evaluated 2 (Nat.le_refl 2)))
  exact ⟨_, compiled, values 0 ⟨"color", "vec4", 2⟩ rfl⟩

end ShaderGraph
