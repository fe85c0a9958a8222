import ShaderGraph.Proofs.Function.Signature
import ShaderGraph.Proofs.Program.Scheduled

/-! What a program holds, told by the nodes that are called and the signatures of their functions: a
call for each, a local for each output, and a default for each input that no edge feeds. -/
namespace ShaderGraph

structure CallSite where
  node : GraphNode
  signature : Signature

structure OpenInput where
  node : GraphNode
  param : Param

namespace OpenInput

def held (input : OpenInput) (literal : String) : DefaultVariable :=
  ⟨input.param.type, "default_" ++ input.param.name ++ "_for_" ++ input.node.name, literal⟩

def diagnostic (input : OpenInput) (literal : String) : Diagnostic :=
  ⟨input.node.name, input.param.name, input.param.type, literal⟩

/-- Inputs that no edge feeds, the defaults that hold them and the diagnostics about them, all in one
order. Each input has a default, and a diagnostic with its literal unless a value is given for it. -/
inductive Filled : List OpenInput → List DefaultVariable → List Diagnostic → Prop
  | nil : Filled [] [] []
  | override {input : OpenInput} {value : Yaml.Value} {literal : String} {inputs : List OpenInput}
      {defaults : List DefaultVariable} {diagnostics : List Diagnostic}
      (given : input.node.overrides.get? input.param.name = some value)
      (written : overrideLiteral? input.param.type value = some literal)
      (rest : Filled inputs defaults diagnostics) :
      Filled (input :: inputs) (input.held literal :: defaults) diagnostics
  | missing {input : OpenInput} {literal : String} {inputs : List OpenInput}
      {defaults : List DefaultVariable} {diagnostics : List Diagnostic}
      (absent : input.node.overrides.get? input.param.name = none)
      (usual : defaultOf input.param.type = literal) (rest : Filled inputs defaults diagnostics) :
      Filled (input :: inputs) (input.held literal :: defaults)
        (input.diagnostic literal :: diagnostics)

theorem Filled.append {inputs others : List OpenInput} {defaults more : List DefaultVariable}
    {diagnostics later : List Diagnostic} (first : Filled inputs defaults diagnostics)
    (second : Filled others more later) :
    Filled (inputs ++ others) (defaults ++ more) (diagnostics ++ later) := by
  induction first with
  | nil => exact second
  | override given written _ ih => exact .override given written ih
  | missing absent usual _ ih => exact .missing absent usual ih

/-- The defaults are named for the inputs that they hold. -/
theorem Filled.names {inputs : List OpenInput} {defaults : List DefaultVariable}
    {diagnostics : List Diagnostic} (filled : Filled inputs defaults diagnostics) :
    defaults.map DefaultVariable.name =
      inputs.map fun input => defaultVariable input.node.name input.param.name := by
  induction filled with
  | nil => rfl
  | override _ _ _ ih | missing _ _ _ ih => exact congrArg (_ :: ·) ih

end OpenInput

namespace CallSite

def argument (graph : Graph) (site : CallSite) (param : Param) : String :=
  (graph.binding? site.node.name param.name).getD
    ("default_" ++ param.name ++ "_for_" ++ site.node.name)

def output (site : CallSite) (param : Param) : String :=
  site.node.name ++ "_at_" ++ param.name

def call (graph : Graph) (site : CallSite) : Call :=
  let inputs := site.signature.inputs.map (site.argument graph)
  let outputs := site.signature.outputs.map site.output
  ⟨site.node.name, site.node.function, inputs, outputs,
    callStatement site.node.function (inputs ++ outputs)⟩

def locals (site : CallSite) : List Declaration :=
  site.signature.outputs.map fun param => ⟨param.type, site.output param⟩

def unfed (graph : Graph) (site : CallSite) : List OpenInput :=
  (site.signature.inputs.filter fun param =>
    (graph.binding? site.node.name param.name).isNone).map (⟨site.node, ·⟩)

end CallSite

structure Program.Accounts (program : Program) (graph : Graph) (sites : List CallSite) : Prop where
  calls : program.calls = sites.map (CallSite.call graph)
  locals : program.locals = sites.flatMap CallSite.locals
  unfed : OpenInput.Filled (sites.flatMap (CallSite.unfed graph)) program.defaults
    program.diagnostics

section
variable {graph : Graph} {node : GraphNode} {param : Param} {feed : Feed}

theorem Feed.argument_of_ofParam (fed : ofParam graph node param = .ok feed) :
    feed.argument = (graph.binding? node.name param.name).getD
      (defaultVariable node.name param.name) := by
  rcases ofParam_cases fed with ⟨_, bound, rfl⟩ | ⟨unbound, ⟨_, _, _, _, rfl⟩ | ⟨_, rfl⟩⟩
  · rw [bound]
    rfl
  · rw [unbound]
    rfl
  · rw [unbound]
    rfl

/-- The inputs of a node that no edge feeds are filled one by one. -/
theorem OpenInput.filled_of_ofParam {params : List Param} {feeds : List Feed}
    (fed : List.Forall₂ (fun param feed => Feed.ofParam graph node param = .ok feed) params feeds) :
    Filled ((params.filter fun param => (graph.binding? node.name param.name).isNone).map (⟨node, ·⟩))
      (feeds.filterMap Feed.default?) (feeds.filterMap Feed.diagnostic?) := by
  induction fed with
  | nil => exact .nil
  | @cons param feed params feeds first _ ih =>
    rcases Feed.ofParam_cases first with
      ⟨_, bound, rfl⟩ | ⟨unbound, ⟨value, literal, given, written, rfl⟩ | ⟨absent, rfl⟩⟩
    · rw [List.filter_cons_of_neg (by simp [bound])]
      exact ih
    · rw [List.filter_cons_of_pos (by simp [unbound])]
      exact .override given written ih
    · rw [List.filter_cons_of_pos (by simp [unbound])]
      exact .missing absent rfl ih

end

namespace CallStep

variable {graph : Graph} {library : Library σ} {step : CallStep}

def site (step : CallStep) : CallSite := ⟨step.node, step.signature⟩

theorem Fits.call_eq (fits : step.Fits graph library) : step.call = step.site.call graph := by
  have inputs : step.feeds.map Feed.argument =
      step.signature.inputs.map (step.site.argument graph) := by
    have related := fits.feeds.imp fun _ _ => Feed.argument_of_ofParam
    rw [← List.forall₂_eq_eq_eq, List.forall₂_map_left_iff, List.forall₂_map_right_iff]
    exact related.flip
  have outputs : step.outputs.map Declaration.name = step.signature.outputs.map step.site.output :=
    List.map_map
  rw [call, Call.ofNode, inputs, ← CallStep.outputs, outputs]
  rfl

theorem filled {steps : List CallStep} (fits : ∀ step ∈ steps, step.Fits graph library) :
    OpenInput.Filled ((steps.map site).flatMap (CallSite.unfed graph)) (steps.flatMap defaults)
      (steps.flatMap diagnostics) := by
  induction steps with
  | nil => exact .nil
  | cons step rest ih =>
    obtain ⟨first, others⟩ := List.forall_mem_cons.mp fits
    exact (OpenInput.filled_of_ofParam first.feeds).append (ih others)

end CallStep

namespace Program

variable [ResourceStore σ] {library : Library σ} {scheduled : ScheduledGraph} {program : Program}
variable {supplied : SortedSet String}

/-- A program accounts for every scheduled node that is no value and for every input of it. Inputs and
outputs are in the order of index and name if the library was in order before, as libraries are that
have only read metadata. -/
theorem ofScheduled_accounts
    (made : (ofScheduled scheduled supplied library).result = .ok program) :
    let final := (ofScheduled scheduled supplied library).state
    ∃ sites : List CallSite,
      sites.map CallSite.node = scheduled.nodes.filter (!isPassThrough ·.function) ∧
      (∀ site ∈ sites, final.signatures.get? site.node.function = some site.signature) ∧
      (library.Ordered → ∀ site ∈ sites, site.signature.Ordered) ∧
      program.Accounts scheduled.graph sites := by
  obtain ⟨extended, steps, called, fits, grown⟩ := ofScheduled_returns ⟨made, rfl⟩
  refine ⟨steps.map CallStep.site, List.map_map.trans called, ?_, ?_, ?_⟩
  · exact List.forall_mem_map.mpr fun step member => (fits step member).signature
  · refine fun ordered => List.forall_mem_map.mpr fun step member => ?_
    exact extended.ordered ordered _ _ (fits step member).signature
  · constructor
    case calls =>
      rw [grown.calls, List.map_map]
      exact List.map_congr_left fun step member => (fits step member).call_eq
    case locals =>
      rw [grown.locals, List.flatMap_map]
      rfl
    case unfed =>
      rw [grown.defaults, grown.diagnostics]
      exact CallStep.filled fits

/-- A value, a call of it, and a call of that one with a text for one of its inputs. -/
def blended : ScheduledGraph where
  graph := {
    nodes := .ofList [(1, ⟨1, "mix3", "blend", .plain, .ofList [("t", .string "0.25")]⟩),
      (2, ⟨2, "vec3", "position", .plain, ∅⟩), (3, ⟨3, "scale", "grow", .plain, ∅⟩)]
    names := .ofList [("blend", 1), ("position", 2), ("grow", 3)]
    bindings := [⟨"grow", "value", "position"⟩, ⟨"blend", "a", "grow_at_scaled"⟩]
    constraints := .ofList [⟨2, 3⟩, ⟨3, 1⟩]
    epilogue := []
    uniforms := ∅
    varyings := ∅ }
  order := [2, 3, 1]

def blendLibrary : Library MemoryStore where
  store := .empty
  signatures := .ofList
    [("scale", ⟨"scale", [⟨"value", "vec3", 0⟩, ⟨"factor", "float", 1⟩], [⟨"scaled", "vec3", 2⟩], none,
        ∅, ∅, ∅⟩),
      ("mix3", ⟨"mix3", [⟨"a", "vec3", 0⟩, ⟨"b", "vec3", 1⟩, ⟨"t", "float", 2⟩],
        [⟨"result", "vec3", 3⟩], none, ∅, ∅, ∅⟩)]
  sources := ∅

theorem blended_accounts : ∃ program,
    (ofScheduled blended ∅ blendLibrary).result = .ok program ∧
    (∃ sites : List CallSite, sites.map (·.node.name) = ["grow", "blend"] ∧
      program.Accounts blended.graph sites) ∧
    program.calls.map Call.statement =
      ["scale( position, default_factor_for_grow, grow_at_scaled );",
        "mix3( grow_at_scaled, default_b_for_blend, default_t_for_blend, blend_at_result );"] ∧
    program.defaults = [⟨"float", "default_factor_for_grow", "1.0"⟩,
      ⟨"vec3", "default_b_for_blend", "vec3(0, 0, 0)"⟩, ⟨"float", "default_t_for_blend", "0.25"⟩] ∧
    program.diagnostics =
      [⟨"grow", "factor", "float", "1.0"⟩, ⟨"blend", "b", "vec3", "vec3(0, 0, 0)"⟩] := by
  have made : (ofScheduled blended ∅ blendLibrary).result = .ok _ := rfl
  obtain ⟨sites, called, _, _, accounts⟩ := ofScheduled_accounts made
  have names : sites.map (·.node.name) = ["grow", "blend"] := by
    have same := congrArg (List.map GraphNode.name) called
    rw [List.map_map] at same
    exact same
  exact ⟨_, made, ⟨sites, names, accounts⟩, by decide +kernel, by decide +kernel, by decide +kernel⟩

end Program
end ShaderGraph
