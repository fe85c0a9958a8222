import ShaderGraph.Program.Scheduled
import ShaderGraph.Proofs.Function.Library
import ShaderGraph.Proofs.Glsl.Declaration
import ShaderGraph.Proofs.Program.Feed

/-! What a program of a scheduled graph consists of. Each node that is called adds its part, behind
what the nodes before it have added. -/
namespace ShaderGraph

structure CallStep where
  node : GraphNode
  signature : Signature
  feeds : List Feed

namespace CallStep

def call (step : CallStep) : Call := .ofNode step.node step.signature step.feeds

def outputs (step : CallStep) : List Declaration := outputLocals step.node step.signature

def defaults (step : CallStep) : List DefaultVariable := step.feeds.filterMap Feed.default?

def diagnostics (step : CallStep) : List Diagnostic := step.feeds.filterMap Feed.diagnostic?

def varyings (step : CallStep) : List Declaration := step.signature.varyings.toList

def uniforms (step : CallStep) : List Declaration := step.signature.uniforms.toList

structure Fits (graph : Graph) (library : Library σ) (step : CallStep) : Prop where
  signature : library.signatures.get? step.node.function = some step.signature
  feeds : List.Forall₂ (fun param feed => Feed.ofParam graph step.node param = .ok feed)
    step.signature.inputs step.feeds

theorem Fits.of_extends {graph : Graph} {earlier later : Library σ} {step : CallStep}
    (fits : step.Fits graph earlier) (grown : later.Extends earlier) : step.Fits graph later :=
  ⟨grown.kept _ _ fits.signature, fits.feeds⟩

end CallStep

namespace Program

/-- The lists of a program with those of some calls behind them, and the varyings of both. -/
structure Grows (steps : List CallStep) (program next : Program) : Prop where
  locals : next.locals = program.locals ++ steps.flatMap CallStep.outputs
  defaults : next.defaults = program.defaults ++ steps.flatMap CallStep.defaults
  calls : next.calls = program.calls ++ steps.map CallStep.call
  diagnostics : next.diagnostics = program.diagnostics ++ steps.flatMap CallStep.diagnostics
  epilogue : next.epilogue = program.epilogue
  varyings : next.varyings = program.varyings.extend (steps.flatMap CallStep.varyings)

theorem Grows.none (program : Program) : Grows [] program program := by
  constructor <;> simp [DeclarationSet.extend]

theorem Grows.append {first second : List CallStep} {program middle last : Program}
    (early : Grows first program middle) (late : Grows second middle last) :
    Grows (first ++ second) program last := by
  constructor
  · simp [late.locals, early.locals]
  · simp [late.defaults, early.defaults]
  · simp [late.calls, early.calls]
  · simp [late.diagnostics, early.diagnostics]
  · rw [late.epilogue, early.epilogue]
  · rw [late.varyings, early.varyings, DeclarationSet.extend_extend, List.flatMap_append]

theorem grows_addCall (supplied : SortedSet String) (step : CallStep) (program : Program)
    (source : Option String) : Grows [step] program
      ((program.addSource step.node.function source).addCall supplied step.node step.signature
        step.feeds) := by
  cases source with
  | none => constructor <;> simp [addSource, addCall, CallStep.outputs, CallStep.defaults,
      CallStep.call, CallStep.diagnostics, CallStep.varyings]
  | some text => constructor <;> simp [addSource, addCall, CallStep.outputs, CallStep.defaults,
      CallStep.call, CallStep.diagnostics, CallStep.varyings]

/-- A program becomes another one by adding some calls one behind another, each with or without the
source of its function. -/
inductive Adds (supplied : SortedSet String) : List CallStep → Program → Program → Prop
  | none (program : Program) : Adds supplied [] program program
  | call (step : CallStep) (source : Option String) {steps : List CallStep} {program next : Program}
      (behind : Adds supplied steps ((program.addSource step.node.function source).addCall supplied
        step.node step.signature step.feeds) next) :
      Adds supplied (step :: steps) program next

namespace Adds

variable {supplied : SortedSet String} {first second steps : List CallStep}
variable {program middle next : Program}

theorem append (early : Adds supplied first program middle)
    (late : Adds supplied second middle next) : Adds supplied (first ++ second) program next := by
  induction early with
  | none => exact late
  | call step source _ ih => exact .call step source (ih late)

theorem grows (added : Adds supplied steps program next) : Grows steps program next := by
  induction added with
  | none program => exact .none program
  | call step source _ ih => exact (grows_addCall supplied step _ source).append ih

/-- Calls declare the uniforms that they ask for and that are not supplied. -/
theorem uniforms_eq (added : Adds supplied steps program next) :
    next.uniforms = program.uniforms.extend
      ((steps.flatMap CallStep.uniforms).filter (·.name ∉ supplied)) := by
  induction added with
  | none => simp [DeclarationSet.extend]
  | @call step source _ program _ _ ih =>
    have kept : (program.addSource step.node.function source).uniforms = program.uniforms := by
      cases source <;> rfl
    rw [ih, addCall, kept, DeclarationSet.extend_extend, List.flatMap_cons, List.filter_append]
    rfl

end Adds

theorem returns_feedInputs {graph : Graph} {node : GraphNode} {params : List Param}
    {feeds : List Feed} {s t : σ} : (feedInputs graph node params).Returns s feeds t ↔
      Feed.ofParams graph node params = (feeds, none) ∧ t = s := by
  rw [feedInputs, Run.returns_ofResult]
  refine and_congr_left fun _ => ?_
  cases Feed.ofParams graph node params with
  | mk found failure => cases failure <;> simp

variable [ResourceStore σ] {graph : Graph} {supplied : SortedSet String} {node : GraphNode}
variable {program next : Program} {library final : Library σ}

/-- Graphs that bind their inputs alike add nodes alike, whatever the numbers of these. -/
theorem addNode_congr {other : Graph}
    (bound : ∀ node input, other.binding? node input = graph.binding? node input)
    (supplied : SortedSet String) (program : Program) (node : GraphNode) (id : Nat) :
    (addNode other supplied program { node with id } : Run (Library σ) ProgramError Program) =
      addNode graph supplied program node := by
  have fed (params : List Param) :
      (feedInputs other { node with id } params : Run (Library σ) ProgramError (List Feed)) =
        feedInputs graph node params := by
    rw [feedInputs, feedInputs, Feed.ofParams_congr bound]
  simp only [addNode, fed]
  rfl

theorem newSource_extends {signature : Signature} {source : Option String}
    (read : (newSource program node signature).Returns library source final) :
    final.Extends library := by
  rw [newSource] at read
  split at read
  · obtain ⟨_, rfl⟩ := Run.returns_pure.mp read
    exact .refl _
  · split at read
    · obtain ⟨_, rfl⟩ := Run.returns_pure.mp read
      exact .refl _
    · obtain ⟨_, ⟨_, rfl⟩, _⟩ := Run.returns_map.mp read
      exact Library.loadSource_extends ..

/-- A node that is called adds its call, and a value adds nothing. -/
theorem addNode_adds
    (added : (addNode graph supplied program node).Returns library next final) :
    final.Extends library ∧ ∃ steps : List CallStep,
      steps.map CallStep.node = [node].filter (!isPassThrough ·.function) ∧
      (∀ step ∈ steps, step.Fits graph final) ∧ Adds supplied steps program next := by
  rw [addNode] at added
  split at added
  · rename_i value
    obtain ⟨_, _, noted, ended⟩ := Run.returns_bind.mp added
    obtain rfl := Run.returns_note.mp noted
    obtain ⟨rfl, rfl⟩ := Run.returns_pure.mp ended
    exact ⟨.refl _, [], by simp [value], by simp, .none _⟩
  · rename_i called
    simp only [Run.returns_bind, Run.returns_mapError] at added
    obtain ⟨signature, first, loaded, source, second, read, feeds, third, fed, _, _, noted, ended⟩ :=
      added
    obtain ⟨filled, rfl⟩ := returns_feedInputs.mp fed
    obtain rfl := Run.returns_note.mp noted
    obtain ⟨rfl, rfl⟩ := Run.returns_pure.mp ended
    have early : first.Extends library := loaded.2 ▸ Library.load_extends ..
    have late := newSource_extends read
    let step : CallStep := ⟨node, signature, feeds⟩
    have fits : step.Fits graph first :=
      ⟨Library.get?_of_load_returns loaded, Feed.ofParams_eq filled⟩
    refine ⟨late.trans early, [step], by simp [step, called], ?_, .call step source (.none _)⟩
    simpa using fits.of_extends late

theorem foldlM_addNode_adds {nodes : List GraphNode}
    (added : (nodes.foldlM (addNode graph supplied) program).Returns library next final) :
    final.Extends library ∧ ∃ steps : List CallStep,
      steps.map CallStep.node = nodes.filter (!isPassThrough ·.function) ∧
      (∀ step ∈ steps, step.Fits graph final) ∧ Adds supplied steps program next := by
  induction nodes generalizing program library with
  | nil =>
    obtain ⟨rfl, rfl⟩ := Run.returns_pure.mp added
    exact ⟨.refl _, [], rfl, by simp, .none _⟩
  | cons node rest ih =>
    rw [List.foldlM_cons] at added
    obtain ⟨middle, between, first, added⟩ := Run.returns_bind.mp added
    obtain ⟨early, here, called, fits, adds⟩ := addNode_adds first
    obtain ⟨late, others, laterCalled, laterFits, laterAdds⟩ := ih added
    refine ⟨late.trans early, here ++ others, ?_, ?_, adds.append laterAdds⟩
    · rw [List.map_append, called, laterCalled, ← List.filter_append, List.singleton_append]
    · intro step member
      rcases List.mem_append.mp member with member | member
      · exact (fits step member).of_extends late
      · exact laterFits step member

/-- The calls of a program are those of the scheduled nodes that are no values, in their order. -/
theorem ofScheduled_adds {scheduled : ScheduledGraph}
    (made : (ofScheduled scheduled supplied).Returns library program final) :
    final.Extends library ∧ ∃ steps : List CallStep,
      steps.map CallStep.node = scheduled.nodes.filter (!isPassThrough ·.function) ∧
      (∀ step ∈ steps, step.Fits scheduled.graph final) ∧
      Adds supplied steps (beforeCalls scheduled.graph) program :=
  foldlM_addNode_adds made

theorem ofScheduled_returns {scheduled : ScheduledGraph}
    (made : (ofScheduled scheduled supplied).Returns library program final) :
    final.Extends library ∧ ∃ steps : List CallStep,
      steps.map CallStep.node = scheduled.nodes.filter (!isPassThrough ·.function) ∧
      (∀ step ∈ steps, step.Fits scheduled.graph final) ∧
      Grows steps (beforeCalls scheduled.graph) program := by
  obtain ⟨extended, steps, called, fits, added⟩ := ofScheduled_adds made
  exact ⟨extended, steps, called, fits, added.grows⟩

end Program
end ShaderGraph
