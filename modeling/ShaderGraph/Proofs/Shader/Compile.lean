import ShaderGraph.Shader.Compile
import ShaderGraph.Proofs.Graph.Scheduled
import ShaderGraph.Proofs.Program.Dataflow
import ShaderGraph.Proofs.Program.Scheduled

/-! Compilations that succeed: the graph of the document, the order of its nodes and the calls made
of them. What is defined by a call comes before it is used. -/
namespace ShaderGraph

/-- A compilation that succeeds, with what it goes through. -/
structure Compilation (supplied : SortedSet String) (document : GraphDocument)
    (library final : Library σ) (program : Program) where
  graph : Graph
  scheduled : ScheduledGraph
  steps : List CallStep
  read : (Graph.ofDocument document supplied).1 = .ok graph
  ordered : graph.schedule.1 = .ok scheduled
  called : steps.map CallStep.node = scheduled.nodes.filter (!isPassThrough ·.function)
  fits : ∀ step ∈ steps, step.Fits graph final
  grown : Program.Grows steps (.beforeCalls graph) program
  extended : final.Extends library

variable {supplied : SortedSet String} {document : GraphDocument}

theorem returns_compile [ResourceStore σ] {library final : Library σ} {shader : Shader} :
    (compile supplied document).Returns library shader final ↔
      ∃ graph scheduled program, (Graph.ofDocument document supplied).1 = .ok graph ∧
        graph.schedule.1 = .ok scheduled ∧
        (Program.ofScheduled scheduled supplied).Returns library program final ∧
        shader = .ofProgram program := by
  simp only [compile, Run.returns_bind, Run.returns_ofResult, Run.returns_mapError,
    Run.mapError_eq_ok, Run.returns_note, Run.returns_pure]
  constructor
  · rintro ⟨graph, _, ⟨read, rfl⟩, scheduled, _, ⟨ordered, rfl⟩, program, _, made, _, _, rfl, rfl, rfl⟩
    exact ⟨graph, scheduled, program, read, ordered, made, rfl⟩
  · rintro ⟨graph, scheduled, program, read, ordered, made, rfl⟩
    exact ⟨graph, _, ⟨read, rfl⟩, scheduled, _, ⟨ordered, rfl⟩, program, _, made, (), _, rfl, rfl, rfl⟩

theorem compile_returns [ResourceStore σ] {library final : Library σ} {shader : Shader}
    (compiled : (compile supplied document).Returns library shader final) :
    Nonempty (Compilation supplied document library final shader.program) := by
  obtain ⟨graph, scheduled, program, read, ordered, made, rfl⟩ := returns_compile.mp compiled
  obtain ⟨extended, steps, called, fits, grown⟩ := Program.ofScheduled_returns made
  obtain ⟨same, _⟩ := Graph.schedule_eq_ok ordered
  rw [same] at fits grown
  exact ⟨⟨graph, scheduled, steps, read, ordered, called, fits, grown, extended⟩⟩

namespace Compilation

variable {library final : Library σ} {program : Program}

def flow (c : Compilation supplied document library final program) : Dataflow :=
  c.graph.dataflow document final

theorem represents (c : Compilation supplied document library final program) :
    c.graph.Represents document :=
  Graph.ofDocument_represents c.read

/-- Inputs are bound to what the last edges into them carry. -/
theorem binding?_eq (c : Compilation supplied document library final program)
    (node input : String) :
    c.graph.binding? node input = (c.flow.edge? node input).map c.flow.carried :=
  c.represents.binding?_eq final node input

theorem calls_eq (c : Compilation supplied document library final program) :
    program.calls = c.steps.map CallStep.call := by
  simpa [Program.beforeCalls, Program.empty] using c.grown.calls

theorem locals_eq (c : Compilation supplied document library final program) :
    program.locals = c.steps.flatMap CallStep.outputs := by
  simpa [Program.beforeCalls, Program.empty] using c.grown.locals

theorem outputs_declared (c : Compilation supplied document library final program)
    {step : CallStep} (member : step ∈ c.steps) {name : String} (output : name ∈ step.call.outputs) :
    name ∈ program.locals.map Declaration.name := by
  rw [c.locals_eq, List.map_flatMap]
  exact List.mem_flatMap.mpr ⟨step, member, output⟩

theorem defaults_eq (c : Compilation supplied document library final program) :
    program.defaults = c.steps.flatMap CallStep.defaults := by
  simpa [Program.beforeCalls, Program.empty] using c.grown.defaults

/-- Each node that is no value is called once. -/
theorem nodes_perm (c : Compilation supplied document library final program) :
    (c.steps.map CallStep.node).Perm
      (c.graph.nodes.values.filter (!isPassThrough ·.function)) := by
  rw [c.called]
  exact (Graph.nodes_perm_of_schedule c.ordered).filter _

theorem nodes_nodup (c : Compilation supplied document library final program) :
    (c.steps.map CallStep.node).Nodup :=
  c.nodes_perm.nodup_iff.mpr (c.represents.values_nodup.filter _)

theorem of_mem_steps (c : Compilation supplied document library final program) {step : CallStep}
    (member : step ∈ c.steps) :
    step.node ∈ c.graph.nodes.values ∧ isPassThrough step.node.function = false := by
  have kept := c.nodes_perm.subset (List.mem_map_of_mem member)
  simpa using List.mem_filter.mp kept

/-- The call that an input takes its value from comes before the call with the input, also if the
name of the latter is declared again: it then stands in no constraint, and the former does. -/
theorem source_called_before (c : Compilation supplied document library final program)
    {front back : List CallStep} {step : CallStep} {input : String} {e : Edge} {source : GraphNode}
    {place : Nat} (split : c.steps = front ++ step :: back)
    (fed : c.flow.edge? step.node.name input = some e)
    (found : c.flow.output? e = some (source, place)) :
    ∃ earlier ∈ front, earlier.node = source := by
  obtain ⟨edge, target, _⟩ := Dataflow.of_edge? fed
  obtain ⟨named, called, _⟩ := Dataflow.of_output? found
  have here : step ∈ c.steps := by simp [split]
  obtain ⟨member, stepCalled⟩ := c.of_mem_steps here
  have first : c.graph.node? (normalizeName e.source.node) = some source :=
    (c.represents.source?_eq final e).symm.trans named
  have before := c.represents.source_precedes c.ordered edge first member target.symm
  have kept : Precedes (c.steps.map CallStep.node) source step.node := by
    rw [c.called]
    exact before.filter (by simp [called]) (by simp [stepCalled])
  have unique := c.nodes_nodup
  rw [split, List.map_append, List.map_cons] at kept unique
  exact List.mem_map.mp (kept.mem_front unique)

end Compilation
end ShaderGraph
