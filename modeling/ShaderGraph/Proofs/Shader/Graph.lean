import ShaderGraph.Proofs.Run
import ShaderGraph.Shader.Compile

/-! Compilation from the graph on. A document has no other part in its shader than by its graph. -/
namespace ShaderGraph

variable [ResourceStore σ]

def Graph.compile (supplied : SortedSet String) (graph : Graph) :
    Run (Library σ) CompileError Shader := do
  let (ordered, log) := graph.schedule
  let scheduled ← .ofResult (ordered.mapError fun cycle => .cycle cycle.names) log
  let program ← (Program.ofScheduled scheduled supplied).mapError .program
  let shader := Shader.ofProgram program
  .note [.compiled (shader.summary graph)]
  return shader

theorem compile_eq (supplied : SortedSet String) (document : GraphDocument) :
    (compile supplied document : Run (Library σ) CompileError Shader) =
      Run.ofResult ((Graph.ofDocument document supplied).1.mapError .document)
        (Graph.ofDocument document supplied).2 >>= Graph.compile supplied :=
  rfl

variable {supplied : SortedSet String} {document : GraphDocument}

theorem compile_of_unread {cause : DocumentError}
    (unread : (Graph.ofDocument document supplied).1 = .error cause) (library : Library σ) :
    (compile supplied document library).result = .error (.document cause) ∧
      (compile supplied document library).state = library := by
  rw [compile_eq, unread]
  exact ⟨rfl, rfl⟩

theorem compile_of_read {graph : Graph} (read : (Graph.ofDocument document supplied).1 = .ok graph)
    (library : Library σ) :
    (compile supplied document library).result = (graph.compile supplied library).result ∧
      (compile supplied document library).state = (graph.compile supplied library).state := by
  rw [compile_eq, read]
  exact Run.ofResult_bind graph _ (Graph.compile supplied) library

/-- The errors that arise from a graph are not about its document. -/
theorem Graph.mapError_compile {f : CompileError → CompileError} (supplied : SortedSet String)
    (graph : Graph) (cycles : ∀ names, f (.cycle names) = .cycle names)
    (programs : ∀ cause, f (.program cause) = .program cause) :
    (graph.compile supplied : Run (Library σ) CompileError Shader).mapError f =
      graph.compile supplied := by
  have ordered : (graph.schedule.1.mapError fun cycle => CompileError.cycle cycle.names).mapError f =
      graph.schedule.1.mapError fun cycle => .cycle cycle.names := by
    simp only [Run.mapError_mapError, cycles]
  have made (scheduled : ScheduledGraph) :
      ((Program.ofScheduled scheduled supplied : Run (Library σ) ProgramError Program).mapError
        CompileError.program).mapError f =
      (Program.ofScheduled scheduled supplied).mapError .program := by
    simp only [Run.mapError_comp, programs]
  simp only [compile, Run.mapError_bind, made]
  exact congrArg (fun result => Run.ofResult result graph.schedule.2 >>= _) ordered

end ShaderGraph
