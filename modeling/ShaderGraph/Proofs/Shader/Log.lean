import ShaderGraph.Proofs.Graph.Document
import ShaderGraph.Proofs.Log
import ShaderGraph.Proofs.Shader.Graph

/-! The log of a compilation agrees with its result: a warning for each edge that has lost an end, then
one for each diagnostic, and a summary in the end if there is a shader. -/
namespace ShaderGraph

def GraphDocument.Dangling (document : GraphDocument) (e : Edge) : Prop :=
  normalizeName e.source.node ∉ document.names ∨ normalizeName e.target.node ∉ document.names

instance (document : GraphDocument) (e : Edge) : Decidable (document.Dangling e) :=
  inferInstanceAs (Decidable (_ ∨ _))

def Edge.lost (e : Edge) : Record :=
  .unknownEndpoint (normalizeName e.source.node) e.source.interface (normalizeName e.target.node)
    e.target.interface

theorem Edge.line_lost (e : Edge) : e.lost.line =
    "WARN Edge `" ++ normalizeName e.source.node ++ "." ++ e.source.interface ++ "` -> `" ++
      normalizeName e.target.node ++ "." ++ e.target.interface ++
      "` references an unknown node, it does not constrain the call order" := by
  rw [Record.line_of_warn rfl, lost, Record.message_unknownEndpoint]
  simp only [← String.append_assoc]
  rfl

theorem Diagnostic.line_unconnected (d : Diagnostic) : (Record.unconnected d).line =
    "WARN Input `" ++ d.input ++ "` of node `" ++ d.node ++
      "` is not connected, defaulting to " ++ d.type ++ " " ++ d.literal := by
  rw [Record.line_of_warn rfl, Record.message_unconnected, d.text_eq]
  simp only [← String.append_assoc]
  rfl

theorem Summary.line_compiled (nodes calls varyings warnings : Nat) :
    (Record.compiled ⟨nodes, calls, varyings, warnings⟩).line =
      "INFO Compiled shader graph: " ++ toString nodes ++ " nodes, " ++ toString calls ++
        " calls, " ++ toString varyings ++ " varyings, " ++ toString warnings ++ " warnings" := by
  rw [Record.line_of_info rfl, Record.message_compiled]
  simp only [← String.append_assoc]
  rfl

namespace Graph

variable {graph : Graph} {document : GraphDocument} {supplied : SortedSet String}

theorem Represents.warning?_resolve (represents : graph.Represents document) (e : Edge) :
    (graph.resolve e).warning? = if document.Dangling e then some e.lost else none := by
  rw [ResolvedEdge.warning?, ResolvedEdge.constraint?]
  simp only [resolve, GraphDocument.Dangling, ← represents.node?_eq_none]
  cases graph.node? (normalizeName e.source.node) <;>
    cases graph.node? (normalizeName e.target.node) <;> rfl

theorem Represents.filterMap_warning? (represents : graph.Represents document) :
    (document.edges.filterMap fun e => (graph.resolve e).warning?) =
      (document.edges.filter (document.Dangling ·)).map Edge.lost := by
  rw [← List.filterMap_eq_map, List.filterMap_filter]
  simp only [represents.warning?_resolve, decide_eq_true_eq, Function.comp_apply]

theorem Represents.size_nodes (represents : graph.Represents document) :
    graph.nodes.size = document.nodes.length := by
  simpa [Table.keys, Table.size] using congrArg List.length represents.numbered

theorem level_supplies {nodes : List GraphNode} {record : Record}
    (member : record ∈ nodes.filterMap (supplyRecord? supplied)) : record.level = .debug := by
  obtain ⟨node, _, supply⟩ := List.mem_filterMap.mp member
  rw [supplyRecord?] at supply
  split at supply
  · exact Option.some.inj supply ▸ rfl
  · contradiction

/-- What is logged on the way to a graph, with a warning for each edge that has lost an end. -/
theorem log_of_ofDocument (read : (ofDocument document supplied).1 = .ok graph) :
    ∃ (nodes : List GraphNode) (ingested : Record),
      (ofDocument document supplied).2 = nodes.filterMap (supplyRecord? supplied) ++
      (document.edges.filter (document.Dangling ·)).map Edge.lost ++ [ingested] ∧
      ingested.level = .debug := by
  obtain ⟨settings, nodes, kept, made, same⟩ := ofDocument_eq_ok read
  refine ⟨nodes, .ingested graph.nodes.size graph.constraints.toList.length, ?_, rfl⟩
  rw [← (ofDocument_represents read).filterMap_warning?]
  simp only [ofDocument, kept, made, List.filterMap_map, same]
  rfl

theorem early_of_ofDocument (document : GraphDocument) (supplied : SortedSet String) :
    ∀ record ∈ (ofDocument document supplied).2, record.Early := by
  cases read : (ofDocument document supplied).1 with
  | ok graph =>
    obtain ⟨nodes, ingested, written, detail⟩ := log_of_ofDocument read
    rw [written, List.forall_mem_append, List.forall_mem_append, List.forall_mem_singleton,
      List.forall_mem_map]
    refine ⟨⟨fun record member => .of_debug (level_supplies member), ?_⟩, .of_debug detail⟩
    exact fun e _ => ⟨nofun, nofun⟩
  | error error =>
    rw [ofDocument] at read ⊢
    split
    · simp
    · rename_i settings kept
      rw [kept] at read
      cases made : readNodes settings 1 document.nodes with
      | mk nodes failure =>
        cases failure with
        | none => simp [made] at read
        | some cause => exact fun record member => .of_debug (level_supplies member)

theorem warnings_of_ofDocument (read : (ofDocument document supplied).1 = .ok graph) :
    warnings (ofDocument document supplied).2 =
      (document.edges.filter (document.Dangling ·)).map Edge.lost := by
  obtain ⟨nodes, ingested, written, detail⟩ := log_of_ofDocument read
  have lost : ∀ record ∈ (document.edges.filter (document.Dangling ·)).map Edge.lost,
      record.level = .warn := List.forall_mem_map.mpr fun e _ => rfl
  have last : warnings [ingested] = [] := warnings_eq_nil (List.forall_mem_singleton.mpr detail)
  rw [written, warnings_append, warnings_append, last, warnings_eq_self lost,
    warnings_eq_nil fun record => level_supplies, List.nil_append, List.append_nil]

theorem log_schedule (graph : Graph) : ∀ record ∈ graph.schedule.2, record.level = .debug := by
  rw [schedule]
  split <;> simp [Record.level]

end Graph

/-- Programs log as much as they hold: each further diagnostic is warned of. -/
structure Program.Logged (program : Program) (result : Except ProgramError Program)
    (log : List Record) : Prop where
  calm : ∀ record ∈ log, record.level ≠ .info
  told : ∀ next, result = .ok next → next.diagnostics.map .unconnected =
    program.diagnostics.map .unconnected ++ warnings log

theorem Library.load_quiet [ResourceStore σ] (function : String) :
    (load function : Run (Library σ) LibraryError Signature).Quiet := by
  intro library
  rw [load]
  split
  · simp
  · simp only
    split
    · simp [Record.level]
    · split <;> simp [Record.level]

theorem Library.loadSource_quiet [ResourceStore σ] (function : String) (path : ResourcePath) :
    (loadSource function path : Run (Library σ) LibraryError String).Quiet := by
  intro library
  rw [loadSource]
  split
  · simp
  · simp only
    split <;> simp [Record.level]

namespace Program

variable {program next : Program} {result : Except ProgramError Program} {log more : List Record}
  {graph : Graph} {supplied : SortedSet String} {node : GraphNode}

theorem Logged.of_calm {error : ProgramError} (calm : ∀ record ∈ log, record.level ≠ .info) :
    Logged program (.error error) log :=
  ⟨calm, nofun⟩

theorem Logged.trans (first : Logged program (.ok next) log) (rest : Logged next result more) :
    Logged program result (log ++ more) := by
  refine ⟨List.forall_mem_append.mpr ⟨first.calm, rest.calm⟩, fun last made => ?_⟩
  rw [rest.told last made, first.told next rfl, warnings_append, List.append_assoc]

theorem Logged.of_quiet (quiet : ∀ record ∈ log, record.level = .debug) :
    Logged program (.ok program) log := by
  refine ⟨fun record member => by simp [quiet record member], ?_⟩
  rintro _ ⟨⟩
  rw [warnings_eq_nil quiet, List.append_nil]

/-- What is quiet can stand in front of all that logs. -/
theorem logged_bind {x : Run σ ProgramError α} {f : α → Run σ ProgramError Program} (quiet : x.Quiet)
    (rest : ∀ a, (f a).Writes (Logged program)) : (x >>= f).Writes (Logged program) := by
  refine .bind quiet (fun a log details s => (Logged.of_quiet details).trans (rest a s)) ?_
  exact fun error log details => .of_calm fun record member => by simp [details record member]

/-- Inputs are fed with a warning for each diagnostic. -/
theorem feedInputs_writes (params : List Param) :
    (feedInputs graph node params : Run σ ProgramError (List Feed)).Writes fun result log =>
      (∀ record ∈ log, record.level = .warn) ∧ ∀ feeds, result = .ok feeds →
        log = (feeds.filterMap Feed.diagnostic?).map .unconnected := by
  rw [feedInputs]
  refine .ofResult ⟨fun record member => ?_, fun feeds fed => ?_⟩
  · obtain ⟨diagnostic, _, rfl⟩ := List.mem_map.mp member
    rfl
  · split at fed
    · contradiction
    · rw [Except.ok.inj fed]

variable [ResourceStore σ]

theorem newSource_quiet (signature : Signature) :
    (newSource program node signature : Run (Library σ) LibraryError (Option String)).Quiet := by
  rw [newSource]
  split
  · exact .pure (by simp)
  · split
    · exact .pure (by simp)
    · exact (Library.loadSource_quiet node.function _).map some

theorem addNode_logged : (addNode graph supplied program node : Run (Library σ) _ _).Writes
    (Logged program) := by
  rw [addNode]
  split
  · refine logged_bind (.ofResult (by simp [Record.level])) fun _ => ?_
    exact .pure (.of_quiet (by simp))
  · refine logged_bind ((Library.load_quiet _).mapError _) fun signature => ?_
    refine logged_bind ((newSource_quiet signature).mapError _) fun source => ?_
    refine .bind (feedInputs_writes signature.inputs) (fun feeds log fed => ?_) ?_
    · obtain ⟨warned, all⟩ := fed
      refine .ofResult_bind (fun _ _ => .pure ⟨?_, ?_⟩) nofun
      · refine List.forall_mem_append.mpr ⟨fun record member => ?_, ?_⟩
        · simp [warned record member]
        · exact List.forall_mem_singleton.mpr nofun
      · rintro _ ⟨⟩
        have kept : (program.addSource node.function source).diagnostics = program.diagnostics := by
          cases source <;> rfl
        rw [warnings_append, warnings_eq_self warned, all feeds rfl, addCall, kept, List.map_append]
        exact congrArg (_ ++ ·) (List.append_nil _).symm
    · exact fun error log failed => .of_calm fun record member => by simp [failed.1 record member]

theorem ofScheduled_logged (scheduled : ScheduledGraph) (supplied : SortedSet String) :
    (ofScheduled scheduled supplied : Run (Library σ) ProgramError Program).Writes
      (Logged (.beforeCalls scheduled.graph)) := by
  rw [ofScheduled]
  generalize beforeCalls scheduled.graph = program
  induction scheduled.nodes generalizing program with
  | nil => exact .pure (.of_quiet (by simp))
  | cons node rest ih =>
    rw [List.foldlM_cons]
    refine .bind addNode_logged (fun next log began s => began.trans (ih next s)) ?_
    exact fun error log failed => .of_calm failed.calm

end Program

/-- What is logged of a compilation agrees with its result. If there is a shader, the edges that have
lost an end are warned of and then its diagnostics, and its summary comes last; `lines` has all that is
written then but for the details. Without a shader there is no summary. Inputs are not warned of before
there is a graph with an order. -/
structure GraphDocument.Reports (document : GraphDocument) (supplied : SortedSet String)
    (result : Except CompileError Shader) (log : List Record) : Prop where
  warned : ∀ shader, result = .ok shader → warnings log =
    (document.edges.filter (document.Dangling ·)).map Edge.lost ++
      shader.program.diagnostics.map .unconnected
  texts : ∀ shader, result = .ok shader → (warnings log).map Record.message =
    ((document.edges.filter (document.Dangling ·)).map fun e =>
      "Edge `" ++ normalizeName e.source.node ++ "." ++ e.source.interface ++ "` -> `" ++
        normalizeName e.target.node ++ "." ++ e.target.interface ++
        "` references an unknown node, it does not constrain the call order") ++
    shader.program.diagnostics.map Diagnostic.text
  informed : ∀ shader, result = .ok shader →
    let summary : Record := .compiled ⟨document.nodes.length, shader.program.calls.length,
      shader.program.varyings.size, shader.program.diagnostics.length⟩
    log.filter (·.level = .info) = [summary] ∧ log.getLast? = some summary
  lines : ∀ shader, result = .ok shader → (log.filter (·.level ≠ .debug)).map Record.line =
    ((document.edges.filter (document.Dangling ·)).map fun e =>
      "WARN Edge `" ++ normalizeName e.source.node ++ "." ++ e.source.interface ++ "` -> `" ++
        normalizeName e.target.node ++ "." ++ e.target.interface ++
        "` references an unknown node, it does not constrain the call order") ++
    (shader.program.diagnostics.map fun d =>
      "WARN Input `" ++ d.input ++ "` of node `" ++ d.node ++
        "` is not connected, defaulting to " ++ d.type ++ " " ++ d.literal) ++
    ["INFO Compiled shader graph: " ++ toString document.nodes.length ++ " nodes, " ++
      toString shader.program.calls.length ++ " calls, " ++
      toString shader.program.varyings.toList.length ++ " varyings, " ++
      toString shader.program.diagnostics.length ++ " warnings"]
  failed : ∀ error, result = .error error → ∀ record ∈ log, record.level ≠ .info
  fed : ∀ diagnostic, .unconnected diagnostic ∈ log → ∃ graph scheduled,
    (Graph.ofDocument document supplied).1 = .ok graph ∧ graph.schedule.1 = .ok scheduled

namespace GraphDocument.Reports

variable {document : GraphDocument} {supplied : SortedSet String} {graph : Graph}
  {scheduled : ScheduledGraph} {program : Program} {error : CompileError} {log : List Record}

theorem of_early (early : ∀ record ∈ log, record.Early) :
    document.Reports supplied (.error error) log := by
  constructor
  case warned | texts | informed | lines => nofun
  case failed => exact fun _ _ record member => (early record member).1
  case fed => exact fun diagnostic member => absurd rfl ((early _ member).2 diagnostic)

theorem of_calm (read : (Graph.ofDocument document supplied).1 = .ok graph)
    (ordered : graph.schedule.1 = .ok scheduled) (calm : ∀ record ∈ log, record.level ≠ .info) :
    document.Reports supplied (.error error) log := by
  constructor
  case warned | texts | informed | lines => nofun
  case failed => exact fun _ _ => calm
  case fed => exact fun _ _ => ⟨graph, scheduled, read, ordered⟩

/-- The summary comes last. It is the only one, and no warning. -/
theorem of_warned (read : (Graph.ofDocument document supplied).1 = .ok graph)
    (ordered : graph.schedule.1 = .ok scheduled) (calm : ∀ record ∈ log, record.level ≠ .info)
    (warned : warnings log = (document.edges.filter (document.Dangling ·)).map Edge.lost ++
      program.diagnostics.map .unconnected) :
    document.Reports supplied (.ok (.ofProgram program))
      (log ++ [.compiled ((Shader.ofProgram program).summary graph)]) := by
  have all : warnings (log ++ [.compiled ((Shader.ofProgram program).summary graph)]) =
      (document.edges.filter (document.Dangling ·)).map Edge.lost ++
        program.diagnostics.map .unconnected := by
    rw [warnings_append, warned]
    exact List.append_nil _
  have size := (Graph.ofDocument_represents read).size_nodes
  constructor
  case warned =>
    rintro _ ⟨⟩
    exact all
  case texts =>
    rintro _ ⟨⟩
    rw [all, List.map_append, List.map_map, List.map_map]
    rfl
  case lines =>
    rintro _ ⟨⟩
    rw [List.filter_append, filter_not_debug calm, warned, List.map_append, List.map_append,
      List.map_map, List.map_map]
    refine congrArg₂ _ (congrArg₂ _ ?_ ?_) ?_
    · exact List.map_congr_left fun e _ => e.line_lost
    · exact List.map_congr_left fun d _ => d.line_unconnected
    · rw [Shader.summary, size]
      exact congrArg ([·]) (Summary.line_compiled ..)
  case informed =>
    rintro _ ⟨⟩
    have none : log.filter (·.level = .info) = [] :=
      List.filter_eq_nil_iff.mpr fun record member => by simpa using calm record member
    rw [List.filter_append, none, List.getLast?_concat, Shader.summary, size]
    exact ⟨rfl, rfl⟩
  case failed => nofun
  case fed => exact fun _ _ => ⟨graph, scheduled, read, ordered⟩

end GraphDocument.Reports

variable [ResourceStore σ]

/-- A program that is made is warned about as often as it has diagnostics. -/
theorem writes_ofScheduled (scheduled : ScheduledGraph) (supplied : SortedSet String) :
    ((Program.ofScheduled scheduled supplied).mapError .program :
      Run (Library σ) CompileError Program).Writes fun result log =>
        (∀ record ∈ log, record.level ≠ .info) ∧ ∀ program, result = .ok program →
          warnings log = program.diagnostics.map .unconnected := by
  intro library
  obtain ⟨calm, told⟩ := Program.ofScheduled_logged scheduled supplied library
  exact ⟨calm, fun program made => (told program (Run.mapError_eq_ok.mp made)).symm⟩

theorem compile_writes (supplied : SortedSet String) (document : GraphDocument) :
    (compile supplied document : Run (Library σ) CompileError Shader).Writes
      (document.Reports supplied) := by
  have early := Graph.early_of_ofDocument document supplied
  rw [compile_eq]
  refine .ofResult_bind (fun graph read => ?_) fun error _ => .of_early early
  have read := Run.mapError_eq_ok.mp read
  have details := graph.log_schedule
  rw [Graph.compile]
  refine .ofResult_bind (fun scheduled ordered => ?_) fun error _ => .of_early ?_
  · have ordered := Run.mapError_eq_ok.mp ordered
    have calm {log : List Record} (behind : ∀ record ∈ log, record.level ≠ .info) :
        ∀ record ∈ (Graph.ofDocument document supplied).2 ++ (graph.schedule.2 ++ log),
          record.level ≠ .info := by
      simp only [List.forall_mem_append]
      exact ⟨fun _ member => (early _ member).1, fun _ member => by simp [details _ member], behind⟩
    refine .bind (writes_ofScheduled scheduled supplied) (fun program log made => ?_) ?_
    · refine .ofResult_bind (fun _ _ => .pure ?_) fun _ failed => by contradiction
      have warned : warnings ((Graph.ofDocument document supplied).2 ++ (graph.schedule.2 ++ log)) =
          (document.edges.filter (document.Dangling ·)).map Edge.lost ++
            program.diagnostics.map .unconnected := by
        rw [warnings_append, warnings_append, Graph.warnings_of_ofDocument read,
          warnings_eq_nil details, List.nil_append, made.2 program rfl]
      have report := GraphDocument.Reports.of_warned read ordered (calm made.1) warned
      rwa [List.append_assoc, List.append_assoc] at report
    · exact fun error log failed => .of_calm read ordered (calm failed.1)
  · exact List.forall_mem_append.mpr ⟨early, fun record member => .of_debug (details record member)⟩

/-- Whatever the library holds, each compilation is logged as its result says. A text that cannot be
parsed leaves no record. -/
theorem compile_reports (supplied : SortedSet String) (library : Library σ) :
    (∀ document : GraphDocument, document.Reports supplied
        (compile supplied document library).result (compile supplied document library).log) ∧
      ∀ text, (∀ document, GraphDocument.parse text = .ok document →
          document.Reports supplied (compileText supplied text library).result
            (compileText supplied text library).log) ∧
        ∀ cause, GraphDocument.parse text = .error cause →
          (compileText supplied text library).result = .error (.document cause) ∧
            (compileText supplied text library).log = [] := by
  refine ⟨fun document => compile_writes supplied document library, fun text => ⟨?_, ?_⟩⟩
  · intro document parsed
    have same : compileText supplied text library = compile supplied document library := by
      rw [compileText, parsed]
      rfl
    rw [same]
    exact compile_writes supplied document library
  · intro cause unread
    rw [compileText, unread]
    exact ⟨rfl, rfl⟩

def frayed : GraphDocument where
  nodes := [⟨"a", "tone", none⟩]
  edges := [⟨⟨"lost", "y"⟩, ⟨"a", "x"⟩⟩]
  settings := []

/-- The first input is not fed, and for the second there is a value that cannot be written. -/
def unwritable : GraphDocument where
  nodes := [⟨"a", "tone", some (.mapping [(.string "inputs", .mapping [(.string "k", .null)])])⟩]
  edges := []
  settings := []

def frayedLibrary : Library MemoryStore where
  store := .empty
  signatures := .ofList
    [("tone", ⟨"tone", [⟨"x", "float", 0⟩, ⟨"k", "float", 1⟩], [⟨"y", "float", 2⟩], none, ∅, ∅, ∅⟩)]
  sources := ∅

theorem frayed_reports :
    (∃ shader, (compile ∅ frayed frayedLibrary).result = .ok shader ∧
      warnings (compile ∅ frayed frayedLibrary).log =
        [.unknownEndpoint "lost" "y" "a" "x", .unconnected ⟨"a", "k", "float", "1.0"⟩] ∧
      (compile ∅ frayed frayedLibrary).log.getLast? = some (.compiled ⟨1, 1, 0, 1⟩) ∧
      ((compile ∅ frayed frayedLibrary).log.filter (·.level ≠ .debug)).map Record.line =
        ["WARN Edge `lost.y` -> `a.x` references an unknown node, it does not constrain the call order",
          "WARN Input `k` of node `a` is not connected, defaulting to float 1.0",
          "INFO Compiled shader graph: 1 nodes, 1 calls, 0 varyings, 1 warnings"]) ∧
    (∃ error, (compile ∅ unwritable frayedLibrary).result = .error error ∧
      .unconnected ⟨"a", "x", "float", "1.0"⟩ ∈ (compile ∅ unwritable frayedLibrary).log ∧
      (∀ record ∈ (compile ∅ unwritable frayedLibrary).log, record.level ≠ .info) ∧
      ∃ graph scheduled, (Graph.ofDocument unwritable ∅).1 = .ok graph ∧
        graph.schedule.1 = .ok scheduled) ∧
    ∃ cause, GraphDocument.parse "[" = .error cause ∧
      (compileText ∅ "[" frayedLibrary).log = [] := by
  obtain ⟨documents, texts⟩ := compile_reports ∅ frayedLibrary
  have made : (compile ∅ frayed frayedLibrary).result.toOption.map (fun shader =>
      (shader.program.calls.length, shader.program.varyings.toList, shader.program.diagnostics)) =
      some (1, [], [⟨"a", "k", "float", "1.0"⟩]) := by
    decide +kernel
  obtain ⟨shader, compiled, made⟩ := Option.map_eq_some_iff.mp made
  have compiled := Run.toOption_eq_some.mp compiled
  obtain ⟨calls, varyings, diagnostics⟩ := by simpa using made
  have warned := (documents frayed).warned shader compiled
  have informed := ((documents frayed).informed shader compiled).2
  have lines := (documents frayed).lines shader compiled
  rw [diagnostics] at warned informed lines
  rw [calls, DeclarationSet.size, varyings] at informed
  rw [calls, varyings] at lines
  have failed : (compile ∅ unwritable frayedLibrary).result = .error _ := rfl
  have unfed : Record.unconnected ⟨"a", "x", "float", "1.0"⟩ ∈
      (compile ∅ unwritable frayedLibrary).log := by decide +kernel
  obtain ⟨cause, unread⟩ := Run.toOption_eq_none.mp
    (by decide +kernel : (GraphDocument.parse "[").toOption = none)
  have lost : (frayed.edges.filter (frayed.Dangling ·)).map Edge.lost =
    [.unknownEndpoint "lost" "y" "a" "x"] := by decide +kernel
  rw [lost] at warned
  exact ⟨⟨shader, compiled, warned, informed, lines.trans (by decide +kernel)⟩, ⟨_, failed, unfed,
    (documents unwritable).failed _ failed, (documents unwritable).fed _ unfed⟩,
    cause, unread, ((texts "[").2 cause unread).2⟩

end ShaderGraph
