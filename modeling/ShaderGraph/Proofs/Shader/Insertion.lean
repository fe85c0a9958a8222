import ShaderGraph.Proofs.Graph.Insertion
import ShaderGraph.Proofs.Program.Success
import ShaderGraph.Proofs.Shader.Compile
import ShaderGraph.Proofs.Shader.Precedence

/-! Shaders with a node more. A node to which no edge leads and from which none comes adds its own call
and what belongs to it, and leaves the rest as it is. There is one way in which it can help others: its
source is then kept for functions that spell the path so that it cannot be read. -/
namespace ShaderGraph

def HasBlock (block short long : List α) : Prop :=
  ∃ front back, short = front ++ back ∧ long = front ++ block ++ back

theorem HasBlock.subset {block short long : List α} (added : HasBlock block short long) :
    short ⊆ long := by
  obtain ⟨front, back, rfl, rfl⟩ := added
  intro a member
  rcases List.mem_append.mp member with early | late
  · exact List.mem_append_left _ (List.mem_append_left _ early)
  · exact List.mem_append_right _ late

theorem HasBlock.flatMap (f : α → List β) (first block second : List α) :
    HasBlock (block.flatMap f) ((first ++ second).flatMap f)
      ((first ++ block ++ second).flatMap f) :=
  ⟨first.flatMap f, second.flatMap f, List.flatMap_append, by simp⟩

theorem HasBlock.map (f : α → β) (first block second : List α) :
    HasBlock (block.map f) ((first ++ second).map f) ((first ++ block ++ second).map f) :=
  ⟨first.map f, second.map f, List.map_append, by simp⟩

def GraphNode.unnumbered (node : GraphNode) : GraphNode := { node with id := 0 }

section
variable [ResourceStore σ] {supplied : SortedSet String} {graph more : Graph}

theorem foldlM_addNode_congr {nodes others : List GraphNode}
    (bound : ∀ node input, more.binding? node input = graph.binding? node input)
    (same : others.map GraphNode.unnumbered = nodes.map GraphNode.unnumbered) (program : Program) :
    (others.foldlM (Program.addNode more supplied) program : Run (Library σ) ProgramError Program) =
      nodes.foldlM (Program.addNode graph supplied) program := by
  induction nodes generalizing others program with
  | nil =>
    obtain rfl := List.map_eq_nil_iff.mp same
    rfl
  | cons node rest ih =>
    obtain ⟨other, behind, rfl, here, same⟩ := List.map_eq_cons_iff.mp same
    have renumbered : other = { node with id := other.id } := by
      cases node
      cases other
      cases here
      rfl
    have added (program : Program) : (Program.addNode more supplied program other :
        Run (Library σ) ProgramError Program) = Program.addNode graph supplied program node := by
      rw [renumbered]
      exact Program.addNode_congr bound supplied program node other.id
    rw [List.foldlM_cons, List.foldlM_cons, added]
    exact congrArg (Program.addNode graph supplied program node >>= ·)
      (funext fun next => ih same next)

theorem map_unnumbered (r : Renumbering) (node : GraphNode) (first second : List GraphNode) :
    (first.map r.node ++ node :: second.map r.node).map GraphNode.unnumbered =
      (first ++ node :: second).map GraphNode.unnumbered := by
  simp only [List.map_append, List.map_cons, List.map_map]
  rfl

end

/-- The lists of two programs of which one has a node more. -/
structure Program.HasCallOf (node : String) (short long : Program) : Prop where
  epilogue : long.epilogue = short.epilogue
  block : ∃ block : List CallStep, block.length ≤ 1 ∧ (∀ step ∈ block, step.node.name = node) ∧
    HasBlock (block.map CallStep.call) short.calls long.calls ∧
    HasBlock (block.flatMap CallStep.outputs) short.locals long.locals ∧
    HasBlock (block.flatMap CallStep.defaults) short.defaults long.defaults ∧
    HasBlock (block.flatMap CallStep.diagnostics) short.diagnostics long.diagnostics

theorem Program.hasCallOf_of_grows {graph more : Graph} {first block second : List CallStep}
    {short long : Program} {node : String} (grown : Grows (first ++ second) (.beforeCalls graph) short)
    (grownLong : Grows (first ++ block ++ second) (.beforeCalls more) long)
    (epilogue : more.epilogue = graph.epilogue) (single : block.length ≤ 1)
    (named : ∀ step ∈ block, step.node.name = node) : HasCallOf node short long := by
  constructor
  · rw [grown.epilogue, grownLong.epilogue, beforeCalls, beforeCalls, epilogue]
  · refine ⟨block, single, named, ?_, ?_, ?_, ?_⟩
    · rw [grown.calls, grownLong.calls]
      exact .map CallStep.call first block second
    · rw [grown.locals, grownLong.locals]
      exact .flatMap CallStep.outputs first block second
    · rw [grown.defaults, grownLong.defaults]
      exact .flatMap CallStep.defaults first block second
    · rw [grown.diagnostics, grownLong.diagnostics]
      exact .flatMap CallStep.diagnostics first block second

section
variable [ResourceStore σ] {supplied : SortedSet String} {document : GraphDocument}
variable {d : NodeDeclaration} {library : Library σ}

theorem compile_cycle_iff {names : List String} :
    (compile supplied document library).result = .error (.cycle names) ↔
      ∃ graph cycle, (Graph.ofDocument document supplied).1 = .ok graph ∧
        graph.schedule.1 = .error cycle ∧ cycle.names = names := by
  cases read : (Graph.ofDocument document supplied).1 with
  | error cause => simp [compile_of_unread read]
  | ok graph =>
    rw [(compile_of_read read library).1]
    cases ordered : graph.schedule.1 with
    | error cycle => simp [(Graph.compile_of_unordered ordered supplied library).1, ordered]
    | ok scheduled =>
      rw [Graph.compile_of_ordered ordered]
      cases (Program.ofScheduled scheduled supplied library).result with
      | error cause => simp [ordered, Except.mapError, Except.map]
      | ok program => simp [ordered, Except.mapError, Except.map]

end

theorem filterMap_append_cons (f : α → Option β) (front back : List α) (a : α) :
    (front ++ a :: back).filterMap f =
      front.filterMap f ++ (f a).toList ++ back.filterMap f := by
  rw [List.filterMap_append, List.filterMap_cons, List.append_assoc]
  cases f a <;> rfl

/-- A program with a node more, and the other nodes of it in the order in which a program without the
node is made of them. -/
structure Lengthened [ResourceStore σ] (supplied : SortedSet String) (document : GraphDocument)
    (name : String) (library : Library σ) (long : Program) where
  graph : Graph
  more : Graph
  scheduled : ScheduledGraph
  node : GraphNode
  front : List GraphNode
  back : List GraphNode
  final : Library σ
  read : (Graph.ofDocument document supplied).1 = .ok graph
  ordered : graph.schedule.1 = .ok scheduled
  nodes : scheduled.nodes = front ++ back
  named : node.name = name
  apart : ∀ other ∈ front ++ back, other.name ≠ name
  epilogue : more.epilogue = graph.epilogue
  returns : ((front ++ node :: back).foldlM (Program.addNode graph supplied)
    (.beforeCalls more)).Returns library long final

section
variable [ResourceStore σ] {supplied : SortedSet String} {document : GraphDocument}
variable {d : NodeDeclaration} {place : Nat} {library : Library σ} {long short : Shader}

theorem exists_lengthened (unnamed : document.Unnamed (normalizeName d.name))
    (compiled : (compile supplied (document.withNode place d) library).result = .ok long) :
    Nonempty (Lengthened supplied document (normalizeName d.name) library long.program) := by
  obtain ⟨more, _, longer, read, ordered, returns, rfl⟩ := returns_compile.mp ⟨compiled, rfl⟩
  obtain ⟨graph, node, readShort, named, related⟩ := Graph.ofDocument_withNode unnamed read
  cases found : graph.schedule.1 with
  | error cycle =>
    have represents := Graph.ofDocument_represents readShort
    obtain ⟨_, failed, _⟩ := related.schedule_error represents found
    rw [failed] at ordered
    contradiction
  | ok scheduled =>
    obtain ⟨_, front, back, same, own, nodes, nodesLong⟩ := related.schedule_ok found
    obtain rfl := Except.ok.inj (same.symm.trans ordered)
    have bound (node input : String) : more.binding? node input = graph.binding? node input := by
      rw [Graph.binding?, Graph.binding?, related.bindings]
    rw [Program.ofScheduled, nodesLong, own,
      foldlM_addNode_congr bound (map_unnumbered _ node front back)] at returns
    have apart (other : GraphNode) (member : other ∈ front ++ back) :
        other.name ≠ normalizeName d.name := by
      have among := (Graph.nodes_perm_of_schedule found).subset (nodes ▸ member)
      have spelled := List.mem_map_of_mem (f := GraphNode.name) among
      rw [(Graph.ofDocument_represents readShort).named] at spelled
      obtain ⟨declared, here, same⟩ := List.mem_map.mp spelled
      exact same ▸ unnamed.nodes declared here
    exact ⟨⟨graph, more, scheduled, node, front, back, _, readShort, found, nodes, named, apart,
      related.epilogue, returns⟩⟩

theorem epilogue_withNode (unnamed : document.Unnamed (normalizeName d.name))
    (compiled : (compile supplied (document.withNode place d) library).result = .ok long)
    (alone : (compile supplied document library).result = .ok short) :
    long.program.epilogue = short.program.epilogue := by
  obtain ⟨c⟩ := compile_returns ⟨compiled, rfl⟩
  obtain ⟨own⟩ := compile_returns ⟨alone, rfl⟩
  obtain ⟨graph, _, read, _, related⟩ := Graph.ofDocument_withNode unnamed c.read
  obtain rfl := Except.ok.inj (own.read.symm.trans read)
  rw [c.grown.epilogue, own.grown.epilogue]
  exact congrArg (List.map Assignment.text) related.epilogue

theorem cycle_withNode {names : List String} (unnamed : document.Unnamed (normalizeName d.name))
    (formed : d.WellFormed) (place : Nat)
    (failed : (compile supplied document library).result = .error (.cycle names)) :
    (compile supplied (document.withNode place d) library).result = .error (.cycle names) := by
  obtain ⟨graph, cycle, read, unordered, rfl⟩ := compile_cycle_iff.mp failed
  obtain ⟨more, node, readMore, related⟩ :=
    Graph.exists_ofDocument_withNode unnamed formed read place
  have represents := Graph.ofDocument_represents read
  obtain ⟨other, failedMore, names⟩ := related.schedule_error represents unordered
  exact compile_cycle_iff.mpr ⟨more, other, readMore, failedMore, names⟩

namespace Lengthened

variable {name : String} {program : Program} {last : Library σ}

theorem returns_iff (l : Lengthened supplied document name library program) :
    (compile supplied document).Returns library short last ↔
      ∃ made, ((l.front ++ l.back).foldlM (Program.addNode l.graph supplied)
        (.beforeCalls l.graph)).Returns library made last ∧ short = .ofProgram made := by
  obtain ⟨own, _⟩ := Graph.schedule_eq_ok l.ordered
  rw [returns_compile]
  constructor
  · rintro ⟨graph, scheduled, made, read, ordered, returns, rfl⟩
    obtain rfl := Except.ok.inj (l.read.symm.trans read)
    obtain rfl := Except.ok.inj (l.ordered.symm.trans ordered)
    rw [Program.ofScheduled, own, l.nodes] at returns
    exact ⟨made, returns, rfl⟩
  · rintro ⟨made, returns, rfl⟩
    refine ⟨l.graph, l.scheduled, made, l.read, l.ordered, ?_, rfl⟩
    rw [Program.ofScheduled, own, l.nodes]
    exact returns

variable [SteadyStore σ]

theorem grown (l : Lengthened supplied document name library program) :
    Program.Grows ((l.front ++ l.node :: l.back).filterMap (CallStep.of? l.graph library))
      (.beforeCalls l.more) program :=
  Program.grows_foldlM_addNode (.none library rfl) l.returns

theorem calls_eq (l : Lengthened supplied document name library program) :
    program.calls = callsOf l.graph library (l.front ++ l.node :: l.back) :=
  l.grown.calls

/-- Both programs grow by the calls of the same other nodes. -/
theorem hasCallOf (l : Lengthened supplied document name library program)
    (alone : (compile supplied document).Returns library short last) :
    Program.HasCallOf name short.program program := by
  obtain ⟨made, returns, rfl⟩ := l.returns_iff.mp alone
  have grown := Program.grows_foldlM_addNode (.none library rfl) returns
  rw [List.filterMap_append] at grown
  have grownLong := l.grown
  rw [filterMap_append_cons] at grownLong
  refine Program.hasCallOf_of_grows grown grownLong l.epilogue ?_ fun step member => ?_
  · cases CallStep.of? l.graph library l.node <;> simp
  · obtain ⟨_, own, _⟩ := CallStep.of?_eq_some.mp (Option.mem_toList.mp member)
    rw [own, l.named]

theorem provides (l : Lengthened supplied document name library program) :
    library.Provides program.calls :=
  l.calls_eq ▸ ((exists_returns_iff l.more).mp ⟨_, _, l.returns⟩).2

theorem filter_calls (l : Lengthened supplied document name library program) :
    program.calls.filter (·.node ≠ name) = callsOf l.graph library (l.front ++ l.back) := by
  have others : (l.front ++ l.node :: l.back).filter (·.name ≠ name) = l.front ++ l.back := by
    rw [List.filter_append, List.filter_cons_of_neg (by simpa using l.named), ← List.filter_append]
    exact List.filter_eq_self.mpr fun other member => decide_eq_true (l.apart other member)
  rw [l.calls_eq, filter_callsOf, others]

/-- The other calls are those of the program without the node, if there is one. -/
theorem compiles_iff (l : Lengthened supplied document name library program) :
    (∃ short, (compile supplied document library).result = .ok short) ↔
      library.Provides (program.calls.filter (·.node ≠ name)) := by
  obtain ⟨called, _⟩ := (exists_returns_iff l.more).mp ⟨_, _, l.returns⟩
  have others (node : GraphNode) (member : node ∈ l.front ++ l.back) :=
    called node (by grind)
  rw [l.filter_calls]
  constructor
  · rintro ⟨short, alone⟩
    obtain ⟨_, returns, _⟩ := l.returns_iff.mp ⟨alone, rfl⟩
    exact ((exists_returns_iff l.graph).mp ⟨_, _, returns⟩).2
  · intro provides
    obtain ⟨made, _, returns⟩ := (exists_returns_iff l.graph).mpr ⟨others, provides⟩
    exact ⟨.ofProgram made, (l.returns_iff.mpr ⟨made, returns, rfl⟩).1⟩

end Lengthened
end

/-- A node that nothing else goes by the name of leaves a shader as it is, but for its own call and
what belongs to the call, if the store answers the same about a path whatever else it is asked. What
compiles with the node compiles without it, if the other calls find their sources without it, and so in
any case if the library reads all spellings of a path. What has a cycle without the node has the same one
with it, if the node can be read. -/
theorem compile_withNode [ResourceStore σ] {document : GraphDocument} {d : NodeDeclaration}
    (unnamed : document.Unnamed (normalizeName d.name)) (place : Nat)
    (supplied : SortedSet String) (library : Library σ) :
    (∀ long, (compile supplied (document.withNode place d) library).result = .ok long →
      (∀ short, (compile supplied document library).result = .ok short →
        long.program.epilogue = short.program.epilogue ∧
          (SteadyStore σ →
            Program.HasCallOf (normalizeName d.name) short.program long.program)) ∧
      (SteadyStore σ →
        ((∃ short, (compile supplied document library).result = .ok short) ↔
          library.Provides (long.program.calls.filter (·.node ≠ normalizeName d.name))) ∧
        (library.ReadsSpellings →
          ∃ short, (compile supplied document library).result = .ok short))) ∧
    ∀ names, (compile supplied document library).result = .error (.cycle names) → d.WellFormed →
      (compile supplied (document.withNode place d) library).result = .error (.cycle names) := by
  refine ⟨fun long compiled => ?_, fun names failed formed =>
    cycle_withNode unnamed formed place failed⟩
  obtain ⟨l⟩ := exists_lengthened unnamed compiled
  refine ⟨fun short alone => ⟨epilogue_withNode unnamed compiled alone, fun steady => ?_⟩,
    fun steady => ⟨l.compiles_iff, fun alike => ?_⟩⟩
  · exact l.hasCallOf ⟨alone, rfl⟩
  · exact l.compiles_iff.mpr (l.provides.filter alike _)

def oneMore : NodeDeclaration := ⟨"n", "tone", none⟩

def tones (edges : List Edge) : GraphDocument where
  nodes := [⟨"a", "tone", none⟩, ⟨"b", "tone", none⟩]
  edges := edges
  settings := []

def toneCircle : GraphDocument := tones [⟨⟨"a", "y"⟩, ⟨"b", "x"⟩⟩, ⟨⟨"b", "y"⟩, ⟨"a", "x"⟩⟩]

def toneLibrary : Library MemoryStore where
  store := .insert .empty ⟨"tone.glsl"⟩ "float tone;"
  signatures := .ofList
    [("tone", ⟨"tone", [⟨"x", "float", 0⟩], [⟨"y", "float", 1⟩], some "tone.glsl", ∅, ∅, ∅⟩)]
  sources := ∅

theorem tones_withNode :
    (∃ long short, (compile ∅ ((tones []).withNode 1 oneMore) toneLibrary).result = .ok long ∧
      (compile ∅ (tones []) toneLibrary).result = .ok short ∧
      long.program.calls.map Call.node = ["a", "n", "b"] ∧
      short.program.calls.map Call.node = ["a", "b"] ∧
      toneLibrary.Provides (long.program.calls.filter (·.node ≠ "n")) ∧
      Program.HasCallOf "n" short.program long.program) ∧
    (compile ∅ (toneCircle.withNode 1 oneMore) toneLibrary).result =
      .error (.cycle ["a", "b"]) := by
  constructor
  · have unnamed : (tones []).Unnamed (normalizeName oneMore.name) := by
      constructor <;> decide +kernel
    have name : normalizeName oneMore.name = "n" := by decide +kernel
    have compiled : (compile ∅ ((tones []).withNode 1 oneMore) toneLibrary).result = .ok _ := rfl
    have steady : SteadyStore MemoryStore := inferInstance
    obtain ⟨blocks, shortens⟩ := (compile_withNode unnamed 1 ∅ toneLibrary).1 _ compiled
    obtain ⟨compiles_iff, compiles⟩ := shortens steady
    obtain ⟨short, alone⟩ := compiles toneLibrary.readsSpellings_memory
    have provides := compiles_iff.mp ⟨short, alone⟩
    have block := (blocks short alone).2 steady
    rw [name] at provides block
    refine ⟨_, short, compiled, alone, by decide +kernel, ?_, provides, block⟩
    have same : (compile ∅ (tones []) toneLibrary).result = .ok _ := rfl
    obtain rfl := Except.ok.inj (same.symm.trans alone)
    decide +kernel
  · have unnamed : toneCircle.Unnamed (normalizeName oneMore.name) := by
      constructor <;> decide +kernel
    have failed : (compile ∅ toneCircle toneLibrary).result = .error (.cycle ["a", "b"]) :=
      compile_cycle_iff.mpr ⟨_, _, rfl, rfl, rfl⟩
    exact (compile_withNode unnamed 1 ∅ toneLibrary).2 ["a", "b"] failed nofun

/-- Two functions with one source, which the second spells so that it cannot be read. -/
def spelledTwice : Library DirectoryStore :=
  .ofStore ⟨⟨"/resources"⟩, .directory [("resources", .directory
    [("a.glsl", .file "//".toUTF8),
      ("graph_shader", .directory
        [("g.yaml", .file "'source': 'a.glsl'".toUTF8),
          ("h.yaml", .file "'source': 'a.glsl/'".toUTF8)])])]⟩

/-- A store that has nothing about a function until it has been asked for something else. -/
structure FillingStore where
  asked : Bool

instance : ResourceStore FillingStore where
  read store path :=
    (if path = functionPath "h" ∧ ¬store.asked then .error (.noDocument path) else .ok "", ⟨true⟩)

/-- A store that adds an input to the function once it has been asked for something else. -/
structure ShiftingStore where
  asked : Bool

instance : ResourceStore ShiftingStore where
  read store path :=
    (.ok (if path = functionPath "h" ∧ store.asked
      then "params:\n  in:\n    k:\n      type: int\n      index: 0" else ""), ⟨true⟩)

def callOfH : GraphDocument := ⟨[⟨"b", "h", none⟩], [], []⟩

/-- A document compiles with a node more, and does not compile without it. Over the last store it
compiles with and without the node, and its own call is another one. -/
theorem compile_only_withNode :
    callOfH.Unnamed (normalizeName "a") ∧
      ((∃ shader, (compile ∅ (callOfH.withNode 0 ⟨"a", "g", none⟩) spelledTwice).result = .ok shader) ∧
        ∃ error, (compile ∅ callOfH spelledTwice).result = .error error) ∧
      (let filling : Library FillingStore := .ofStore ⟨false⟩
      (∃ shader, (compile ∅ (callOfH.withNode 0 ⟨"a", "g", none⟩) filling).result = .ok shader) ∧
        ∃ error, (compile ∅ callOfH filling).result = .error error) ∧
      let shifting : Library ShiftingStore := .ofStore ⟨false⟩
      ∃ long short,
        (compile ∅ (callOfH.withNode 0 ⟨"a", "g", none⟩) shifting).result = .ok long ∧
        (compile ∅ callOfH shifting).result = .ok short ∧
        ¬Program.HasCallOf (normalizeName "a") short.program long.program := by
  have compiles {result : Except CompileError Shader} (some : result.toOption.isSome = true) :
      ∃ shader, result = .ok shader := by
    obtain ⟨shader, found⟩ := Option.isSome_iff_exists.mp some
    exact ⟨shader, Run.toOption_eq_some.mp found⟩
  have long : (compile ∅ (callOfH.withNode 0 ⟨"a", "g", none⟩)
      (.ofStore (ShiftingStore.mk false))).result.toOption.map (·.program.calls.map Call.statement) =
        some ["g();", "h( default_k_for_b );"] := by
    decide +kernel
  have short : (compile ∅ callOfH
      (.ofStore (ShiftingStore.mk false))).result.toOption.map (·.program.calls.map Call.statement) =
        some ["h();"] := by
    decide +kernel
  obtain ⟨long, compiled, statements⟩ := Option.map_eq_some_iff.mp long
  obtain ⟨short, alone, statement⟩ := Option.map_eq_some_iff.mp short
  have another : ¬Program.HasCallOf (normalizeName "a") short.program long.program := by
    rintro ⟨_, _, _, _, calls, _⟩
    have kept := List.map_subset Call.statement calls.subset
    rw [statements, statement] at kept
    exact absurd kept (by decide)
  refine ⟨by constructor <;> decide +kernel, ⟨compiles ?_, Run.toOption_eq_none.mp ?_⟩,
    ⟨compiles ?_, Run.toOption_eq_none.mp ?_⟩, long, short, Run.toOption_eq_some.mp compiled,
    Run.toOption_eq_some.mp alone, another⟩
  all_goals decide +kernel

end ShaderGraph
