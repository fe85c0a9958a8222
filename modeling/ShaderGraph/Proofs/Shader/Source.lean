import ShaderGraph.Proofs.Program.Success
import ShaderGraph.Proofs.Shader.Compile
import ShaderGraph.Proofs.Shader.Script

/-! The sources in a shader. Each function that is called and declares a source has an entry there, at
the place of its first call, with the text that was loaded for it. -/
namespace ShaderGraph

variable [ResourceStore σ]

namespace Library

variable {library later : Library σ} {asked : List Request} {request : Request} {key text : String}

theorem perform_extends (library : Library σ) (request : Request) :
    (request.perform library).Extends library := by
  cases request with
  | signature function => exact load_extends function library
  | source function path => exact loadSource_extends function path library

/-- A function declares the same source as long as its signature is kept. -/
theorem Extends.source?_eq {function : String} {signature : Signature}
    (grown : later.Extends library) (kept : library.signatures.get? function = some signature) :
    later.source? function = library.source? function := by
  rw [source?, source?, signature?_of_get? kept, signature?_of_get? (grown.kept _ _ kept)]

theorem get?_sources_of_loadSource {function : String} {path : ResourcePath}
    (loaded : (loadSource function path library).result = .ok text) :
    (loadSource function path library).state.sources.get? path.canonical = some text := by
  cases kept : library.sources.get? path.canonical with
  | some found =>
    rw [loadSource_of_get? kept] at loaded ⊢
    rw [kept, Except.ok.inj loaded]
  | none =>
    rw [(loadSource_of_absent kept).1, Run.mapError_eq_ok] at loaded
    rw [(loadSource_of_absent kept).2, loaded, Table.get?_insert, if_pos rfl]

/-- The text of a source stays. -/
theorem get?_sources_perform (kept : library.sources.get? key = some text) (request : Request) :
    (request.perform library).sources.get? key = some text := by
  cases request with
  | signature function => exact (congrArg (·.get? key) (sources_load function library)).trans kept
  | source function path =>
    change (loadSource function path library).state.sources.get? key = some text
    cases absent : library.sources.get? path.canonical with
    | some found =>
      rw [loadSource_of_get? absent]
      exact kept
    | none =>
      have apart : key ≠ path.canonical := fun same => by simp [← same, kept] at absent
      rw [(loadSource_of_absent absent).2]
      cases (ResourceStore.read library.store path).1 with
      | error cause => exact kept
      | ok other => rw [Table.get?_insert, if_neg apart, kept]

def Answered (library : Library σ) (asked : List Request) (request : Request)
    (answer : request.Answer) : Prop :=
  ∃ front back, asked = front ++ request :: back ∧
    (request.ask (front.foldl Request.perform library)).result = .ok answer

theorem Answered.append {answer : request.Answer} (answered : library.Answered asked request answer)
    (more : List Request) : library.Answered (asked ++ more) request answer := by
  obtain ⟨front, back, rfl, returns⟩ := answered
  exact ⟨front, back ++ more, by simp, returns⟩

end Library

namespace Program

/-- What a program holds of sources after some requests to a library, and what the library knows
then. -/
structure Inlined (start : Library σ) (asked : List Request) (program : Program)
    (now : Library σ) : Prop where
  reached : now = asked.foldl Request.perform start
  known : ∀ call ∈ program.calls, ∃ signature, now.signatures.get? call.function = some signature
  functions : program.sources.map Prod.fst = ((program.calls.map Call.function).filter fun function =>
    (now.source? function).isSome).eraseDups
  texts : ∀ entry ∈ program.sources, ∃ path, now.source? entry.1 = some path ∧
    start.Answered asked (.source entry.1 path) entry.2 ∧
    now.sources.get? path.canonical = some entry.2

variable {start now later : Library σ} {asked more : List Request} {program next : Program}
  {graph : Graph} {supplied : SortedSet String} {node : GraphNode} {signature : Signature}
  {feeds : List Feed}

theorem hasSource_iff {function : String} :
    program.hasSource function = true ↔ function ∈ program.sources.map Prod.fst := by
  simp [hasSource]

theorem Inlined.none (start : Library σ) {program : Program} (calls : program.calls = [])
    (sources : program.sources = []) : Inlined start [] program start where
  reached := rfl
  known := by simp [calls]
  functions := by simp [calls, sources]
  texts := by simp [sources]

theorem Inlined.mem_iff (inlined : Inlined start asked program now) {function : String} :
    function ∈ program.sources.map Prod.fst ↔
      (∃ call ∈ program.calls, call.function = function) ∧ (now.source? function).isSome := by
  rw [inlined.functions, List.mem_eraseDups, List.mem_filter, List.mem_map]

theorem Inlined.perform (inlined : Inlined start asked program now) (request : Request) :
    Inlined start (asked ++ [request]) program (request.perform now) := by
  have grown := Library.perform_extends now request
  constructor
  case reached => rw [List.foldl_append, ← inlined.reached]; rfl
  case known =>
    intro call member
    obtain ⟨signature, kept⟩ := inlined.known call member
    exact ⟨signature, grown.kept _ _ kept⟩
  case functions =>
    rw [inlined.functions]
    congr 1
    refine List.filter_congr fun function member => ?_
    obtain ⟨call, among, rfl⟩ := List.mem_map.mp member
    obtain ⟨signature, kept⟩ := inlined.known call among
    rw [grown.source?_eq kept]
  case texts =>
    intro entry member
    obtain ⟨path, declared, answered, held⟩ := inlined.texts entry member
    obtain ⟨⟨call, among, same⟩, _⟩ := inlined.mem_iff.mp (List.mem_map_of_mem member)
    obtain ⟨signature, kept⟩ := inlined.known call among
    refine ⟨path, ?_, answered.append [request], Library.get?_sources_perform held request⟩
    rw [← same] at declared ⊢
    rw [grown.source?_eq kept, declared]

/-- A call asks for a source if its function declares one. -/
theorem filter_functions_append (calls : List Call) (declares : String → Bool) :
    ((calls ++ [Call.ofNode node signature feeds]).map Call.function).filter declares =
      (calls.map Call.function).filter declares ++ [node.function].filter declares := by
  rw [List.map_append, List.filter_append]
  rfl

theorem Inlined.known_append (inlined : Inlined start asked program now)
    (kept : now.signatures.get? node.function = some signature) :
    ∀ call ∈ program.calls ++ [.ofNode node signature feeds],
      ∃ signature, now.signatures.get? call.function = some signature := by
  intro call member
  rcases List.mem_append.mp member with member | last
  · exact inlined.known call member
  · obtain rfl := List.mem_singleton.mp last
    exact ⟨signature, kept⟩

/-- A call without a new source: its function declares none, or the program holds it. -/
theorem Inlined.addCall (inlined : Inlined start asked program now)
    (kept : now.signatures.get? node.function = some signature)
    (held : (now.source? node.function).isSome → program.hasSource node.function = true) :
    Inlined start asked (program.addCall supplied node signature feeds) now where
  reached := inlined.reached
  known := inlined.known_append kept
  functions := by
    refine inlined.functions.trans ?_
    rw [Program.addCall, filter_functions_append]
    cases declared : (now.source? node.function).isSome with
    | false => simp [declared]
    | true =>
      have before := hasSource_iff.mp (held declared)
      rw [inlined.functions, List.mem_eraseDups] at before
      rw [List.filter_singleton, declared, cond_true, eraseDups_append_cons_of_mem before,
        List.append_nil]
  texts := inlined.texts

/-- A call with the source of its function, which the program does not hold yet. -/
theorem Inlined.addCall_source (inlined : Inlined start asked program now) {path : ResourcePath}
    {text : String} (kept : now.signatures.get? node.function = some signature)
    (declared : now.source? node.function = some path)
    (fresh : ¬program.hasSource node.function = true)
    (answered : start.Answered asked (.source node.function path) text)
    (held : now.sources.get? path.canonical = some text) :
    Inlined start asked
      ((program.addSource node.function (some text)).addCall supplied node signature feeds) now where
  reached := inlined.reached
  known := inlined.known_append kept
  functions := by
    rw [hasSource_iff, inlined.functions, List.mem_eraseDups] at fresh
    rw [Program.addCall, filter_functions_append, List.filter_singleton, declared, Option.isSome_some,
      cond_true]
    refine Eq.trans ?_ (eraseDups_append_singleton_of_not_mem fresh).symm
    rw [← inlined.functions]
    exact List.map_append
  texts := by
    intro entry member
    rcases List.mem_append.mp member with member | last
    · exact inlined.texts entry member
    · obtain rfl := List.mem_singleton.mp last
      exact ⟨path, declared, answered, held⟩

/-- What a node adds to a program keeps it inlined. -/
theorem inlined_addNode (inlined : Inlined start asked program now)
    (added : (addNodeScript graph supplied program node).Leads now more next later) :
    Inlined start (asked ++ more) next later := by
  rw [addNodeScript] at added
  split at added
  · obtain ⟨rfl, rfl, rfl⟩ := Script.leads_pure.mp added
    rwa [List.append_nil]
  · simp only [Script.leads_bind, Script.leads_mapError, Script.leads_done, Script.leads_pure] at added
    obtain ⟨_, signature, _, _, first, ⟨_, source, _, _, second, ⟨_, feeds, _, _, ⟨_, rfl, rfl⟩,
      ⟨rfl, rfl, rfl⟩, rfl⟩, rfl⟩, rfl⟩ := added
    obtain ⟨loaded, rfl, rfl⟩ := Script.leads_single.mp first
    have kept := Library.get?_of_load_returns ⟨loaded, rfl⟩
    have own : (Request.perform now (.signature node.function)).source? node.function =
        signature.source.map ResourcePath.mk :=
      source?_of_signature? (Library.signature?_of_get? kept)
    have between := inlined.perform (.signature node.function)
    rw [List.append_nil, List.append_nil, ← List.append_assoc]
    rw [newSourceScript] at second
    split at second
    · rename_i undeclared
      obtain ⟨rfl, rfl, rfl⟩ := Script.leads_pure.mp second
      rw [undeclared] at own
      rw [List.append_nil]
      exact between.addCall kept fun declared => by simp [own] at declared
    · rename_i path declared
      rw [declared] at own
      split at second
      · rename_i has
        obtain ⟨rfl, rfl, rfl⟩ := Script.leads_pure.mp second
        rw [List.append_nil]
        exact between.addCall kept fun _ => has
      · rename_i fresh
        obtain ⟨text, read, rfl⟩ := Script.leads_map.mp second
        obtain ⟨found, rfl, rfl⟩ := Script.leads_single.mp read
        have after := between.perform (.source node.function ⟨path⟩)
        have grown := Library.perform_extends (Request.perform now (.signature node.function))
          (.source node.function ⟨path⟩)
        refine after.addCall_source (grown.kept _ _ kept) ((grown.source?_eq kept).trans own) fresh
          ⟨asked ++ [.signature node.function], [], rfl, ?_⟩
          (Library.get?_sources_of_loadSource found)
        rw [← between.reached]
        exact found

theorem inlined_foldlM_addNode {nodes : List GraphNode} (inlined : Inlined start asked program now)
    (added : (nodes.foldlM (addNodeScript graph supplied) program).Leads now more next later) :
    Inlined start (asked ++ more) next later := by
  induction nodes generalizing asked program now more with
  | nil =>
    have ended : (pure program : Script ProgramError Program).Leads now more next later := added
    obtain ⟨rfl, rfl, rfl⟩ := Script.leads_pure.mp ended
    rwa [List.append_nil]
  | cons node rest ih =>
    rw [List.foldlM_cons] at added
    obtain ⟨front, middle, between, back, first, others, rfl⟩ := Script.leads_bind.mp added
    rw [← List.append_assoc]
    exact ih (inlined_addNode inlined first) others

end Program

variable {supplied : SortedSet String} {document : GraphDocument} {library final : Library σ}
  {shader : Shader}

theorem inlined_of_compile (compiled : (compile supplied document).Returns library shader final) :
    Program.Inlined library ((compileScript supplied document).requests library) shader.program
      final := by
  have leads : (compileScript supplied document).Leads library
      ((compileScript supplied document).requests library) shader final :=
    ⟨(compile_follows supplied document library).symm.trans (Prod.ext compiled.1 compiled.2), rfl⟩
  generalize (compileScript supplied document).requests library = asked at leads
  rw [compileScript] at leads
  simp only [Script.leads_bind, Script.leads_mapError, Script.leads_done, Script.leads_pure] at leads
  obtain ⟨_, graph, _, _, ⟨_, rfl, rfl⟩, ⟨_, scheduled, _, _, ⟨_, rfl, rfl⟩,
    ⟨_, program, _, _, added, ⟨rfl, rfl, rfl⟩, rfl⟩, rfl⟩, rfl⟩ := leads
  rw [List.nil_append, List.nil_append, List.append_nil]
  exact Program.inlined_foldlM_addNode (.none _ rfl rfl) added

/-- A shader has one source for each function that is called and declares one, in the order of the
first calls. Its text is what was loaded for the function from the path that it declares, and what the
library keeps for it. Both stages have all sources between their header and the main function. -/
theorem compile_sources (compiled : (compile supplied document).Returns library shader final) :
    let program := shader.program
    let sources := String.join (program.sources.map fun entry => "\n" ++ entry.2 ++ "\n")
    program.sources.map Prod.fst = ((program.calls.map Call.function).filter fun function =>
      (final.source? function).isSome).eraseDups ∧
    (∀ entry ∈ program.sources, ∃ path, final.source? entry.1 = some path ∧
      library.Answered ((compileScript supplied document).requests library) (.source entry.1 path)
        entry.2 ∧
      final.sources.get? path.canonical = some entry.2) ∧
    shader.vertexSource = program.vertexHeader ++ "\n" ++ sources ++ "\n" ++ shader.main ∧
    shader.fragmentSource = program.fragmentHeader ++ "\n" ++ sources ++ "\n" ++ shader.main := by
  have inlined := inlined_of_compile compiled
  exact ⟨inlined.functions, inlined.texts, rfl, rfl⟩

def foggyNoise : GraphDocument where
  nodes := [⟨"a", "noise", none⟩, ⟨"b", "fog", none⟩, ⟨"c", "noise", none⟩, ⟨"d", "tone", none⟩]
  edges := [⟨⟨"b", "y"⟩, ⟨"a", "x"⟩⟩]
  settings := []

/-- A library that has read the three functions. Two of them declare one source, in two spellings. -/
def foggyLibrary : Library MemoryStore where
  store := MemoryStore.empty.insert ⟨"lib/noise.glsl"⟩ "float grain;"
  signatures := .ofList
    [("noise", ⟨"noise", [⟨"x", "float", 0⟩], [⟨"y", "float", 1⟩], some "lib/noise.glsl", ∅, ∅, ∅⟩),
      ("fog", ⟨"fog", [], [⟨"y", "float", 0⟩], some "lib/./noise.glsl", ∅, ∅, ∅⟩),
      ("tone", ⟨"tone", [], [⟨"y", "float", 0⟩], none, ∅, ∅, ∅⟩)]
  sources := ∅

theorem foggyNoise_sources : ∃ shader final,
    (compile ∅ foggyNoise).Returns foggyLibrary shader final ∧
    shader.program.calls.map Call.function = ["fog", "noise", "noise", "tone"] ∧
    shader.program.sources = [("fog", "float grain;"), ("noise", "float grain;")] ∧
    (["fog", "noise", "noise", "tone"].filter fun function =>
      (final.source? function).isSome).eraseDups = ["fog", "noise"] ∧
    (∃ path, final.source? "noise" = some path ∧
      foggyLibrary.Answered ((compileScript ∅ foggyNoise).requests foggyLibrary)
        (.source "noise" path) "float grain;") ∧
    shader.fragmentSource = shader.program.fragmentHeader ++ "\n" ++
      "\nfloat grain;\n\nfloat grain;\n" ++ "\n" ++ shader.main := by
  have made : (compile ∅ foggyNoise foggyLibrary).result.toOption.map (fun shader =>
      (shader.program.calls.map Call.function, shader.program.sources)) =
      some (["fog", "noise", "noise", "tone"],
        [("fog", "float grain;"), ("noise", "float grain;")]) := by
    decide +kernel
  obtain ⟨shader, result, made⟩ := Option.map_eq_some_iff.mp made
  obtain ⟨calls, sources⟩ := Prod.mk.inj made
  have compiled : (compile ∅ foggyNoise).Returns foggyLibrary shader _ :=
    ⟨Run.toOption_eq_some.mp result, rfl⟩
  obtain ⟨functions, texts, _, fragment⟩ := compile_sources compiled
  rw [sources] at functions texts fragment
  rw [calls] at functions
  obtain ⟨path, declared, answered, _⟩ := texts ("noise", "float grain;") (by simp)
  exact ⟨shader, _, compiled, calls, sources, functions.symm, ⟨path, declared, answered⟩, fragment⟩

end ShaderGraph
