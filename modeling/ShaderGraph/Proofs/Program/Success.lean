import Mathlib.Data.List.Induction
import ShaderGraph.Proofs.Function.Steady
import ShaderGraph.Proofs.Program.Scheduled

/-! Programs that can be made. Over a store whose answers stay, what a node adds to a program is told
by the library that the program starts from. Whether it can be added is told by this library as well,
and by the nodes in front of it that declare a source at the same path. -/
namespace ShaderGraph

variable [ResourceStore σ]

/-- The call of a node, with the signature that the library has for its function. Values have none,
and neither have nodes whose function has no signature or of which some input cannot be fed. -/
def CallStep.of? (graph : Graph) (library : Library σ) (node : GraphNode) : Option CallStep :=
  if isPassThrough node.function then none
  else (library.signature? node.function).bind fun signature =>
    match Feed.ofParams graph node signature.inputs with
    | (feeds, none) => some ⟨node, signature, feeds⟩
    | (_, some _) => none

theorem CallStep.of?_eq_some {graph : Graph} {library : Library σ} {node : GraphNode}
    {step : CallStep} : of? graph library node = some step ↔
      isPassThrough node.function = false ∧ step.node = node ∧
        library.signature? node.function = some step.signature ∧
        Feed.ofParams graph node step.signature.inputs = (step.feeds, none) := by
  obtain ⟨own, signature, feeds⟩ := step
  rw [of?]
  split
  · rename_i value
    simp [value]
  · rename_i called
    simp only [called, true_and, Option.bind_eq_some_iff]
    constructor
    · rintro ⟨found, known, made⟩
      split at made
      · rename_i fed
        obtain ⟨rfl, rfl, rfl⟩ := CallStep.mk.inj (Option.some.inj made)
        exact ⟨rfl, known, fed⟩
      · contradiction
    · rintro ⟨rfl, known, fed⟩
      exact ⟨signature, known, by rw [fed]⟩

/-- A called node among some declares its source at a path, however either is spelled. -/
def Declares (library : Library σ) (nodes : List GraphNode) (path : ResourcePath) : Prop :=
  ∃ node ∈ nodes, isPassThrough node.function = false ∧
    ∃ own, library.source? node.function = some own ∧ path.canonical = own.canonical

/-- The source at a path is kept, or will be by the time that some nodes have been added, or it can be
read. -/
def Available (library : Library σ) (nodes : List GraphNode) (path : ResourcePath) : Prop :=
  library.Holds path ∨ Declares library nodes path ∨ library.Readable path

structure Addable (graph : Graph) (library : Library σ) (before : List GraphNode)
    (node : GraphNode) : Prop where
  call : isPassThrough node.function = false → (CallStep.of? graph library node).isSome
  source : isPassThrough node.function = false → ∀ path,
    library.source? node.function = some path → Available library before path

theorem declares_append {library : Library σ} {first second : List GraphNode} {path : ResourcePath} :
    Declares library (first ++ second) path ↔
      Declares library first path ∨ Declares library second path := by
  simp only [Declares, List.mem_append, or_and_right, exists_or]

theorem declares_append_of_undeclared {library : Library σ} {nodes : List GraphNode}
    {node : GraphNode} (own : library.source? node.function = none) {path : ResourcePath} :
    Declares library (nodes ++ [node]) path ↔ Declares library nodes path := by
  simp [Declares, own]

theorem declares_append_of_declared {library : Library σ} {nodes : List GraphNode}
    {node : GraphNode} (called : isPassThrough node.function = false) {own : ResourcePath}
    (declared : library.source? node.function = some own) {path : ResourcePath} :
    Declares library (nodes ++ [node]) path ↔
      Declares library nodes path ∨ path.canonical = own.canonical := by
  simp [Declares, called, declared]

namespace Program

structure Reached (start : Library σ) (done : List GraphNode) (program : Program)
    (now : Library σ) : Prop where
  since : start.Since now
  holds : ∀ path, now.Holds path ↔ start.Holds path ∨ Declares start done path
  sources : ∀ function, program.hasSource function = true →
    ∃ node ∈ done, isPassThrough node.function = false ∧ node.function = function ∧
      (start.source? function).isSome

variable {start now later : Library σ} {done : List GraphNode} {program next : Program}
variable {graph : Graph} {supplied : SortedSet String} {node : GraphNode} {signature : Signature}

theorem Reached.none (start : Library σ) {program : Program} (empty : program.sources = []) :
    Reached start [] program start := by
  refine ⟨.refl start, fun path => ?_, fun function has => ?_⟩
  · simp [Declares]
  · simp [hasSource, empty] at has

/-- A source that the program holds has been declared. -/
theorem Reached.declares (reached : Reached start done program now)
    (has : program.hasSource node.function = true) {path : ResourcePath}
    (own : start.source? node.function = some path) : Declares start done path := by
  obtain ⟨other, member, called, same, _⟩ := reached.sources _ has
  exact ⟨other, member, called, path, same ▸ own, rfl⟩

theorem source?_of_signature? (known : start.signature? node.function = some signature) :
    start.source? node.function = signature.source.map ResourcePath.mk := by
  rw [Library.source?, known]
  rfl

theorem returns_newSource_iff (reached : Reached start done program now)
    (known : start.signature? node.function = some signature) :
    (∃ source later, (newSource program node signature).Returns now source later) ↔
      ∀ path, start.source? node.function = some path → Available start done path := by
  rw [source?_of_signature? known, newSource]
  cases declared : signature.source with
  | none => simp [Run.returns_pure]
  | some text =>
    have own : start.source? node.function = some ⟨text⟩ := by
      rw [source?_of_signature? known, declared]
      rfl
    simp only [Option.map_some, Option.some.injEq, forall_eq']
    split
    · rename_i has
      have available : Available start done ⟨text⟩ := .inr (.inl (reached.declares has own))
      simp [Run.returns_pure, available]
    · have read : (∃ found, (Library.loadSource node.function ⟨text⟩ now).result = .ok found) ↔
          now.Holds ⟨text⟩ ∨ now.Readable ⟨text⟩ := Library.returns_loadSource
      rw [reached.holds, reached.since.readable, or_assoc] at read
      rw [Available, ← read]
      simp only [Run.returns_map]
      constructor
      · rintro ⟨_, _, found, ⟨result, _⟩, _⟩
        exact ⟨found, result⟩
      · rintro ⟨found, result⟩
        exact ⟨_, _, found, ⟨result, rfl⟩, rfl⟩

/-- A source that is added is the one that the function declares. -/
theorem hasSource_addSource {source : Option String} {function other : String}
    (has : (program.addSource function source).hasSource other = true) :
    program.hasSource other = true ∨ other = function ∧ source.isSome := by
  cases source with
  | none => exact .inl has
  | some text =>
    simp only [addSource, hasSource, List.any_append, Bool.or_eq_true] at has
    refine has.imp_right fun last => ?_
    simpa [eq_comm] using last

theorem Reached.sources_addSource {source : Option String}
    (reached : Reached start done program now) (called : isPassThrough node.function = false)
    (declared : source.isSome → (start.source? node.function).isSome) (function : String)
    (has : (program.addSource node.function source).hasSource function = true) :
    ∃ other ∈ done ++ [node], isPassThrough other.function = false ∧ other.function = function ∧
      (start.source? function).isSome := by
  rcases hasSource_addSource has with before | ⟨rfl, added⟩
  · obtain ⟨other, member, rest⟩ := reached.sources function before
    exact ⟨other, List.mem_append_left _ member, rest⟩
  · exact ⟨node, by simp, called, rfl, declared added⟩

theorem addNode_of_called (called : isPassThrough node.function = false) :
    (∃ next later, (addNode graph supplied program node).Returns now next later) ↔
      ∃ signature, now.signature? node.function = some signature ∧
        (∃ source later, (newSource program node signature).Returns
          (Library.load node.function now).state source later) ∧
        ∃ feeds, Feed.ofParams graph node signature.inputs = (feeds, none) := by
  simp only [addNode, called, Bool.false_eq_true, if_false, Run.returns_bind, Run.returns_mapError,
    returns_feedInputs, Run.returns_note, Run.returns_pure]
  constructor
  · rintro ⟨_, _, signature, _, loaded, source, later, read, feeds, _, ⟨fed, rfl⟩, _⟩
    have known := Library.signature?_of_returns loaded
    rw [← loaded.2] at read
    exact ⟨signature, known, ⟨source, _, read⟩, feeds, fed⟩
  · rintro ⟨signature, known, ⟨source, later, read⟩, feeds, fed⟩
    exact ⟨_, _, signature, _, Library.returns_load known, source, later, read, feeds, _, ⟨fed, rfl⟩,
      (), _, rfl, rfl, rfl⟩

variable [SteadyStore σ]

/-- After the source of a node has been asked for, the library holds what the node declares. -/
theorem reached_newSource {source : Option String} (reached : Reached start done program now)
    (known : start.signature? node.function = some signature)
    (called : isPassThrough node.function = false)
    (read : (newSource program node signature).Returns now source later) :
    Reached start (done ++ [node]) (program.addSource node.function source) later := by
  have own := source?_of_signature? known
  rw [newSource] at read
  split at read
  · rename_i undeclared
    obtain ⟨rfl, rfl⟩ := Run.returns_pure.mp read
    rw [undeclared] at own
    refine ⟨reached.since, fun path => ?_, reached.sources_addSource called (by simp)⟩
    rw [reached.holds, declares_append_of_undeclared own]
  · rename_i text declared
    rw [declared] at own
    split at read
    · rename_i has
      obtain ⟨rfl, rfl⟩ := Run.returns_pure.mp read
      refine ⟨reached.since, fun path => ?_, reached.sources_addSource called (by simp)⟩
      -- A node before has declared the same source, so that this one adds nothing.
      have before (same : path.canonical = (ResourcePath.mk text).canonical) :
          Declares start done path := by
        obtain ⟨other, member, called, own, found, equal⟩ := reached.declares has own
        exact ⟨other, member, called, own, found, same.trans equal⟩
      rw [reached.holds, declares_append_of_declared called own, or_iff_left_of_imp before]
    · obtain ⟨found, ⟨result, rfl⟩, rfl⟩ := Run.returns_map.mp read
      refine ⟨reached.since.trans (.of_loadSource ..), fun path => ?_,
        reached.sources_addSource called (by simp [own])⟩
      rw [Library.holds_loadSource result, reached.holds, declares_append_of_declared called own,
        or_assoc]

theorem Reached.load (reached : Reached start done program now) (function : String) :
    Reached start done program (Library.load function now).state := by
  refine ⟨reached.since.trans (.of_load function now), fun path => ?_, reached.sources⟩
  rw [Library.Holds, Library.sources_load]
  exact reached.holds path

/-- Whether a node can be added does not depend on what the library has come to by then. -/
theorem returns_addNode_iff (reached : Reached start done program now) :
    (∃ next later, (addNode graph supplied program node).Returns now next later) ↔
      Addable graph start done node := by
  cases called : isPassThrough node.function with
  | true =>
    have addable : Addable graph start done node := ⟨by simp [called], by simp [called]⟩
    simp [addNode, called, addable, Run.returns_bind, Run.returns_note, Run.returns_pure]
  | false =>
    rw [addNode_of_called called]
    have loaded := reached.load node.function
    constructor
    · rintro ⟨signature, known, read, feeds, fed⟩
      rw [reached.since.signature] at known
      refine ⟨fun _ => ?_, fun _ => (returns_newSource_iff loaded known).mp read⟩
      have step : CallStep.of? graph start node = some ⟨node, signature, feeds⟩ :=
        CallStep.of?_eq_some.mpr ⟨called, rfl, known, fed⟩
      rw [step]
      rfl
    · intro addable
      obtain ⟨step, made⟩ := Option.isSome_iff_exists.mp (addable.call called)
      obtain ⟨_, _, known, fed⟩ := CallStep.of?_eq_some.mp made
      have read := (returns_newSource_iff loaded known).mpr (addable.source called)
      exact ⟨step.signature, (reached.since.signature _).trans known, read, _, fed⟩

theorem reached_addNode (reached : Reached start done program now)
    (added : (addNode graph supplied program node).Returns now next later) :
    Reached start (done ++ [node]) next later ∧
      Grows (CallStep.of? graph start node).toList program next := by
  rw [addNode] at added
  split at added
  · rename_i value
    obtain ⟨_, _, noted, ended⟩ := Run.returns_bind.mp added
    obtain rfl := Run.returns_note.mp noted
    obtain ⟨rfl, rfl⟩ := Run.returns_pure.mp ended
    have nothing : CallStep.of? graph start node = none := if_pos value
    refine ⟨⟨reached.since, fun path => ?_, fun function has => ?_⟩, nothing ▸ .none _⟩
    · rw [reached.holds, declares_append]
      simp [Declares, value]
    · obtain ⟨other, member, rest⟩ := reached.sources function has
      exact ⟨other, List.mem_append_left _ member, rest⟩
  · rename_i called
    simp only [Run.returns_bind, Run.returns_mapError, returns_feedInputs] at added
    obtain ⟨signature, _, loaded, source, _, read, feeds, _, ⟨fed, rfl⟩, _, _, noted, ended⟩ := added
    obtain rfl := Run.returns_note.mp noted
    obtain ⟨rfl, rfl⟩ := Run.returns_pure.mp ended
    have called := Bool.eq_false_iff.mpr called
    have known := Library.signature?_of_returns loaded
    rw [reached.since.signature] at known
    rw [← loaded.2] at read
    have step : CallStep.of? graph start node = some ⟨node, signature, feeds⟩ :=
      CallStep.of?_eq_some.mpr ⟨called, rfl, known, fed⟩
    have after := reached_newSource (reached.load node.function) known called read
    exact ⟨⟨after.since, after.holds, after.sources⟩,
      step ▸ grows_addCall supplied ⟨node, signature, feeds⟩ program source⟩

/-- Nodes can be added one behind another if each of them can be added behind those in front of
it. -/
theorem returns_foldlM_addNode_iff {nodes : List GraphNode}
    (reached : Reached start done program now) :
    (∃ next later, (nodes.foldlM (addNode graph supplied) program).Returns now next later) ↔
      ∀ front node back, nodes = front ++ node :: back →
        Addable graph start (done ++ front) node := by
  induction nodes generalizing done program now with
  | nil => simp [Run.returns_pure]
  | cons first rest ih =>
    simp only [List.foldlM_cons, Run.returns_bind]
    constructor
    · rintro ⟨next, later, middle, between, added, others⟩
      have here := (returns_addNode_iff reached).mp ⟨_, _, added⟩
      have behind := (ih (reached_addNode reached added).1).mp ⟨_, _, others⟩
      intro front node back split
      cases front with
      | nil =>
        obtain ⟨rfl, _⟩ := List.cons.inj split
        simpa using here
      | cons _ front =>
        obtain ⟨rfl, tail⟩ := List.cons.inj split
        simpa using behind front node back tail
    · intro addable
      have here : Addable graph start done first := by simpa using addable [] first rest rfl
      obtain ⟨middle, between, added⟩ := (returns_addNode_iff reached).mpr here
      have behind (front : List GraphNode) (node : GraphNode) (back : List GraphNode)
          (split : rest = front ++ node :: back) :
          Addable graph start (done ++ [first] ++ front) node := by
        simpa using addable (first :: front) node back (congrArg _ split)
      obtain ⟨next, later, others⟩ := (ih (reached_addNode reached added).1).mpr behind
      exact ⟨next, later, middle, between, added, others⟩

theorem grows_foldlM_addNode {nodes : List GraphNode} (reached : Reached start done program now)
    (added : (nodes.foldlM (addNode graph supplied) program).Returns now next later) :
    Grows (nodes.filterMap (CallStep.of? graph start)) program next := by
  induction nodes generalizing done program now with
  | nil =>
    obtain ⟨rfl, _⟩ := Run.returns_pure.mp added
    exact .none _
  | cons first rest ih =>
    rw [List.foldlM_cons] at added
    obtain ⟨middle, between, here, behind⟩ := Run.returns_bind.mp added
    obtain ⟨reached, grown⟩ := reached_addNode reached here
    have steps : (first :: rest).filterMap (CallStep.of? graph start) =
        (CallStep.of? graph start first).toList ++ rest.filterMap (CallStep.of? graph start) := by
      cases made : CallStep.of? graph start first <;> simp [made]
    rw [steps]
    exact grown.append (ih reached behind)

end Program
section
variable {library : Library σ} {graph : Graph}

/-- Each call finds the source of its function: it is kept, it can be read as it is spelled, or a call
in front declares it at the same path. -/
def Library.Provides (library : Library σ) (calls : List Call) : Prop :=
  ∀ before call after, calls = before ++ call :: after →
    ∀ path, library.source? call.function = some path →
      library.Holds path ∨ library.Readable path ∨ ∃ earlier ∈ before,
        ∃ other, library.source? earlier.function = some other ∧ other.canonical = path.canonical

/-- What can be read can be read in all spellings of its path. -/
def Library.ReadsSpellings (library : Library σ) : Prop :=
  ∀ path other, other.canonical = path.canonical → library.Readable path → library.Readable other

theorem Library.readsSpellings_memory (library : Library MemoryStore) : library.ReadsSpellings := by
  rintro path other same ⟨text, read⟩
  refine ⟨text, ?_⟩
  change (library.store.read path).1 = .ok text at read
  change (library.store.read other).1 = .ok text
  rw [MemoryStore.read] at read ⊢
  rw [same]
  cases found : library.store.documents.get? path.canonical with
  | none =>
    rw [found] at read
    contradiction
  | some contents =>
    rw [found] at read
    exact read

namespace Library.Provides

variable {calls : List Call}

/-- If all spellings are alike, no call needs another one. -/
theorem holds_or_readable (provides : library.Provides calls) (alike : library.ReadsSpellings) :
    ∀ call ∈ calls, ∀ path, library.source? call.function = some path →
      library.Holds path ∨ library.Readable path := by
  induction calls using List.reverseRecOn with
  | nil => simp
  | append_singleton front last ih =>
    have early := ih fun before call after split => provides before call (after ++ [last]) (by simp [split])
    intro call member path found
    rcases List.mem_append.mp member with before | here
    · exact early call before path found
    · obtain rfl := List.mem_singleton.mp here
      rcases provides front call [] rfl path found with holds | readable | declared
      · exact .inl holds
      · exact .inr readable
      · obtain ⟨earlier, before, other, declares, same⟩ := declared
        refine (early earlier before other declares).imp ?_ (alike other path same.symm)
        exact (Library.holds_of_canonical_eq same).mp

theorem filter (provides : library.Provides calls) (alike : library.ReadsSpellings)
    (kept : Call → Bool) : library.Provides (calls.filter kept) := by
  intro before call after split path found
  have member : call ∈ calls.filter kept := by simp [split]
  exact (provides.holds_or_readable alike call (List.mem_filter.mp member).1 path found).imp_right .inl

end Library.Provides

def callsOf (graph : Graph) (library : Library σ) (nodes : List GraphNode) : List Call :=
  (nodes.filterMap (CallStep.of? graph library)).map CallStep.call

theorem mem_callsOf {nodes : List GraphNode} {call : Call} :
    call ∈ callsOf graph library nodes ↔
      ∃ step : CallStep, step.node ∈ nodes ∧ CallStep.of? graph library step.node = some step ∧
        step.call = call := by
  simp only [callsOf, List.mem_map, List.mem_filterMap]
  constructor
  · rintro ⟨step, ⟨node, member, made⟩, rfl⟩
    obtain ⟨_, rfl, _⟩ := CallStep.of?_eq_some.mp made
    exact ⟨step, member, made, rfl⟩
  · rintro ⟨step, member, made, rfl⟩
    exact ⟨step, ⟨step.node, member, made⟩, rfl⟩

/-- A call among those of some nodes parts the nodes as it parts the calls. -/
theorem callsOf_eq_append_cons {nodes : List GraphNode} {before after : List Call} {call : Call}
    (split : callsOf graph library nodes = before ++ call :: after) :
    ∃ front step back, nodes = front ++ step.node :: back ∧ callsOf graph library front = before ∧
      CallStep.of? graph library step.node = some step ∧ step.call = call := by
  rw [callsOf, List.map_filterMap] at split
  obtain ⟨first, second, rfl, early, late⟩ := List.filterMap_eq_append_iff.mp split
  obtain ⟨skipped, node, back, rfl, none, own, _⟩ := List.filterMap_eq_cons_iff.mp late
  obtain ⟨step, made, rfl⟩ := Option.map_eq_some_iff.mp own
  obtain ⟨_, rfl, _⟩ := CallStep.of?_eq_some.mp made
  refine ⟨first ++ skipped, step, back, by simp, ?_, made, rfl⟩
  rw [callsOf, List.map_filterMap, List.filterMap_append, List.filterMap_eq_nil_iff.mpr none,
    List.append_nil, early]

/-- What nodes declare is declared by their calls, if all of them can be called. -/
theorem available_iff {nodes : List GraphNode} {path : ResourcePath}
    (called : ∀ node ∈ nodes, isPassThrough node.function = false →
      (CallStep.of? graph library node).isSome) :
    Available library nodes path ↔ library.Holds path ∨ library.Readable path ∨
      ∃ earlier ∈ callsOf graph library nodes, ∃ other,
        library.source? earlier.function = some other ∧ other.canonical = path.canonical := by
  have declares : Declares library nodes path ↔
      ∃ earlier ∈ callsOf graph library nodes, ∃ other,
        library.source? earlier.function = some other ∧ other.canonical = path.canonical := by
    constructor
    · rintro ⟨node, member, calls, other, declared, same⟩
      obtain ⟨step, made⟩ := Option.isSome_iff_exists.mp (called node member calls)
      obtain ⟨_, rfl, _⟩ := CallStep.of?_eq_some.mp made
      exact ⟨step.call, mem_callsOf.mpr ⟨step, member, made, rfl⟩, other, declared, same.symm⟩
    · rintro ⟨_, among, other, declared, same⟩
      obtain ⟨step, member, made, rfl⟩ := mem_callsOf.mp among
      obtain ⟨calls, _⟩ := CallStep.of?_eq_some.mp made
      exact ⟨step.node, member, calls, other, declared, same.symm⟩
  rw [Available, declares, or_comm (b := library.Readable path)]

/-- Nodes can be added one after another if each of them can be called and their calls find all
sources. -/
theorem forall_addable_iff {nodes : List GraphNode} :
    (∀ front node back, nodes = front ++ node :: back → Addable graph library front node) ↔
      (∀ node ∈ nodes, isPassThrough node.function = false →
        (CallStep.of? graph library node).isSome) ∧
      library.Provides (callsOf graph library nodes) := by
  constructor
  · intro addable
    have called (node : GraphNode) (member : node ∈ nodes) :
        isPassThrough node.function = false → (CallStep.of? graph library node).isSome := by
      obtain ⟨front, back, split⟩ := List.append_of_mem member
      exact (addable front node back split).call
    refine ⟨called, fun before call after split path found => ?_⟩
    obtain ⟨front, step, back, rfl, rfl, made, rfl⟩ := callsOf_eq_append_cons split
    obtain ⟨calls, _⟩ := CallStep.of?_eq_some.mp made
    exact (available_iff fun other member => called other (List.mem_append_left _ member)).mp
      ((addable front step.node back rfl).source calls path found)
  · rintro ⟨called, provides⟩ front node back rfl
    refine ⟨called node (by simp), fun calls path found => ?_⟩
    obtain ⟨step, made⟩ := Option.isSome_iff_exists.mp (called node (by simp) calls)
    have split : callsOf graph library (front ++ node :: back) =
        callsOf graph library front ++ step.call :: callsOf graph library back := by
      simp [callsOf, made]
    obtain ⟨_, rfl, _⟩ := CallStep.of?_eq_some.mp made
    exact (available_iff fun other member => called other (List.mem_append_left _ member)).mpr
      (provides _ _ _ split path found)

/-- Whether a program is made of some nodes is told by the library at the start. -/
theorem exists_returns_iff [SteadyStore σ] {supplied : SortedSet String} {nodes : List GraphNode}
    (start : Graph) :
    (∃ program final, (nodes.foldlM (Program.addNode graph supplied)
      (.beforeCalls start)).Returns library program final) ↔
      (∀ node ∈ nodes, isPassThrough node.function = false →
        (CallStep.of? graph library node).isSome) ∧
      library.Provides (callsOf graph library nodes) :=
  (Program.returns_foldlM_addNode_iff (.none library rfl)).trans forall_addable_iff

theorem filter_callsOf (name : String) (nodes : List GraphNode) :
    (callsOf graph library nodes).filter (·.node ≠ name) =
      callsOf graph library (nodes.filter (·.name ≠ name)) := by
  rw [callsOf, callsOf, List.filter_map, List.filter_filterMap, List.filterMap_filter]
  refine congrArg _ (List.filterMap_congr fun node _ => ?_)
  cases made : CallStep.of? graph library node with
  | none => simp
  | some step =>
    obtain ⟨_, rfl, _⟩ := CallStep.of?_eq_some.mp made
    by_cases same : step.node.name = name <;> simp [CallStep.call, Call.ofNode, same]

end

end ShaderGraph
