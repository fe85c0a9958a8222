import ShaderGraph.Proofs.Program.Account
import ShaderGraph.Proofs.Program.Success
import ShaderGraph.Proofs.Shader.Script

/-! Scheduled graphs without a program. There is none because of a node that is called: its function
has no signature, or the source that the function declares cannot be loaded, or an input that no edge
feeds is to hold what cannot be written. All of this is told by the library before the first call. -/
namespace ShaderGraph

/-- Why a node cannot be added. Its signature is loaded first, then the source, and then the inputs are
fed in their order. -/
inductive GraphNode.FailsBy (graph : Graph) (library : Library MemoryStore) (node : GraphNode) :
    ProgramError → Prop
  | metadata {cause : LibraryError} (called : isPassThrough node.function = false)
      (unloaded : (Library.load node.function library).result = .error cause) :
      FailsBy graph library node (.metadata node.name node.function cause)
  | source {signature : Signature} {path : String} {cause : LibraryError}
      (called : isPassThrough node.function = false)
      (loaded : (Library.load node.function library).result = .ok signature)
      (declared : signature.source = some path)
      (unread : (Library.loadSource node.function ⟨path⟩ library).result = .error cause) :
      FailsBy graph library node (.metadata node.name node.function cause)
  | input {signature : Signature} {error : ProgramError}
      (called : isPassThrough node.function = false)
      (loaded : (Library.load node.function library).result = .ok signature)
      (read : ∀ path, signature.source = some path →
        ∃ text, (Library.loadSource node.function ⟨path⟩ library).result = .ok text)
      (first : FirstFailure (node.Refuses graph) signature.inputs error) :
      FailsBy graph library node error

namespace GraphNode

variable {graph : Graph} {library : Library MemoryStore} {node : GraphNode}

theorem exists_failsBy : (∃ error, node.FailsBy graph library error) ↔
    isPassThrough node.function = false ∧
      ((∃ cause, (Library.load node.function library).result = .error cause) ∨
        ∃ signature, (Library.load node.function library).result = .ok signature ∧
          ((∃ path cause, signature.source = some path ∧
              (Library.loadSource node.function ⟨path⟩ library).result = .error cause) ∨
            ∃ param ∈ signature.inputs, ∃ error, node.Refuses graph param error)) := by
  constructor
  · rintro ⟨error, ⟨called, unloaded⟩ | ⟨called, loaded, own, unread⟩ | ⟨called, loaded, _, first⟩⟩
    · exact ⟨called, .inl ⟨_, unloaded⟩⟩
    · exact ⟨called, .inr ⟨_, loaded, .inl ⟨_, _, own, unread⟩⟩⟩
    · exact ⟨called, .inr ⟨_, loaded, .inr (exists_firstFailure.mp ⟨error, first⟩)⟩⟩
  · rintro ⟨called, ⟨cause, unloaded⟩ | ⟨signature, loaded, ⟨path, cause, own, unread⟩ | refused⟩⟩
    · exact ⟨_, .metadata called unloaded⟩
    · exact ⟨_, .source called loaded own unread⟩
    · by_cases read : ∃ path cause, signature.source = some path ∧
          (Library.loadSource node.function ⟨path⟩ library).result = .error cause
      · obtain ⟨path, cause, own, unread⟩ := read
        exact ⟨_, .source called loaded own unread⟩
      · obtain ⟨error, first⟩ := exists_firstFailure.mpr refused
        refine ⟨error, .input called loaded (fun path own => ?_) first⟩
        cases found : (Library.loadSource node.function ⟨path⟩ library).result with
        | error cause => exact absurd ⟨path, cause, own, found⟩ read
        | ok text => exact ⟨text, rfl⟩

end GraphNode

namespace Program

variable {graph : Graph} {library : Library MemoryStore} {node : GraphNode}
  {program next : Program} {supplied : SortedSet String} {signature : Signature}

def Sourced (library : Library MemoryStore) (program : Program) : Prop :=
  ∀ function, program.hasSource function = true → ∃ signature path text,
    (Library.load function library).result = .ok signature ∧ signature.source = some path ∧
      (Library.loadSource function ⟨path⟩ library).result = .ok text

/-- A source fails if it cannot be loaded, be it needed for the first time or not. -/
theorem newSourceScript_eq_error (sourced : program.Sourced library)
    (loaded : (Library.load node.function library).result = .ok signature) {cause : LibraryError} :
    (newSourceScript program node signature).replied library.reply = .error cause ↔
      ∃ path, signature.source = some path ∧
        (Library.loadSource node.function ⟨path⟩ library).result = .error cause := by
  have none : (pure none : Script LibraryError (Option String)).replied library.reply = .ok none := rfl
  rw [newSourceScript]
  cases declared : signature.source with
  | none => simp [none]
  | some path =>
    simp only [Option.some.injEq, exists_eq_left']
    split
    · rename_i has
      obtain ⟨known, own, text, same, found, read⟩ := sourced _ has
      obtain rfl := Except.ok.inj (same.symm.trans loaded)
      obtain rfl := Option.some.inj (found.symm.trans declared)
      simp [none, read]
    · rw [Script.replied_map]
      change Except.map some (Library.loadSource node.function ⟨path⟩ library).result = _ ↔ _
      cases (Library.loadSource node.function ⟨path⟩ library).result <;> simp [Except.map]

theorem newSourceScript_eq_some {text : String}
    (read : (newSourceScript program node signature).replied library.reply = .ok (some text)) :
    ∃ path, signature.source = some path ∧
      (Library.loadSource node.function ⟨path⟩ library).result = .ok text := by
  rw [newSourceScript] at read
  split at read
  · cases read
  · rename_i path declared
    refine ⟨path, declared, ?_⟩
    split at read
    · cases read
    · rw [Script.replied_map] at read
      change Except.map some (Library.loadSource node.function ⟨path⟩ library).result = _ at read
      cases found : (Library.loadSource node.function ⟨path⟩ library).result with
      | error cause => simp [found, Except.map] at read
      | ok other => simpa [found, Except.map] using read

theorem feeds_eq_error {params : List Param} {error : ProgramError} :
    feeds graph node params = .error error ↔ FirstFailure (node.Refuses graph) params error := by
  rw [← Feed.ofParams_eq_error, feeds]
  cases Feed.ofParams graph node params with
  | mk fed failure => cases failure <;> simp

/-- A called node is added with the answers of a library. -/
theorem replied_addNodeScript (called : isPassThrough node.function = false) :
    (addNodeScript graph supplied program node).replied library.reply = (do
      let signature ← (Library.load node.function library).result.mapError
        (.metadata node.name node.function)
      let source ← ((newSourceScript program node signature).replied library.reply).mapError
        (.metadata node.name node.function)
      let feeds ← feeds graph node signature.inputs
      return (program.addSource node.function source).addCall supplied node signature feeds) := by
  simp only [addNodeScript, called, Bool.false_eq_true, if_false, Script.replied_bind,
    Script.replied_mapError]
  rfl

theorem addNodeScript_eq_error (sourced : program.Sourced library) {error : ProgramError} :
    (addNodeScript graph supplied program node).replied library.reply = .error error ↔
      node.FailsBy graph library error := by
  cases called : isPassThrough node.function with
  | true =>
    have ended : (pure program : Script ProgramError Program).replied library.reply = .ok program :=
      rfl
    rw [addNodeScript, if_pos called, ended]
    refine iff_of_false (by simp) ?_
    rintro (⟨other, _⟩ | ⟨other, _⟩ | ⟨other, _⟩) <;> cases called.symm.trans other
  | false =>
    rw [replied_addNodeScript called]
    simp only [bind_eq_error, Run.mapError_eq_error, Run.mapError_eq_ok, feeds_eq_error]
    constructor
    · rintro (⟨cause, unloaded, rfl⟩ | ⟨signature, loaded, ⟨cause, missing, rfl⟩ |
        ⟨source, read, first | ⟨_, _, failed⟩⟩⟩)
      · exact .metadata called unloaded
      · obtain ⟨path, declared, unread⟩ := (newSourceScript_eq_error sourced loaded).mp missing
        exact .source called loaded declared unread
      · refine .input called loaded (fun path declared => ?_) first
        cases found : (Library.loadSource node.function ⟨path⟩ library).result with
        | error cause =>
          have missing := (newSourceScript_eq_error sourced loaded).mpr ⟨path, declared, found⟩
          cases read.symm.trans missing
        | ok text => exact ⟨text, rfl⟩
      · cases failed
    · rintro (⟨_, unloaded⟩ | ⟨_, loaded, declared, unread⟩ | ⟨_, loaded, present, first⟩)
      · exact .inl ⟨_, unloaded, rfl⟩
      · have missing := (newSourceScript_eq_error sourced loaded).mpr ⟨_, declared, unread⟩
        exact .inr ⟨_, loaded, .inl ⟨_, missing, rfl⟩⟩
      · refine .inr ⟨_, loaded, .inr ?_⟩
        cases read : (newSourceScript program node _).replied library.reply with
        | error cause =>
          obtain ⟨path, declared, unread⟩ := (newSourceScript_eq_error sourced loaded).mp read
          obtain ⟨text, found⟩ := present path declared
          cases found.symm.trans unread
        | ok source => exact ⟨source, rfl, .inl first⟩

/-- A node adds no other source than that of its function. -/
theorem sourced_addNodeScript (sourced : program.Sourced library)
    (added : (addNodeScript graph supplied program node).replied library.reply = .ok next) :
    next.Sourced library := by
  cases called : isPassThrough node.function with
  | true =>
    rw [addNodeScript, if_pos called] at added
    exact Except.ok.inj added ▸ sourced
  | false =>
    rw [replied_addNodeScript called] at added
    simp only [bind_eq_ok, Run.mapError_eq_ok] at added
    obtain ⟨signature, loaded, source, read, fed, _, made⟩ := added
    obtain rfl := Except.ok.inj made
    intro function has
    rcases hasSource_addSource has with before | ⟨rfl, here⟩
    · exact sourced function before
    · obtain ⟨text, rfl⟩ := Option.isSome_iff_exists.mp here
      obtain ⟨path, declared, found⟩ := newSourceScript_eq_some read
      exact ⟨signature, path, text, loaded, declared, found⟩

theorem result_ofScheduled (scheduled : ScheduledGraph) (supplied : SortedSet String)
    (library : Library MemoryStore) : (ofScheduled scheduled supplied library).result =
      scheduled.nodes.foldlM (fun program node =>
        (addNodeScript scheduled.graph supplied program node).replied library.reply)
        (beforeCalls scheduled.graph) := by
  have follows := foldlM_addNode_follows (σ := MemoryStore) scheduled.graph supplied
    (.beforeCalls scheduled.graph) scheduled.nodes
  rw [← Script.replied_foldlM]
  exact (follows.replied fun _ => rfl).1

theorem ofScheduled_failsBy {scheduled : ScheduledGraph} {error : ProgramError} :
    (ofScheduled scheduled supplied library).result = .error error ↔
      FirstFailure (GraphNode.FailsBy scheduled.graph library) scheduled.nodes error := by
  rw [result_ofScheduled]
  have sourced : Sourced library (beforeCalls scheduled.graph) := fun function has => nomatch has
  refine foldlM_eq_error (fun program node error sourced => ?_)
    (fun program node next sourced added => ?_) sourced
  · exact addNodeScript_eq_error sourced
  · exact sourced_addNodeScript sourced added

end Program

/-- The node takes an override of this name: it is that of an input of its function to which no edge
leads. -/
def GraphNode.Takes (graph : Graph) (library : Library MemoryStore) (node : GraphNode)
    (name : String) : Prop :=
  isPassThrough node.function = false ∧ graph.Unbound node.name name ∧
    ∃ signature, (Library.load node.function library).result = .ok signature ∧
      ∃ param ∈ signature.inputs, param.name = name

/-- Another node is the same but for overrides that it does not take. -/
def GraphNode.Alike (graph : Graph) (library : Library MemoryStore) (node other : GraphNode) : Prop :=
  ∃ overrides, other = { node with overrides } ∧
    ∀ name, node.Takes graph library name → overrides.get? name = node.overrides.get? name

structure ScheduledGraph.Alike (library : Library MemoryStore) (scheduled other : ScheduledGraph) :
    Prop where
  nodes : List.Forall₂ (GraphNode.Alike scheduled.graph library) scheduled.nodes other.nodes
  bindings : other.graph.bindings = scheduled.graph.bindings
  epilogue : other.graph.epilogue = scheduled.graph.epilogue
  uniforms : other.graph.uniforms = scheduled.graph.uniforms
  varyings : other.graph.varyings = scheduled.graph.varyings

namespace Program

variable {graph more : Graph} {library now : Library MemoryStore} {node other : GraphNode}
  {supplied : SortedSet String}

theorem feedInputs_alike (called : isPassThrough node.function = false) {signature : Signature}
    (loaded : (Library.load node.function library).result = .ok signature)
    (bindings : more.bindings = graph.bindings) (alike : node.Alike graph library other) :
    (feedInputs more other signature.inputs : Run (Library MemoryStore) ProgramError (List Feed)) =
      feedInputs graph node signature.inputs := by
  obtain ⟨overrides, rfl, same⟩ := alike
  have fed : Feed.ofParams more { node with overrides } signature.inputs =
      Feed.ofParams graph node signature.inputs := by
    refine Feed.ofParams_eq_of_forall fun param member => ?_
    have bound : more.binding? node.name param.name = graph.binding? node.name param.name := by
      rw [Graph.binding?, Graph.binding?, bindings]
    rw [Feed.ofParam, Feed.ofParam, bound]
    cases free : graph.binding? node.name param.name with
    | some source => rfl
    | none =>
      have takes : node.Takes graph library param.name :=
        ⟨called, Graph.binding?_eq_none.mp free, signature, loaded, param, member, rfl⟩
      rw [same param.name takes]
  rw [feedInputs, feedInputs, fed]

theorem addNode_alike (answers : now.AnswersAs library) (bindings : more.bindings = graph.bindings)
    (alike : node.Alike graph library other) (program : Program) :
    addNode more supplied program other now = addNode graph supplied program node now := by
  have fed (called : isPassThrough node.function = false) {signature : Signature}
      (loaded : (Library.load node.function library).result = .ok signature) :=
    feedInputs_alike called loaded bindings alike
  obtain ⟨overrides, rfl, _⟩ := alike
  rw [addNode, addNode]
  cases called : isPassThrough node.function with
  | true => rfl
  | false =>
    refine Run.bind_congr_at rfl fun signature loaded => ?_
    have loaded := (answers (.signature node.function)).symm.trans (Run.mapError_eq_ok.mp loaded)
    rw [fed called loaded]
    rfl

/-- The answers that tell what a node takes are the same before each of the nodes. -/
theorem foldlM_addNode_alike {nodes others : List GraphNode}
    (alike : List.Forall₂ (GraphNode.Alike graph library) nodes others)
    (bindings : more.bindings = graph.bindings) (answers : now.AnswersAs library)
    (program : Program) :
    others.foldlM (addNode more supplied) program now =
      nodes.foldlM (addNode graph supplied) program now := by
  induction alike generalizing program now with
  | nil => rfl
  | @cons node other _ _ first _ ih =>
    rw [List.foldlM_cons, List.foldlM_cons]
    refine Run.bind_congr_at (addNode_alike answers bindings first program) fun next _ => ih ?_ next
    exact ((addNode_follows graph supplied program node).replied answers).2

theorem ofScheduled_alike {scheduled other : ScheduledGraph} (alike : scheduled.Alike library other)
    (supplied : SortedSet String) :
    ofScheduled other supplied library = ofScheduled scheduled supplied library := by
  have before : beforeCalls other.graph = beforeCalls scheduled.graph := by
    rw [beforeCalls, beforeCalls, alike.epilogue, alike.uniforms, alike.varyings]
  rw [ofScheduled, ofScheduled, before]
  exact foldlM_addNode_alike alike.nodes alike.bindings (fun _ => rfl) _

/-- A scheduled graph has no program if and only if some called node has a function without signature,
or one whose source cannot be loaded, or an input without edge whose override cannot be written. The
error is that of the first such node, and of its first such input. The inputs are in the order of index
and name if the library is in order, as libraries are that have only read metadata. All other overrides
have no part in what comes of the graph. -/
theorem ofScheduled_fails_iff (scheduled : ScheduledGraph) (supplied : SortedSet String)
    (library : Library MemoryStore) :
    (∀ error, (ofScheduled scheduled supplied library).result = .error error ↔
      FirstFailure (GraphNode.FailsBy scheduled.graph library) scheduled.nodes error) ∧
    ((∃ error, (ofScheduled scheduled supplied library).result = .error error) ↔
      ∃ node ∈ scheduled.nodes, isPassThrough node.function = false ∧
        ((∃ cause, (Library.load node.function library).result = .error cause) ∨
          ∃ signature, (Library.load node.function library).result = .ok signature ∧
            ((∃ path cause, signature.source = some path ∧
                (Library.loadSource node.function ⟨path⟩ library).result = .error cause) ∨
              ∃ param ∈ signature.inputs, ∃ error, node.Refuses scheduled.graph param error))) ∧
    (library.Ordered → ∀ function signature, (Library.load function library).result = .ok signature →
      signature.inputs.Pairwise Param.Before) ∧
    ∀ other, scheduled.Alike library other →
      ofScheduled other supplied library = ofScheduled scheduled supplied library := by
  refine ⟨fun error => ofScheduled_failsBy, ?_, fun ordered function signature loaded => ?_,
    fun other alike => ofScheduled_alike alike supplied⟩
  · simp only [ofScheduled_failsBy, exists_firstFailure, GraphNode.exists_failsBy]
  · have grown := (Library.load_extends function library).ordered ordered
    exact (grown function signature (Library.get?_of_load_returns ⟨loaded, rfl⟩)).inputs

/-- A value, a call of it and a call of an unknown function. Of the overrides of the second node only
that of the factor is for an input without an edge, and it cannot be written. -/
def overridden : ScheduledGraph where
  graph := {
    nodes := .ofList [(1, ⟨1, "vec3", "position", .plain, .ofList [("x", .null)]⟩),
      (2, ⟨2, "scale", "grow", .plain,
        .ofList [("value", .mapping []), ("gain", .sequence [.null]), ("factor", .null)]⟩),
      (3, ⟨3, "lost", "rest", .plain, ∅⟩)]
    names := .ofList [("position", 1), ("grow", 2), ("rest", 3)]
    bindings := [⟨"grow", "value", "position"⟩]
    constraints := .ofList [⟨1, 2⟩]
    epilogue := []
    uniforms := ∅
    varyings := ∅ }
  order := [1, 2, 3]

def barelyOverridden : ScheduledGraph :=
  { overridden with
    graph := { overridden.graph with
      nodes := .ofList [(1, ⟨1, "vec3", "position", .plain, ∅⟩),
        (2, ⟨2, "scale", "grow", .plain, .ofList [("factor", .null)]⟩),
        (3, ⟨3, "lost", "rest", .plain, ∅⟩)] } }

theorem blendLibrary_ordered : blendLibrary.Ordered := by
  intro function signature found
  have entries : blendLibrary.signatures.entries = [("mix3", _), ("scale", _)] := rfl
  have member := Table.get?_eq_some_iff.mp found
  rw [entries] at member
  simp only [List.mem_cons, Prod.mk.injEq, List.not_mem_nil, or_false] at member
  rcases member with ⟨_, rfl⟩ | ⟨_, rfl⟩ <;> constructor <;> simp [Param.Before]

theorem overridden_alike : overridden.Alike blendLibrary barelyOverridden := by
  have nodes : overridden.nodes = [⟨1, "vec3", "position", .plain, _⟩,
      ⟨2, "scale", "grow", .plain, _⟩, ⟨3, "lost", "rest", .plain, _⟩] := rfl
  have barely : barelyOverridden.nodes = [⟨1, "vec3", "position", .plain, _⟩,
      ⟨2, "scale", "grow", .plain, _⟩, ⟨3, "lost", "rest", .plain, _⟩] := rfl
  have scale : (Library.load "scale" blendLibrary).result = .ok _ := rfl
  refine ⟨?_, rfl, rfl, rfl, rfl⟩
  rw [nodes, barely]
  refine .cons ⟨_, rfl, ?_⟩ (.cons ⟨_, rfl, ?_⟩ (.cons ⟨_, rfl, fun _ _ => rfl⟩ .nil))
  · rintro name ⟨called, _⟩
    exact nomatch called
  · rintro name ⟨_, unbound, signature, loaded, param, member, rfl⟩
    obtain rfl := Except.ok.inj (scale.symm.trans loaded)
    rcases List.mem_cons.mp member with rfl | member
    · exact absurd rfl (unbound ⟨"grow", "value", "position"⟩ List.mem_cons_self rfl)
    · obtain rfl := List.mem_singleton.mp member
      rfl

theorem overridden_fails :
    (ofScheduled overridden ∅ blendLibrary).result =
      .error (.invalidOverride "grow" "factor" .null) ∧
    (∃ cause, (Library.load "lost" blendLibrary).result = .error cause) ∧
    (∃ signature, (Library.load "scale" blendLibrary).result = .ok signature ∧
      signature.inputs.map Param.name = ["value", "factor"] ∧
      signature.inputs.Pairwise Param.Before) ∧
    ofScheduled barelyOverridden ∅ blendLibrary = ofScheduled overridden ∅ blendLibrary := by
  obtain ⟨fails, _, ordered, alike⟩ := ofScheduled_fails_iff overridden ∅ blendLibrary
  have scale : (Library.load "scale" blendLibrary).result = .ok _ := rfl
  refine ⟨?_, ⟨_, rfl⟩, ⟨_, scale, rfl, ordered blendLibrary_ordered _ _ scale⟩,
    alike _ overridden_alike⟩
  refine (fails _).mpr ⟨[⟨1, "vec3", "position", .plain, _⟩], ⟨2, "scale", "grow", .plain, _⟩,
    [⟨3, "lost", "rest", .plain, _⟩], rfl, ?_, ?_⟩
  · rintro earlier member other (⟨called, _⟩ | ⟨called, _⟩ | ⟨called, _⟩) <;>
      obtain rfl := List.mem_singleton.mp member <;> exact nomatch called
  · refine .input rfl scale (fun path declared => nomatch declared) ?_
    refine ⟨[⟨"value", "vec3", 0⟩], ⟨"factor", "float", 1⟩, [], rfl, ?_, ?_⟩
    · rintro earlier member other ⟨unbound, _⟩
      obtain rfl := List.mem_singleton.mp member
      exact unbound ⟨"grow", "value", "position"⟩ List.mem_cons_self rfl rfl
    · exact ⟨Graph.binding?_eq_none.mp rfl, .null, rfl, nofun, rfl⟩

end Program
end ShaderGraph
