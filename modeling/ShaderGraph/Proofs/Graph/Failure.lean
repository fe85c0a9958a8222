import ShaderGraph.Proofs.Graph.Document
import ShaderGraph.Proofs.Graph.Setting

/-! Documents without a graph. There is none because of data that cannot be read: those of a setting,
whether it belongs to a node or not, or those of a node without a setting. -/
namespace ShaderGraph

theorem GraphNode.ofDeclaration_eq_error {settings : Table String NodeConfig} {id : Nat}
    {d : NodeDeclaration} {error : DocumentError} :
    ofDeclaration settings id d = .error error ↔ d.config settings = .error error := by
  rw [ofDeclaration]
  cases d.config settings <;> simp [bind, Except.bind, pure, Except.pure]

/-- Nodes are read up to the first of which the settings cannot be read. -/
theorem readNodes_eq_error {settings : Table String NodeConfig} {id : Nat}
    {ds : List NodeDeclaration} {error : DocumentError} : (readNodes settings id ds).2 = some error ↔
      FirstFailure (fun d error => d.config settings = .error error) ds error := by
  induction ds generalizing id with
  | nil => simp [readNodes, not_firstFailure_nil]
  | cons d rest ih =>
    rw [firstFailure_cons]
    cases made : GraphNode.ofDeclaration settings id d with
    | error cause =>
      have failed := GraphNode.ofDeclaration_eq_error.mp made
      simp [readNodes, made, failed]
    | ok node =>
      have clean (other : DocumentError) : d.config settings ≠ .error other := by
        intro failed
        cases made.symm.trans (GraphNode.ofDeclaration_eq_error.mpr failed)
      simp [readNodes, made, clean, ih]

namespace GraphDocument

/-- Why a document has no graph. Nodes are read behind the settings, so that the first setting that
fails goes before all nodes. -/
inductive FailsBy (document : GraphDocument) (error : DocumentError) : Prop
  | setting (first : FirstFailure Setting.Fails document.settings error)
  | node (read : ∀ s ∈ document.settings, ∀ other, ¬s.Fails other)
      (first : FirstFailure document.NodeFails document.nodes error)

/-- Two documents have the same settings and the same names of nodes, and the same data for each node
without a setting. Nothing is said of their edges. -/
structure ReadsAlike (document other : GraphDocument) : Prop where
  settings : other.settings = document.settings
  nodes : List.Forall₂ (fun d declared : NodeDeclaration => declared.name = d.name ∧
    (document.Unset (normalizeName d.name) → declared.data = d.data)) document.nodes other.nodes

variable {document other : GraphDocument} {error : DocumentError}

theorem exists_failsBy : (∃ error, document.FailsBy error) ↔
    (∃ s ∈ document.settings, ∃ error, s.Fails error) ∨
      ∃ d ∈ document.nodes, ∃ error, document.NodeFails d error := by
  constructor
  · rintro ⟨error, first | ⟨_, first⟩⟩
    · exact .inl (exists_firstFailure.mp ⟨error, first⟩)
    · exact .inr (exists_firstFailure.mp ⟨error, first⟩)
  · intro failing
    by_cases set : ∃ s ∈ document.settings, ∃ error, s.Fails error
    · obtain ⟨error, first⟩ := exists_firstFailure.mpr set
      exact ⟨error, .setting first⟩
    · obtain ⟨error, first⟩ := exists_firstFailure.mpr (failing.resolve_left set)
      exact ⟨error, .node (fun s member other failed => set ⟨s, member, other, failed⟩) first⟩

theorem ReadsAlike.failsBy (alike : document.ReadsAlike other) :
    other.FailsBy error ↔ document.FailsBy error := by
  have unset (name : String) : other.Unset name ↔ document.Unset name := by
    rw [Unset, Unset, alike.settings]
  have nodes : FirstFailure document.NodeFails document.nodes error ↔
      FirstFailure other.NodeFails other.nodes error := by
    refine firstFailure_congr (alike.nodes.imp fun d declared same error => ?_)
    obtain ⟨name, data⟩ := same
    rw [NodeFails, NodeFails, unset, name]
    exact and_congr_right fun free => by rw [data free]
  constructor
  · rintro (first | ⟨read, first⟩)
    · exact .setting (alike.settings ▸ first)
    · exact .node (alike.settings ▸ read) (nodes.mpr first)
  · rintro (first | ⟨read, first⟩)
    · exact .setting (alike.settings.symm ▸ first)
    · exact .node (alike.settings.symm ▸ read) (nodes.mp first)

end GraphDocument

namespace Graph

variable {document : GraphDocument} {supplied : SortedSet String} {error : DocumentError}

theorem ofDocument_eq_error : (ofDocument document supplied).1 = .error error ↔
    settingTable document.settings = .error error ∨
      ∃ settings, settingTable document.settings = .ok settings ∧
        (readNodes settings 1 document.nodes).2 = some error := by
  rw [ofDocument]
  cases settingTable document.settings with
  | error cause => simp
  | ok settings =>
    cases read : readNodes settings 1 document.nodes with
    | mk nodes failure => cases failure <;> simp [read]

theorem ofDocument_failsBy :
    (ofDocument document supplied).1 = .error error ↔ document.FailsBy error := by
  rw [ofDocument_eq_error, settingTable_eq_error]
  constructor
  · rintro (first | ⟨settings, read, first⟩)
    · exact .setting first
    · refine .node (fun s member other failed => ?_) ?_
      · obtain ⟨cause, fails⟩ := exists_firstFailure.mpr ⟨s, member, other, failed⟩
        exact nomatch read.symm.trans (settingTable_eq_error.mpr fails)
      · simpa only [readNodes_eq_error, NodeDeclaration.config_eq_error read] using first
  · rintro (first | ⟨read, first⟩)
    · exact .inl first
    · cases kept : settingTable document.settings with
      | error cause =>
        obtain ⟨s, member, other, failed⟩ :=
          exists_firstFailure.mp ⟨cause, settingTable_eq_error.mp kept⟩
        exact absurd failed (read s member other)
      | ok settings =>
        refine .inr ⟨settings, rfl, readNodes_eq_error.mpr ?_⟩
        simpa only [NodeDeclaration.config_eq_error kept] using first

/-- A document has no graph if and only if the data of some setting, or of some node without a setting,
cannot be read. The error is about the first such setting in the order of the settings, and if there is
none, about the first such node. Edges, supplied names and the data of nodes with a setting have no part
in it. Otherwise the last setting for a node counts. -/
theorem ofDocument_fails_iff (document : GraphDocument) (supplied : SortedSet String) :
    (∀ error, (ofDocument document supplied).1 = .error error ↔ document.FailsBy error) ∧
    ((∃ error, (ofDocument document supplied).1 = .error error) ↔
      (∃ s ∈ document.settings, ∃ error, s.Fails error) ∨
        ∃ d ∈ document.nodes, ∃ error, document.NodeFails d error) ∧
    (∀ other others, document.ReadsAlike other → ∀ error,
      (ofDocument other others).1 = .error error ↔ (ofDocument document supplied).1 = .error error) ∧
    ∀ graph, (ofDocument document supplied).1 = .ok graph →
      ∀ place d, document.nodes[place]? = some d → ∃ config, document.Configures d config ∧
        graph.nodes.get? (place + 1) = some ⟨place + 1, d.model ++ config.loadName.getD "",
          normalizeName d.name, config.nodeKind, config.inputs.getD ∅⟩ := by
  refine ⟨fun error => ofDocument_failsBy, ?_, fun other others alike error => ?_, ?_⟩
  · simp only [ofDocument_failsBy, GraphDocument.exists_failsBy]
  · rw [ofDocument_failsBy, ofDocument_failsBy, alike.failsBy]
  · intro graph read place d declared
    obtain ⟨settings, kept, stored⟩ := stored_of_ofDocument read
    obtain ⟨node, made, _, found⟩ := stored place d declared
    obtain ⟨config, configured, rfl⟩ := GraphNode.ofDeclaration_eq_ok.mp made
    exact ⟨config, (NodeDeclaration.config_eq_ok kept).mp configured, found⟩

/-- Of two settings for a node, spelled in two ways, the last counts, and not what the declaration
says, which cannot be read. -/
def twiceSet : GraphDocument where
  nodes := [⟨"a::b", "vec3", some (.bool true)⟩, ⟨"c", "float", none⟩]
  edges := []
  settings := [⟨"a_b", .mapping [(.string "type", .string "uniform")]⟩,
    ⟨"a::b", .mapping [(.string "type", .string "varying")]⟩]

def twiceSetOtherwise : GraphDocument :=
  { twiceSet with
    nodes := [⟨"a::b", "vec3", some (.sequence [])⟩, ⟨"c", "float", none⟩]
    edges := [⟨⟨"lost", "x"⟩, ⟨"c", "value"⟩⟩] }

def unreadable : GraphDocument where
  nodes := [⟨"d", "float", some (.bool true)⟩]
  edges := []
  settings := [⟨"c", .null⟩, ⟨"a::b", .bool false⟩, ⟨"a_b", .null⟩]

theorem unreadable_fails :
    (unreadable.settings[1]?.map Setting.name = some "a::b" ∧
      ∃ cause, (ofDocument unreadable ∅).1 = .error (.nodeConfig "a::b" cause)) ∧
    twiceSet.ReadsAlike twiceSetOtherwise ∧
    (¬∃ error, (ofDocument twiceSetOtherwise ∅).1 = .error error) ∧
    ∃ graph config, (ofDocument twiceSet ∅).1 = .ok graph ∧
      twiceSet.Configures ⟨"a::b", "vec3", some (.bool true)⟩ config ∧ config.nodeKind = .varying := by
  obtain ⟨fails, _, _, _⟩ := ofDocument_fails_iff unreadable ∅
  obtain ⟨_, _, alike, configured⟩ := ofDocument_fails_iff twiceSet ∅
  have same : twiceSet.ReadsAlike twiceSetOtherwise := by
    refine ⟨rfl, .cons ⟨rfl, fun unset => ?_⟩ (.cons ⟨rfl, fun _ => rfl⟩ .nil)⟩
    exact absurd (by decide +kernel) (unset ⟨"a_b", _⟩ List.mem_cons_self)
  have read : (ofDocument twiceSet ∅).1 = .ok _ := rfl
  refine ⟨⟨rfl, ?_⟩, same, ?_, ?_⟩
  · have bad : Setting.Fails ⟨"a::b", .bool false⟩ (.nodeConfig "a::b" _) := ⟨_, rfl, rfl⟩
    refine ⟨_, (fails _).mpr (.setting ⟨[⟨"c", .null⟩], _, [⟨"a_b", .null⟩], rfl, ?_, bad⟩)⟩
    rintro s member other ⟨cause, failed, _⟩
    obtain rfl := List.mem_singleton.mp member
    cases failed
  · rintro ⟨error, failed⟩
    exact nomatch read.symm.trans ((alike _ _ same error).mp failed)
  · obtain ⟨config, counts, found⟩ := configured _ read 0 _ rfl
    have kind := congrArg (Option.map GraphNode.kind) found
    exact ⟨_, config, read, counts, (Option.some.inj kind).symm⟩

end Graph
end ShaderGraph
