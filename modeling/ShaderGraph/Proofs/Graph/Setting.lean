import ShaderGraph.Proofs.Failure
import ShaderGraph.Proofs.Graph.Basic
import ShaderGraph.Proofs.Run

/-! Settings of nodes. All of them are read, in their order, and of those with one name the last counts.
Data in the declaration of a node count if there is no setting for it. -/
namespace ShaderGraph

def Setting.Fails (s : Setting) (error : DocumentError) : Prop :=
  ∃ cause, NodeConfig.ofData s.data = .error cause ∧ error = .nodeConfig s.name cause

theorem Setting.entry_eq_ok {s : Setting} {entry : String × NodeConfig} : s.entry = .ok entry ↔
    NodeConfig.ofData s.data = .ok entry.2 ∧ entry.1 = normalizeName s.name := by
  rw [Setting.entry]
  cases NodeConfig.ofData s.data with
  | error cause => exact iff_of_false nofun nofun
  | ok config =>
    change Except.ok (normalizeName s.name, config) = _ ↔ _
    simp [Prod.ext_iff, eq_comm, and_comm]

theorem Setting.entry_eq_error {s : Setting} {error : DocumentError} :
    s.entry = .error error ↔ s.Fails error := by
  rw [Setting.entry, Fails]
  cases NodeConfig.ofData s.data with
  | error cause =>
    change Except.error (DocumentError.nodeConfig s.name cause) = _ ↔ _
    simp [eq_comm]
  | ok config => exact iff_of_false nofun nofun

theorem settingTable_eq_error {settings : List Setting} {error : DocumentError} :
    settingTable settings = .error error ↔ FirstFailure Setting.Fails settings error := by
  have first : settings.mapM Setting.entry = .error error ↔
      FirstFailure Setting.Fails settings error := by
    simp only [mapM_eq_error, Setting.entry_eq_error]
  rw [settingTable_eq, ← first]
  cases settings.mapM Setting.entry <;> simp [Except.map]

theorem settingTable_eq_ok {settings : List Setting} {table : Table String NodeConfig} :
    settingTable settings = .ok table ↔
      ∃ entries, List.Forall₂ (fun s entry => s.entry = .ok entry) settings entries ∧
        table = .ofList entries := by
  simp only [settingTable_eq, ← mapM_eq_ok]
  cases settings.mapM Setting.entry <;> simp [Except.map, eq_comm]

def lastSetting? (settings : List Setting) (name : String) : Option Setting :=
  settings.reverse.find? (normalizeName ·.name = name)

/-- The table has the settings that count. -/
theorem get?_settingTable {settings : List Setting} {table : Table String NodeConfig}
    (read : settingTable settings = .ok table) (name : String) :
    (table.get? name).map Except.ok =
      (lastSetting? settings name).map fun s => NodeConfig.ofData s.data := by
  obtain ⟨entries, each, rfl⟩ := settingTable_eq_ok.mp read
  clear read
  rw [Table.get?_ofList, lastSetting?]
  induction each with
  | nil => rfl
  | @cons s entry _ _ first _ ih =>
    obtain ⟨data, same⟩ := Setting.entry_eq_ok.mp first
    simp only [List.reverse_cons, List.find?_append, Option.map_or, ih]
    congr 1
    by_cases here : normalizeName s.name = name
    · simp [same, here, data]
    · simp [same, here]

variable {settings : List Setting} {table : Table String NodeConfig} {name : String}

theorem get?_settingTable_eq_some (read : settingTable settings = .ok table) {config : NodeConfig} :
    table.get? name = some config ↔
      ∃ s, lastSetting? settings name = some s ∧ NodeConfig.ofData s.data = .ok config := by
  have same := get?_settingTable read name
  constructor
  · intro found
    rw [found] at same
    exact Option.map_eq_some_iff.mp same.symm
  · rintro ⟨s, last, data⟩
    rw [last, Option.map_some, data] at same
    obtain ⟨_, found, equal⟩ := Option.map_eq_some_iff.mp same
    rw [found, Except.ok.inj equal]

/-- A name has no entry in the table if there is no setting for it. -/
theorem get?_settingTable_eq_none (read : settingTable settings = .ok table) :
    table.get? name = none ↔ ∀ s ∈ settings, normalizeName s.name ≠ name := by
  have same := congrArg Option.isNone (get?_settingTable read name)
  rw [Option.isNone_map, Option.isNone_map] at same
  rw [← Option.isNone_iff_eq_none, same, Option.isNone_iff_eq_none, lastSetting?, List.find?_eq_none]
  simp

theorem lastSetting?_eq_some {s : Setting} : lastSetting? settings name = some s ↔
    ∃ before after, settings = before ++ s :: after ∧ normalizeName s.name = name ∧
      ∀ later ∈ after, normalizeName later.name ≠ name := by
  simp only [lastSetting?, find?_reverse_eq_some, decide_eq_true_eq, ne_eq]

/-- A setting adds what it says, wherever it stands, if there is no other one of its name. -/
theorem settingTable_append_cons {before after : List Setting} {s : Setting} {config : NodeConfig}
    (data : NodeConfig.ofData s.data = .ok config)
    (apart : ∀ later ∈ after, normalizeName later.name ≠ normalizeName s.name) :
    settingTable (before ++ s :: after) =
      (settingTable (before ++ after)).map (·.insert (normalizeName s.name) config) := by
  have own : s.entry = .ok (normalizeName s.name, config) := Setting.entry_eq_ok.mpr ⟨data, rfl⟩
  simp only [settingTable_eq, List.mapM_append, List.mapM_cons, own]
  cases before.mapM Setting.entry with
  | error cause => rfl
  | ok first =>
    cases read : after.mapM Setting.entry with
    | error cause => rfl
    | ok second =>
      have names : second.map Prod.fst = after.map fun s => normalizeName s.name := by
        rw [← List.forall₂_eq_eq_eq, List.forall₂_map_left_iff, List.forall₂_map_right_iff]
        exact (mapM_eq_ok.mp read).flip.imp fun _ _ made => (Setting.entry_eq_ok.mp made).2
      have others : ∀ later ∈ second, later.1 ≠ (normalizeName s.name, config).1 := by
        intro later member
        have among := List.mem_map_of_mem (f := Prod.fst) member
        rw [names] at among
        obtain ⟨other, member, same⟩ := List.mem_map.mp among
        exact same ▸ apart other member
      exact congrArg Except.ok (Table.ofList_append_cons others)

namespace GraphDocument

variable (document : GraphDocument)

def Unset (name : String) : Prop := ∀ s ∈ document.settings, normalizeName s.name ≠ name

/-- What is said of a node: by the last setting for it, and without one by the data in its declaration,
if there are any. -/
inductive Configures (d : NodeDeclaration) : NodeConfig → Prop
  | setting {before after : List Setting} {s : Setting} {config : NodeConfig}
      (split : document.settings = before ++ s :: after)
      (named : normalizeName s.name = normalizeName d.name)
      (last : ∀ later ∈ after, normalizeName later.name ≠ normalizeName d.name)
      (read : NodeConfig.ofData s.data = .ok config) : Configures d config
  | inline {data : Yaml.Value} {config : NodeConfig} (unset : document.Unset (normalizeName d.name))
      (given : d.data = some data) (read : NodeConfig.ofData data = .ok config) : Configures d config
  | plain (unset : document.Unset (normalizeName d.name)) (absent : d.data = none) :
      Configures d .plain

def NodeFails (d : NodeDeclaration) (error : DocumentError) : Prop :=
  document.Unset (normalizeName d.name) ∧ ∃ data cause, d.data = some data ∧
    NodeConfig.ofData data = .error cause ∧ error = .nodeConfig d.name cause

end GraphDocument

section
variable {document : GraphDocument} {table : Table String NodeConfig} {d : NodeDeclaration}

theorem NodeDeclaration.config_eq_ok (read : settingTable document.settings = .ok table)
    {config : NodeConfig} : d.config table = .ok config ↔ document.Configures d config := by
  have unset : table.get? (normalizeName d.name) = none ↔ document.Unset (normalizeName d.name) :=
    get?_settingTable_eq_none read
  have set {config : NodeConfig} : table.get? (normalizeName d.name) = some config ↔ _ :=
    get?_settingTable_eq_some read
  rw [NodeDeclaration.config]
  constructor
  · intro made
    split at made
    · rename_i found
      obtain rfl := Except.ok.inj made
      obtain ⟨s, last, data⟩ := set.mp found
      obtain ⟨before, after, split, named, last⟩ := lastSetting?_eq_some.mp last
      exact .setting split named last data
    · rename_i absent given
      exact .inline (unset.mp absent) given (Run.mapError_eq_ok.mp made)
    · rename_i absent none
      exact Except.ok.inj made ▸ .plain (unset.mp absent) none
  · rintro (⟨split, named, last, data⟩ | ⟨absent, given, data⟩ | ⟨absent, none⟩)
    · rw [set.mpr ⟨_, lastSetting?_eq_some.mpr ⟨_, _, split, named, last⟩, data⟩]
    · rw [unset.mpr absent, given]
      exact Run.mapError_eq_ok.mpr data
    · rw [unset.mpr absent, none]

theorem NodeDeclaration.config_eq_error (read : settingTable document.settings = .ok table)
    {error : DocumentError} : d.config table = .error error ↔ document.NodeFails d error := by
  rw [NodeDeclaration.config, GraphDocument.NodeFails, GraphDocument.Unset,
    ← get?_settingTable_eq_none read]
  cases table.get? (normalizeName d.name) with
  | some config => simp
  | none =>
    cases d.data with
    | none => simp
    | some data => simp [Run.mapError_eq_error]

/-- What is said of another name makes no difference. -/
theorem NodeDeclaration.config_insert (table : Table String NodeConfig) {d : NodeDeclaration}
    {name : String} (apart : normalizeName d.name ≠ name) (config : NodeConfig) :
    d.config (table.insert name config) = d.config table := by
  rw [NodeDeclaration.config, NodeDeclaration.config, Table.get?_insert, if_neg apart]

/-- Declarations that agree but for where their settings stand make the same nodes. -/
theorem readNodes_congr {settings others : Table String NodeConfig}
    {ds more : List NodeDeclaration} (same : List.Forall₂ (fun d other : NodeDeclaration =>
      d.name = other.name ∧ d.model = other.model ∧ d.config settings = other.config others) ds more)
    (id : Nat) : readNodes settings id ds = readNodes others id more := by
  induction same generalizing id with
  | nil => rfl
  | @cons d other _ _ first _ ih =>
    obtain ⟨name, model, config⟩ := first
    have node : GraphNode.ofDeclaration settings id d =
        GraphNode.ofDeclaration others id other := by
      rw [GraphNode.ofDeclaration, GraphNode.ofDeclaration, config, name, model]
    rw [readNodes, readNodes, node, ih]

end

end ShaderGraph
