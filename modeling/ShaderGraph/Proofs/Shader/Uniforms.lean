import ShaderGraph.Proofs.Function.Metadata
import ShaderGraph.Proofs.Shader.Compile

/-! The uniforms of a shader, and which of them supplied names take away. It is the declared name that
counts, so that an array is taken away by its name with the length behind it and not by the name that
the metadata give it. -/
namespace ShaderGraph

theorem NodeConfig.nodeKind_eq_uniform (config : NodeConfig) :
    config.nodeKind = .uniform ↔ config.isKind "uniform" := by
  rw [nodeKind]
  split
  · rename_i uniform
    simpa using uniform
  · rename_i other
    split <;> simpa using other

/-- A declaration of a uniform, with the name that it has where it comes from: the normalized name of
a uniform node, or a name in the metadata of a called function. -/
inductive UniformOrigin (settings : Table String NodeConfig) (document : GraphDocument)
    (metadata : String → Option Metadata) (calls : List Call) : Declaration → String → Prop
  | node {d : NodeDeclaration} {config : NodeConfig} (declared : d ∈ document.nodes)
      (read : d.config settings = .ok config) (uniform : config.isKind "uniform" = true) :
      UniformOrigin settings document metadata calls
        ⟨d.model ++ config.loadName.getD "", normalizeName d.name⟩ (normalizeName d.name)
  | single {call : Call} {m : Metadata} {type name : String} (called : call ∈ calls)
      (described : metadata call.function = some m) (listed : m.uniforms.Lists type name)
      (plain : itemType? type = none) :
      UniformOrigin settings document metadata calls ⟨type, name⟩ name
  | array {call : Call} {m : Metadata} {type item name : String} (called : call ∈ calls)
      (described : metadata call.function = some m) (listed : m.uniforms.Lists type name)
      (items : itemType? type = some item) :
      UniformOrigin settings document metadata calls ⟨item, name ++ "[1]"⟩ name

variable {supplied : SortedSet String} {document : GraphDocument}
variable {settings : Table String NodeConfig} {metadata : String → Option Metadata}
variable {calls : List Call} {d : Declaration}

namespace UniformOrigin

theorem of_listed {call : Call} {m : Metadata} {type name : String} (called : call ∈ calls)
    (described : metadata call.function = some m) (listed : m.uniforms.Lists type name) :
    UniformOrigin settings document metadata calls (declareName type name) name := by
  rw [declareName]
  cases items : itemType? type with
  | none => exact .single called described listed items
  | some item => exact .array called described listed items

/-- A uniform is declared by the node or by the metadata that it comes from. -/
theorem exists_iff : (∃ name, UniformOrigin settings document metadata calls d name) ↔
    (∃ declared ∈ document.nodes, ∃ config, declared.config settings = .ok config ∧
      config.isKind "uniform" = true ∧
      ⟨declared.model ++ config.loadName.getD "", normalizeName declared.name⟩ = d) ∨
    ∃ call ∈ calls, ∃ m, metadata call.function = some m ∧
      ∃ type name, m.uniforms.Lists type name ∧ declareName type name = d := by
  constructor
  · rintro ⟨name, origin⟩
    cases origin with
    | node declared read uniform => exact .inl ⟨_, declared, _, read, uniform, rfl⟩
    | single called described listed plain =>
      exact .inr ⟨_, called, _, described, _, _, listed, by rw [declareName, plain]⟩
    | array called described listed items =>
      exact .inr ⟨_, called, _, described, _, _, listed, by rw [declareName, items]⟩
  · rintro (⟨_, declared, _, read, uniform, rfl⟩ | ⟨_, called, _, described, _, _, listed, rfl⟩)
    · exact ⟨_, .node declared read uniform⟩
    · exact ⟨_, .of_listed called described listed⟩

/-- Only the name of an array differs from the name where it comes from. -/
theorem name_eq {name : String} (origin : UniformOrigin settings document metadata calls d name)
    (other : d.name ≠ name) : d.name = name ++ "[1]" := by
  cases origin with
  | node | single => exact absurd rfl other
  | array => rfl

end UniformOrigin

namespace Graph

/-- Nodes declare the uniforms whose names are not supplied. -/
theorem mem_uniforms_of_ofDocument {graph : Graph}
    (read : (ofDocument document supplied).1 = .ok graph) :
    ∃ settings, settingTable document.settings = .ok settings ∧
      ∀ d, d ∈ graph.uniforms.toList ↔ d.name ∉ supplied ∧
        ∃ declared ∈ document.nodes, ∃ config, declared.config settings = .ok config ∧
          config.isKind "uniform" = true ∧
          ⟨declared.model ++ config.loadName.getD "", normalizeName declared.name⟩ = d := by
  obtain ⟨settings, nodes, kept, made, rfl⟩ := ofDocument_eq_ok read
  refine ⟨settings, kept, fun d => ?_⟩
  change d ∈ (DeclarationSet.ofList _).toList ↔ _
  rw [DeclarationSet.toList_ofList, List.mem_eraseDups]
  simp only [List.mem_map, List.mem_filter, decide_eq_true_eq, mem_of_readNodes made,
    GraphNode.ofDeclaration_eq_ok]
  constructor
  · rintro ⟨_, ⟨⟨place, declared, here, config, known, rfl⟩, uniform, free⟩, rfl⟩
    have kind := config.nodeKind_eq_uniform.mp uniform
    exact ⟨free, declared, List.mem_of_getElem? here, config, known, kind, rfl⟩
  · rintro ⟨free, declared, member, config, known, kind, rfl⟩
    obtain ⟨place, here⟩ := List.getElem?_of_mem member
    have uniform := config.nodeKind_eq_uniform.mpr kind
    exact ⟨_, ⟨⟨place, declared, here, config, known, rfl⟩, uniform, free⟩, rfl⟩

end Graph

/-- What a call asks for is what the metadata of its function declare. -/
theorem CallStep.Fits.mem_uniforms {graph : Graph} {library : Library σ} {step : CallStep}
    (fits : step.Fits graph library) (described : library.DescribedBy metadata) :
    d ∈ step.uniforms ↔ ∃ m, metadata step.node.function = some m ∧
      ∃ type name, m.uniforms.Lists type name ∧ declareName type name = d := by
  obtain ⟨m, known, same⟩ := described _ _ fits.signature
  have asked : step.uniforms = m.uniforms.declarations.toList := by
    rw [uniforms, ← same]
    rfl
  rw [asked, NameTable.mem_declarations]
  simp [known]

/-- The uniforms of a shader are those of uniform nodes and of called functions, but for those whose
declared name is supplied. So a name that is supplied and declared all the same is that of an array,
which is declared under another name. -/
theorem uniforms_declared_iff [ResourceStore σ] {library : Library σ} {shader : Shader}
    (compiled : (compile supplied document library).result = .ok shader)
    (described : (compile supplied document library).state.DescribedBy metadata) :
    ∃ settings, settingTable document.settings = .ok settings ∧
      let Origin := UniformOrigin settings document metadata shader.program.calls
      (∀ d, d ∈ shader.program.uniforms ↔ d.name ∉ supplied ∧ ∃ name, Origin d name) ∧
      ∀ d ∈ shader.program.uniforms, ∃ name, Origin d name ∧
        (name ∉ supplied ∨ d.name = name ++ "[1]") := by
  obtain ⟨graph, scheduled, program, read, ordered, made, rfl⟩ :=
    returns_compile.mp ⟨compiled, rfl⟩
  obtain ⟨settings, kept, declared⟩ := Graph.mem_uniforms_of_ofDocument read
  obtain ⟨_, steps, _, fits, added⟩ := Program.ofScheduled_adds made
  obtain ⟨rfl, _⟩ := Graph.schedule_eq_ok ordered
  have calls : program.calls = steps.map CallStep.call := by
    simpa [Program.beforeCalls, Program.empty] using added.grows.calls
  have asked (d : Declaration) : d ∈ steps.flatMap CallStep.uniforms ↔
      ∃ call ∈ program.calls, ∃ m, metadata call.function = some m ∧
        ∃ type name, m.uniforms.Lists type name ∧ declareName type name = d := by
    rw [calls]
    simp only [List.mem_flatMap, List.mem_map, exists_exists_and_eq_and]
    refine exists_congr fun step => and_congr_right fun member => ?_
    exact (fits step member).mem_uniforms described
  have origins (d : Declaration) : d ∈ program.uniforms ↔ d.name ∉ supplied ∧
      ∃ name, UniformOrigin settings document metadata program.calls d name := by
    change d ∈ program.uniforms.toList ↔ _
    rw [added.uniforms_eq, DeclarationSet.toList_extend, List.mem_eraseDups, List.mem_append,
      List.mem_filter, UniformOrigin.exists_iff, ← asked]
    refine (or_congr_left (declared d)).trans ?_
    simp only [decide_eq_true_eq]
    exact (or_congr_right and_comm).trans and_or_left.symm
  refine ⟨settings, kept, origins, fun d member => ?_⟩
  obtain ⟨free, name, origin⟩ := (origins d).mp member
  refine ⟨name, origin, Classical.or_iff_not_imp_left.mpr fun present => ?_⟩
  exact origin.name_eq fun same => present (same ▸ free)

def lampMetadata : Metadata where
  source := none
  uniforms := .ofList [("float", ["gain"]), ("float[]", ["power"])]
  varyings := ∅
  attributes := ∅
  inputs := ∅
  outputs := ∅

def lampText : String :=
  "'uniforms': \x7b'float[]': [\x7b'name': 'power'\x7d], 'float': [\x7b'name': 'gain'\x7d]\x7d"

def lamps : Library MemoryStore := .ofStore (.insertFunction .empty "lamp" lampText)

def lampGraph : GraphDocument := ⟨[⟨"a", "lamp", none⟩], [], []⟩

theorem lampGraph_compiled : ∃ shader,
    (compile (.ofList ["gain", "power"]) lampGraph lamps).result = .ok shader ∧
      (⟨"float", "power[1]"⟩ : Declaration) ∈ shader.program.uniforms := by
  have uniforms : (compile (.ofList ["gain", "power"]) lampGraph lamps).result.toOption.map
    (·.program.uniforms.toList) = some [⟨"float", "power[1]"⟩] := by decide +kernel
  obtain ⟨shader, compiled, uniforms⟩ := Option.map_eq_some_iff.mp uniforms
  refine ⟨shader, Run.toOption_eq_some.mp compiled, ?_⟩
  exact List.mem_of_getElem? (i := 0) (congrArg (·[0]?) uniforms)

theorem lampGraph_described :
    (compile (.ofList ["gain", "power"]) lampGraph lamps).state.DescribedBy
      fun _ => some lampMetadata := by
  intro function signature found
  have kept : (compile (.ofList ["gain", "power"]) lampGraph lamps).state.signatures.entries =
    [("lamp", lampMetadata.signature "lamp")] := by decide +kernel
  have entry := Table.get?_eq_some_iff.mp found
  rw [kept] at entry
  obtain ⟨rfl, rfl⟩ := Prod.mk.inj (List.mem_singleton.mp entry)
  exact ⟨_, rfl, rfl⟩

/-- Of two names that are supplied, that of the single value is not declared and that of the array
is. -/
theorem lampGraph_uniforms : ∃ shader,
    (compile (.ofList ["gain", "power"]) lampGraph lamps).result = .ok shader ∧
      (⟨"float", "gain"⟩ : Declaration) ∉ shader.program.uniforms ∧
      ∃ name, UniformOrigin ∅ lampGraph (fun _ => some lampMetadata) shader.program.calls
        ⟨"float", "power[1]"⟩ name ∧
          (name ∉ SortedSet.ofList ["gain", "power"] ∨ "power[1]" = name ++ "[1]") := by
  obtain ⟨shader, compiled, power⟩ := lampGraph_compiled
  obtain ⟨settings, kept, declared, named⟩ := uniforms_declared_iff compiled lampGraph_described
  obtain rfl := Except.ok.inj ((rfl : settingTable lampGraph.settings = .ok ∅).symm.trans kept)
  exact ⟨shader, compiled, fun gain => ((declared _).mp gain).1 (by decide), named _ power⟩

/-- The array is declared although its name, the only one with its type in the metadata, is
supplied. -/
theorem lampGraph_declares_supplied : ∃ shader,
    (compile (.ofList ["gain", "power"]) lampGraph lamps).result = .ok shader ∧
      Metadata.parse lampText = .ok lampMetadata ∧
      ¬∀ d ∈ shader.program.uniforms, ∃ name,
        UniformOrigin ∅ lampGraph (fun _ => some lampMetadata) shader.program.calls d name ∧
          name ∉ SortedSet.ofList ["gain", "power"] := by
  obtain ⟨shader, compiled, power⟩ := lampGraph_compiled
  have parsed : Metadata.parse lampText = .ok lampMetadata :=
    Run.toOption_eq_some.mp (by decide +kernel)
  refine ⟨shader, compiled, parsed, fun law => ?_⟩
  have listed {type name : String} (listed : lampMetadata.uniforms.Lists type name) :
      name ∈ SortedSet.ofList ["gain", "power"] := by
    obtain ⟨names, entry, among⟩ := listed
    have entries : lampMetadata.uniforms.entries = [("float", ["gain"]), ("float[]", ["power"])] :=
      by decide +kernel
    rw [entries] at entry
    rcases List.mem_pair.mp entry with same | same
    · obtain ⟨_, rfl⟩ := Prod.mk.inj same
      obtain rfl := List.mem_singleton.mp among
      decide
    · obtain ⟨_, rfl⟩ := Prod.mk.inj same
      obtain rfl := List.mem_singleton.mp among
      decide
  obtain ⟨name, origin, free⟩ := law _ power
  generalize same : (⟨"float", "power[1]"⟩ : Declaration) = d at origin
  cases origin with
  | node declared read uniform =>
    obtain rfl := List.mem_singleton.mp declared
    obtain rfl := Except.ok.inj read
    exact absurd uniform (by decide)
  | single _ described among =>
    obtain rfl := Option.some.inj described
    exact free (listed among)
  | array _ described among =>
    obtain rfl := Option.some.inj described
    exact free (listed among)

end ShaderGraph
