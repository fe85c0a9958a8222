import Mathlib.Data.List.Forall2
import ShaderGraph.Proofs.Graph.Setting
import ShaderGraph.Proofs.Run
import ShaderGraph.Proofs.Yaml.Value
import ShaderGraph.Shader.Compile

/-! The forms in which documents say the same. A document may stand in a list of versions, and the data
of a node inside of a field, in a text, or inside of a field in a text. None of this can be seen in the
shader, nor in the error if there is none. -/
namespace ShaderGraph

open Yaml

def versioned (components : Value) (more : List Value) : Value :=
  .mapping [(.string "versions", .sequence (.mapping [(.string "components", components)] :: more))]

namespace GraphDocument

theorem components_versioned (v : Value) (more : List Value) :
    components (versioned v more) = .ok v := by
  simp [components, versioned, Value.field?, Value.untagged, Value.lookup, Value.same, Value.first?]

theorem components_of_unversioned {v : Value} (unversioned : v.field? "versions" = none) :
    components v = .ok v := by
  rw [components, unversioned]

theorem ofValue_versioned {v : Value} (unversioned : v.field? "versions" = none)
    (more : List Value) : ofValue (versioned v more) = ofValue v := by
  rw [ofValue, ofValue, components_versioned, components_of_unversioned unversioned]

theorem parse_of_value {text : String} {v : Value} (parsed : Value.parse text = .ok v) :
    parse text = ofValue v := by
  rw [parse, parsed]
  rfl

end GraphDocument

/-- Data inside of a field, as editors of graphs write them. -/
def wrapData (v : Value) : Value := .mapping [(.string "data", v)]

structure Bare (v : Value) : Prop where
  not_text : ∀ text, v ≠ .string text
  not_wrapped : v.field? "data" = none

/-- The forms of some data: they stand as they are or inside of a field, and either of this is also
written as a text. -/
inductive DataForm (v : Value) : Value → Prop
  | plain : DataForm v v
  | wrapped : DataForm v (wrapData v)
  | text {text : String} (parsed : Value.parse text = .ok v) : DataForm v (.string text)
  | wrappedText {text : String} (parsed : Value.parse text = .ok (wrapData v)) :
      DataForm v (.string text)

def SameData (a b : Value) : Prop := a = b ∨ ∃ v, Bare v ∧ DataForm v a ∧ DataForm v b

namespace NodeConfig

theorem field?_wrapData (v : Value) : (wrapData v).field? "data" = some v := by
  simp [wrapData, Value.field?, Value.untagged, Value.lookup, Value.same]

theorem ofData_of_not_text {v : Value} (not_text : ∀ text, v ≠ .string text) :
    ofData v = (ofValue ((v.field? "data").getD v)).mapError .shape := by
  cases v with
  | string text => exact absurd rfl (not_text text)
  | _ => rfl

theorem ofData_of_parsed {text : String} {v : Value} (parsed : Value.parse text = .ok v) :
    ofData (.string text) = (ofValue ((v.field? "data").getD v)).mapError .shape := by
  rw [ofData, parsed]
  rfl

/-- All forms of some data are read alike. -/
theorem ofData_of_form {v w : Value} (bare : Bare v) (form : DataForm v w) :
    ofData w = (ofValue v).mapError .shape := by
  cases form with
  | plain => rw [ofData_of_not_text bare.not_text, bare.not_wrapped, Option.getD_none]
  | wrapped =>
    have not_text (text : String) : wrapData v ≠ .string text := nofun
    rw [ofData_of_not_text not_text, field?_wrapData, Option.getD_some]
  | text parsed => rw [ofData_of_parsed parsed, bare.not_wrapped, Option.getD_none]
  | wrappedText parsed => rw [ofData_of_parsed parsed, field?_wrapData, Option.getD_some]

theorem ofData_congr {a b : Value} (same : SameData a b) : ofData a = ofData b := by
  rcases same with rfl | ⟨v, bare, first, second⟩
  · rfl
  · rw [ofData_of_form bare first, ofData_of_form bare second]

end NodeConfig

/-- A node declaration without data is one whose data are null. -/
structure NodeDeclaration.SameForm (d other : NodeDeclaration) : Prop where
  name : d.name = other.name
  model : d.model = other.model
  data : SameData (d.data.getD .null) (other.data.getD .null)

structure Setting.SameForm (s other : Setting) : Prop where
  name : s.name = other.name
  data : SameData s.data other.data

structure GraphDocument.SameForm (document other : GraphDocument) : Prop where
  nodes : List.Forall₂ NodeDeclaration.SameForm document.nodes other.nodes
  edges : document.edges = other.edges
  settings : List.Forall₂ Setting.SameForm document.settings other.settings

theorem Setting.entry_congr {s other : Setting} (same : s.SameForm other) :
    s.entry = other.entry := by
  rw [entry, entry, same.name, NodeConfig.ofData_congr same.data]

theorem settingTable_congr {settings others : List Setting}
    (same : List.Forall₂ Setting.SameForm settings others) :
    settingTable settings = settingTable others := by
  have entries : settings.mapM Setting.entry = others.mapM Setting.entry := by
    induction same with
    | nil => rfl
    | cons first _ ih => rw [List.mapM_cons, List.mapM_cons, Setting.entry_congr first, ih]
  rw [settingTable_eq, settingTable_eq, entries]

theorem NodeDeclaration.config_eq (settings : Table String NodeConfig) (d : NodeDeclaration) :
    d.config settings = match settings.get? (normalizeName d.name) with
      | some config => .ok config
      | none => (NodeConfig.ofData (d.data.getD .null)).mapError (.nodeConfig d.name) := by
  rw [config]
  cases settings.get? (normalizeName d.name) with
  | some config => rfl
  | none => cases d.data <;> rfl

theorem NodeDeclaration.config_congr (settings : Table String NodeConfig) {d other : NodeDeclaration}
    (same : d.SameForm other) : d.config settings = other.config settings := by
  rw [config_eq, config_eq, same.name, NodeConfig.ofData_congr same.data]

/-- Documents that differ in the forms of their data have one graph, and the same is logged. -/
theorem Graph.ofDocument_congr {document other : GraphDocument} (same : document.SameForm other)
    (supplied : SortedSet String) : ofDocument document supplied = ofDocument other supplied := by
  have nodes (settings : Table String NodeConfig) :
      readNodes settings 1 document.nodes = readNodes settings 1 other.nodes :=
    readNodes_congr (same.nodes.imp fun d declared form =>
      ⟨form.name, form.model, d.config_congr settings form⟩) 1
  simp only [ofDocument, settingTable_congr same.settings, nodes, same.edges]

/-- A document and the same as the first of several versions are read alike, as values and as texts,
be it as a document or with an error. Documents that differ in the forms of their data compile alike,
that is, with the same result, library and log. -/
theorem compile_same_form [ResourceStore σ] (supplied : SortedSet String) :
    (∀ (v : Value) (more : List Value), v.field? "versions" = none →
      GraphDocument.ofValue (versioned v more) = GraphDocument.ofValue v ∧
      ∀ text other, Value.parse text = .ok (versioned v more) → Value.parse other = .ok v →
        GraphDocument.parse text = GraphDocument.parse other ∧
        (compileText supplied text : Run (Library σ) CompileError Shader) =
          compileText supplied other) ∧
    ∀ document other : GraphDocument, document.SameForm other →
      Graph.ofDocument document supplied = Graph.ofDocument other supplied ∧
      (compile supplied document : Run (Library σ) CompileError Shader) =
        compile supplied other := by
  constructor
  · intro v more unversioned
    have same := GraphDocument.ofValue_versioned unversioned more
    refine ⟨same, fun text other parsed alone => ?_⟩
    have documents : GraphDocument.parse text = GraphDocument.parse other := by
      rw [GraphDocument.parse_of_value parsed, GraphDocument.parse_of_value alone, same]
    exact ⟨documents, by rw [compileText, compileText, documents]⟩
  · intro document other same
    have graphs := Graph.ofDocument_congr same supplied
    exact ⟨graphs, by rw [compile, compile, graphs]⟩

def exposed (kind : String) : Value := .mapping [(.string "type", .string kind)]

def undressed : GraphDocument where
  nodes := [⟨"a", "vec3", some (exposed "varying")⟩, ⟨"b", "float", none⟩, ⟨"c", "vec4", none⟩]
  edges := [⟨⟨"c", "value"⟩, ⟨"a", "value"⟩⟩]
  settings := [⟨"c", exposed "uniform"⟩]

def dressed : GraphDocument where
  nodes := [⟨"a", "vec3", some (.string "\x7b'type': 'varying'\x7d")⟩,
    ⟨"b", "float", some (wrapData .null)⟩, ⟨"c", "vec4", some .null⟩]
  edges := [⟨⟨"c", "value"⟩, ⟨"a", "value"⟩⟩]
  settings := [⟨"c", .string "\x7b'data': \x7b'type': 'uniform'\x7d\x7d"⟩]

theorem parse_varying : Value.parse "\x7b'type': 'varying'\x7d" = .ok (exposed "varying") :=
  Run.toOption_eq_some.mp (by decide +kernel)

theorem parse_uniform :
    Value.parse "\x7b'data': \x7b'type': 'uniform'\x7d\x7d" = .ok (wrapData (exposed "uniform")) :=
  Run.toOption_eq_some.mp (by decide +kernel)

theorem bare_exposed (kind : String) : Bare (exposed kind) where
  not_text _ := nofun
  not_wrapped := by simp [exposed, Value.field?, Value.untagged, Value.lookup, Value.same]

theorem undressed_sameForm_dressed : undressed.SameForm dressed where
  nodes := by
    refine .cons ⟨rfl, rfl, .inr ⟨_, bare_exposed "varying", .plain, .text parse_varying⟩⟩ ?_
    refine .cons ⟨rfl, rfl, .inr ⟨.null, ⟨fun _ => nofun, rfl⟩, .plain, .wrapped⟩⟩ ?_
    exact .cons ⟨rfl, rfl, .inl rfl⟩ .nil
  edges := rfl
  settings := .cons ⟨rfl, .inr ⟨_, bare_exposed "uniform", .plain, .wrappedText parse_uniform⟩⟩ .nil

/-- A document that names no node, and the same as the first of two versions. -/
def titleText : String := "\x7b'title': 'lamp'\x7d"

def versionedText : String := "'versions': [\x7b'components': \x7b'title': 'lamp'\x7d\x7d, 'older']"

def titled : Value := .mapping [(.string "title", .string "lamp")]

theorem parse_titleText : Value.parse titleText = .ok titled :=
  Run.toOption_eq_some.mp (by decide +kernel)

theorem parse_versionedText :
    Value.parse versionedText = .ok (versioned titled [.string "older"]) :=
  Run.toOption_eq_some.mp (by decide +kernel)

/-- The node that all forms declare a varying is one in the graph, and so for the uniform. -/
theorem undressed_compiles_as_dressed :
    (undressed.SameForm dressed ∧
      (∃ graph, (Graph.ofDocument dressed ∅).1 = .ok graph ∧
        graph.varyings.toList = [⟨"vec3", "a"⟩] ∧ graph.uniforms.toList = [⟨"vec4", "c"⟩]) ∧
      Graph.ofDocument undressed ∅ = Graph.ofDocument dressed ∅ ∧
      (compile ∅ undressed : Run (Library MemoryStore) CompileError Shader) =
        compile ∅ dressed) ∧
    (titled.field? "versions" = none ∧
      Value.parse versionedText = .ok (versioned titled [.string "older"]) ∧
      Value.parse titleText = .ok titled ∧
      (compileText ∅ versionedText : Run (Library MemoryStore) CompileError Shader) =
        compileText ∅ titleText) := by
  obtain ⟨versions, forms⟩ := compile_same_form (σ := MemoryStore) ∅
  obtain ⟨graphs, shaders⟩ := forms undressed dressed undressed_sameForm_dressed
  have exposed : (Graph.ofDocument dressed ∅).1.toOption.map
      (fun graph => (graph.varyings.toList, graph.uniforms.toList)) =
        some ([⟨"vec3", "a"⟩], [⟨"vec4", "c"⟩]) := by decide +kernel
  obtain ⟨graph, read, exposed⟩ := Option.map_eq_some_iff.mp exposed
  obtain ⟨varyings, uniforms⟩ := Prod.mk.inj exposed
  have unversioned : titled.field? "versions" = none := by
    simp [titled, Value.field?, Value.untagged, Value.lookup, Value.same]
  have texts := (versions titled [.string "older"] unversioned).2 versionedText titleText
    parse_versionedText parse_titleText
  refine ⟨⟨undressed_sameForm_dressed, ?_, graphs, shaders⟩,
    unversioned, parse_versionedText, parse_titleText, texts.2⟩
  exact ⟨graph, Run.toOption_eq_some.mp read, varyings, uniforms⟩

end ShaderGraph
