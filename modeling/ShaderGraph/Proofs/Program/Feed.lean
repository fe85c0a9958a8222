import ShaderGraph.Program.Feed
import ShaderGraph.Proofs.Failure

/-! What feeds an input. A binding goes before everything else; without one, a default variable holds
the literal of the input, unless this is to be a value that cannot be written. -/
namespace ShaderGraph

def GraphNode.literal? (node : GraphNode) (param : Param) : Option String :=
  match node.overrides.get? param.name with
  | some value => overrideLiteral? param.type value
  | none => some (defaultOf param.type)

inductive Yaml.Value.Writable : Yaml.Value → Prop
  | string (text : String) : Writable (.string text)
  | bool (b : Bool) : Writable (.bool b)
  | number (n : Yaml.Number) : Writable (.number n)
  | sequence {items : List Yaml.Value} (numbers : ∀ item ∈ items, ∃ n, item = .number n) :
      Writable (.sequence items)

theorem mapM_numberLiteral?_eq_none {items : List Yaml.Value} :
    items.mapM numberLiteral? = none ↔ ¬∀ item ∈ items, ∃ n, item = .number n := by
  induction items with
  | nil => simp
  | cons item rest ih =>
    cases item with
    | number n => cases written : rest.mapM numberLiteral? <;> simp_all [numberLiteral?]
    | _ => simp [numberLiteral?]

theorem overrideLiteral?_eq_none {type : String} {value : Yaml.Value} :
    overrideLiteral? type value = none ↔ ¬value.Writable := by
  cases value with
  | string text => exact iff_of_false nofun fun refused => refused (.string text)
  | bool b => exact iff_of_false nofun fun refused => refused (.bool b)
  | number n => exact iff_of_false nofun fun refused => refused (.number n)
  | sequence items =>
    rw [overrideLiteral?, Option.map_eq_none_iff, mapM_numberLiteral?_eq_none]
    exact not_congr ⟨.sequence, fun | .sequence numbers => numbers⟩
  | null | mapping _ | tagged _ _ => exact iff_of_true rfl nofun

def Graph.Unbound (graph : Graph) (node input : String) : Prop :=
  ∀ b ∈ graph.bindings, b.node = node → b.input ≠ input

theorem Graph.binding?_eq_none {graph : Graph} {node input : String} :
    graph.binding? node input = none ↔ graph.Unbound node input := by
  simp [binding?, Unbound]

/-- An input that no edge feeds has an override that cannot be written. -/
def GraphNode.Refuses (graph : Graph) (node : GraphNode) (param : Param) (error : ProgramError) :
    Prop :=
  graph.Unbound node.name param.name ∧ ∃ value, node.overrides.get? param.name = some value ∧
    ¬value.Writable ∧ error = .invalidOverride node.name param.name value

namespace Feed

variable {graph : Graph} {node : GraphNode} {param : Param} {feed : Feed}

theorem ofParam_eq_error {error : ProgramError} :
    ofParam graph node param = .error error ↔ node.Refuses graph param error := by
  rw [ofParam, GraphNode.Refuses, ← Graph.binding?_eq_none]
  cases graph.binding? node.name param.name with
  | some source => simp
  | none =>
    cases node.overrides.get? param.name with
    | none => simp
    | some value =>
      cases written : overrideLiteral? param.type value with
      | none => simp [written, overrideLiteral?_eq_none.mp written, eq_comm]
      | some literal =>
        have writable : value.Writable := by
          by_contra refused
          exact nomatch written.symm.trans (overrideLiteral?_eq_none.mpr refused)
        simp [written, writable]

/-- Inputs are fed up to the first that cannot be. -/
theorem ofParams_eq_error {params : List Param} {error : ProgramError} :
    (ofParams graph node params).2 = some error ↔
      FirstFailure (node.Refuses graph) params error := by
  induction params with
  | nil => simp [ofParams, not_firstFailure_nil]
  | cons param rest ih =>
    simp only [firstFailure_cons, ← ofParam_eq_error]
    cases first : ofParam graph node param with
    | error cause => simp [ofParams, first]
    | ok feed => simp [ofParams, first, ih]

theorem ofParam_of_binding? {source : String}
    (bound : graph.binding? node.name param.name = some source) :
    ofParam graph node param = .ok (.bound source) := by
  simp [ofParam, bound]

/-- All that can feed an input: the variable to which it is bound, and without one a default variable
with an override, or with the default of the type and a diagnostic. -/
theorem ofParam_cases (fed : ofParam graph node param = .ok feed) :
    (∃ source, graph.binding? node.name param.name = some source ∧ feed = .bound source) ∨
    graph.binding? node.name param.name = none ∧
      let name := defaultVariable node.name param.name
      ((∃ value literal, node.overrides.get? param.name = some value ∧
          overrideLiteral? param.type value = some literal ∧
          feed = .override ⟨param.type, name, literal⟩) ∨
        node.overrides.get? param.name = none ∧
          feed = .missing ⟨param.type, name, defaultOf param.type⟩
            ⟨node.name, param.name, param.type, defaultOf param.type⟩) := by
  cases bound : graph.binding? node.name param.name with
  | some source =>
    rw [ofParam_of_binding? bound] at fed
    exact .inl ⟨source, rfl, (Except.ok.inj fed).symm⟩
  | none =>
    refine .inr ⟨rfl, ?_⟩
    rw [ofParam, bound] at fed
    cases given : node.overrides.get? param.name with
    | some value =>
      simp only [given] at fed
      cases written : overrideLiteral? param.type value with
      | some literal =>
        rw [written] at fed
        exact .inl ⟨value, literal, rfl, written, (Except.ok.inj fed).symm⟩
      | none =>
        rw [written] at fed
        contradiction
    | none =>
      simp only [given] at fed
      exact .inr ⟨rfl, (Except.ok.inj fed).symm⟩

theorem default_of_ofParam (unbound : graph.binding? node.name param.name = none)
    (fed : ofParam graph node param = .ok feed) :
    ∃ held, feed.default? = some held ∧ feed.argument = held.name ∧
      node.literal? param = some held.value := by
  rcases ofParam_cases fed with ⟨_, bound, _⟩ | ⟨_, ⟨value, literal, given, written, rfl⟩ | ⟨absent, rfl⟩⟩
  · exact nomatch bound.symm.trans unbound
  · exact ⟨_, rfl, rfl, by rw [GraphNode.literal?, given]; exact written⟩
  · exact ⟨_, rfl, rfl, by rw [GraphNode.literal?, absent]⟩

theorem ofParams_eq_of_forall {other : Graph} {changed : GraphNode} {params : List Param}
    (same : ∀ param ∈ params, ofParam other changed param = ofParam graph node param) :
    ofParams other changed params = ofParams graph node params := by
  induction params with
  | nil => rfl
  | cons param rest ih =>
    obtain ⟨first, same⟩ := List.forall_mem_cons.mp same
    rw [ofParams, ofParams, first, ih same]

/-- All that inputs take from a graph is what they are bound to, and they take nothing from the number
of their node. -/
theorem ofParams_congr {other : Graph}
    (bound : ∀ node input, other.binding? node input = graph.binding? node input)
    (node : GraphNode) (id : Nat) (params : List Param) :
    ofParams other { node with id } params = ofParams graph node params :=
  ofParams_eq_of_forall fun param _ => by rw [ofParam, ofParam, bound]

theorem ofParams_eq {params : List Param} {feeds : List Feed}
    (fed : ofParams graph node params = (feeds, none)) :
    List.Forall₂ (fun param feed => ofParam graph node param = .ok feed) params feeds := by
  induction params generalizing feeds with
  | nil =>
    obtain ⟨rfl, _⟩ := Prod.mk.inj fed
    exact .nil
  | cons param rest ih =>
    rw [ofParams] at fed
    split at fed
    · exact nomatch (Prod.mk.inj fed).2
    · rename_i feed first
      obtain ⟨rfl, failure⟩ := Prod.mk.inj fed
      exact .cons first (ih (Prod.ext rfl failure))

end Feed
end ShaderGraph
