import ShaderGraph.Yaml.Value

/-! Equality of values can be decided. It is finer than equality as keys: the order of entries counts,
and so do the bits of a float. -/
namespace ShaderGraph.Yaml

mutual

def Value.equal : Value → Value → Bool
  | .null, .null => true
  | .bool a, .bool b => a == b
  | .number a, .number b => a == b
  | .string a, .string b => a == b
  | .sequence a, .sequence b => equalItems a b
  | .mapping a, .mapping b => equalEntries a b
  | .tagged s a, .tagged t b => s == t && a.equal b
  | _, _ => false

def equalItems : List Value → List Value → Bool
  | [], [] => true
  | a :: as, b :: bs => a.equal b && equalItems as bs
  | _, _ => false

def equalEntries : List (Value × Value) → List (Value × Value) → Bool
  | [], [] => true
  | (key, value) :: rest, (other, held) :: more =>
    key.equal other && value.equal held && equalEntries rest more
  | _, _ => false

end

mutual

theorem Value.equal_iff : (a b : Value) → (a.equal b = true ↔ a = b)
  | .null, b | .bool _, b | .number _, b | .string _, b => by cases b <;> simp [Value.equal]
  | .sequence items, b => by cases b <;> simp [Value.equal, equalItems_iff items]
  | .mapping entries, b => by cases b <;> simp [Value.equal, equalEntries_iff entries]
  | .tagged _ value, b => by cases b <;> simp [Value.equal, value.equal_iff]

theorem equalItems_iff : (as bs : List Value) → (equalItems as bs = true ↔ as = bs)
  | [], bs => by cases bs <;> simp [equalItems]
  | a :: as, bs => by cases bs <;> simp [equalItems, a.equal_iff, equalItems_iff as]

theorem equalEntries_iff :
    (as bs : List (Value × Value)) → (equalEntries as bs = true ↔ as = bs)
  | [], bs => by cases bs <;> simp [equalEntries]
  | (key, value) :: rest, bs => by
    rcases bs with _ | ⟨⟨other, held⟩, more⟩
    · simp [equalEntries]
    · simp [equalEntries, key.equal_iff, value.equal_iff, equalEntries_iff rest]

end

instance : DecidableEq Value := fun a b => decidable_of_iff _ (a.equal_iff b)

end ShaderGraph.Yaml
