import ShaderGraph.Yaml.Reading

/-! Reading a document's tree straight into a type, by the text of its scalars. What is not asked
for is not looked at. An empty plain scalar stands for an empty collection or record. -/
namespace ShaderGraph.Yaml.Reading

def text (anchors : Anchors) (n : Node) : Reading String := do
  match ← target anchors n with
  | .scalar _ _ _ text => return text
  | _ => fail .shape

/-- Absent if the node is empty or plainly null. -/
def optional (anchors : Anchors) (read : Node → Reading α) (n : Node) : Reading (Option α) := do
  let n ← target anchors n
  match n with
  | .scalar _ none .plain text =>
    if text.isEmpty || Scalar.isNull text then return none else some <$> read n
  | .scalar _ (some tag) .plain text =>
    if tag == coreTag "null" then
      if Scalar.isNull text then return none else fail .scalarKind
    else some <$> read n
  | _ => some <$> read n

def items (anchors : Anchors) (read : Node → Reading α) (n : Node) : Reading (List α) := do
  match ← target anchors n with
  | .sequence _ _ items => items.mapM read
  | .scalar _ _ .plain "" => return []
  | _ => fail .shape

def pairs (anchors : Anchors) (n : Node) : Reading (List (Node × Node)) := do
  match ← target anchors n with
  | .mapping _ _ entries => return entries
  | .scalar _ _ .plain "" => return []
  | _ => fail .shape

def table (anchors : Anchors) (read : Node → Reading α) (n : Node) :
    Reading (List (String × α)) := do
  (← pairs anchors n).mapM fun (key, value) => return (← text anchors key, ← read value)

/-- Reads the fields of a record in the order in which they stand. -/
def record (anchors : Anchors) (start : ρ) (field : ρ → String → Node → Reading ρ) (n : Node) :
    Reading ρ := do
  (← pairs anchors n).foldlM (fun read (key, value) => do
    field read (← text anchors key) value) start

def once (before : Option α) (read : Reading α) : Reading (Option α) :=
  match before with
  | some _ => fail .shape
  | none => some <$> read

def required (found : Option α) : Reading α :=
  match found with
  | some a => return a
  | none => fail .shape

/-- An integer of 32 bits, written plainly or as a literal block that is tagged as an integer. -/
def int32 (anchors : Anchors) (n : Node) : Reading Int := do
  match ← target anchors n with
  | .scalar _ tag style text =>
    if style = .plain || (style = .literal && tag == some (coreTag "int")) then
      match Scalar.integer text with
      | .fitting n => if -2147483648 ≤ n ∧ n ≤ 2147483647 then return n else fail .shape
      | _ => fail .shape
    else fail .shape
  | _ => fail .shape

end ShaderGraph.Yaml.Reading
