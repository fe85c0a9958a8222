import ShaderGraph.Yaml.Error
import ShaderGraph.Yaml.Node.Parse
import ShaderGraph.Yaml.Scalar

/-! Reading a document's tree, with its aliases followed. The number of aliases followed is counted,
so that a small text cannot spell an endless value. -/
namespace ShaderGraph.Yaml

/-- What aliases refer to, and how many may be followed. -/
structure Anchors where
  targets : List (Nat × Node)
  limit : Nat

def Document.aliasTable (d : Document) : Anchors := ⟨d.anchors, 100 * d.events⟩

/-- Counts the aliases followed. -/
abbrev Reading := StateT Nat (Except Error)

namespace Reading

def fail (fault : Fault) : Reading α := throw (.malformed fault)

/-- The node meant: an alias stands for the node with its anchor. -/
def target (anchors : Anchors) (n : Node) : Reading Node := do
  match n with
  | .alias number =>
    modify (· + 1)
    if anchors.limit < (← get) then throw .tooManyAliases
    match anchors.targets.lookup number with
    | some node => return node
    | none => fail .unknownAnchor
  | node => return node

end Reading

/-- Reads the first document of a text with `read`. Nothing may follow behind it. -/
def readDocument (text : String) (read : Document → Reading α) : Except Error α := do
  match readStream text with
  | .error fault => throw (.malformed fault)
  | .ok stream =>
    let (value, _) ← (read stream.first).run 0
    if stream.more then throw .severalDocuments
    return value

def coreTag (name : String) : String := "tag:yaml.org,2002:" ++ name

/-- The name of a local tag, one that starts with an exclamation mark. -/
def localTag? (tag : String) : Option String :=
  match tag.toList with
  | ['!'] => some "!"
  | ['!', '!'] => some "!"
  | '!' :: '!' :: name => some (String.ofList name)
  | '!' :: name => some (String.ofList name)
  | _ => none

/-- A scalar whose tag, if there is one, belongs to the core of the language. The tags of booleans,
integers, floats and null ask for their kind, any other makes it a string. -/
def untaggedScalar (tag : Option String) (style : ScalarStyle) (text : String) :
    Except Fault Value :=
  match tag with
  | none => if style = .plain then Scalar.resolve text else .ok (.string text)
  | some tag =>
    if tag == coreTag "bool" then
      match Scalar.bool? text with
      | some b => .ok (.bool b)
      | none => .error .scalarKind
    else if tag == coreTag "int" then
      match Scalar.integer text with
      | .fitting n => .ok (.number (.int n))
      | .wide => .error .wideInteger
      | .other => .error .scalarKind
    else if tag == coreTag "float" then
      match Scalar.float? text with
      | some x => .ok (.number (.float x))
      | none => .error .scalarKind
    else if tag == coreTag "null" then
      if Scalar.isNull text then .ok .null else .error .scalarKind
    else .ok (.string text)

/-- A local tag is kept around the value, which is then read as if it had none. -/
def scalarValue (tag : Option String) (style : ScalarStyle) (text : String) : Except Fault Value :=
  match tag.bind localTag? with
  | some name => return .tagged name (← untaggedScalar none style text)
  | none => untaggedScalar tag style text

def tagValue (tag : Option String) (v : Value) : Value :=
  match tag.bind localTag? with
  | some name => .tagged name v
  | none => v

/-- Adds an entry to those already read; a key may stand once. -/
def addEntry (entries : List (Value × Value)) (key : Value) (read : Reading Value) :
    Reading (List (Value × Value)) := do
  if entries.any (fun entry => entry.1.same key) then Reading.fail .duplicateKey
  return entries ++ [(key, ← read)]

/-- The value of a node, with collections at most `depth` deep. -/
def nodeValue (anchors : Anchors) : (depth : Nat) → Node → Reading Value
  | depth, n => do
    match ← Reading.target anchors n with
    | .alias _ => Reading.fail .unknownAnchor
    | .scalar _ tag style text =>
      match scalarValue tag style text with
      | .ok v => return v
      | .error fault => Reading.fail fault
    | .sequence _ tag items =>
      match depth with
      | 0 => Reading.fail .depth
      | depth + 1 => return tagValue tag (.sequence (← items.mapM (nodeValue anchors depth)))
    | .mapping _ tag entries =>
      match depth with
      | 0 => Reading.fail .depth
      | depth + 1 =>
        let read ← entries.foldlM (fun found (key, value) => do
          addEntry found (← nodeValue anchors depth key) (nodeValue anchors depth value)) []
        return tagValue tag (.mapping read)

def depthLimit : Nat := 128

/-- Reads a text as a value. A text without a document is null. -/
def Value.parse (text : String) : Except Error Value :=
  readDocument text fun d =>
    match d.root with
    | none => return .null
    | some n => nodeValue d.aliasTable depthLimit n

end ShaderGraph.Yaml
