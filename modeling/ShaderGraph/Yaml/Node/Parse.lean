import ShaderGraph.Yaml.Node
import ShaderGraph.Yaml.Token.Scan

/-! From tokens to the trees of a stream. The loops are bounded by the number of tokens: every
round takes one, and no more than three calls stand between two tokens. -/
namespace ShaderGraph.Yaml

/-- Tokens still to be read, and the anchors met so far with their numbers. -/
structure TreeParser where
  tokens : List Token
  anchors : List (String × Nat)

abbrev Parse := StateT TreeParser (Except Fault)

namespace Parse

def peek : Parse (Option Token) := return (← get).tokens.head?

def skip : Parse Unit := modify fun p => { p with tokens := p.tokens.tail }

def accept (t : Token) : Parse Bool := do
  if (← peek) == some t then skip; return true else return false

/-- A new anchor's number is the number of names met before it. A name met again moves to such a
number as well, which a later new name then shares. -/
def define (name : String) : Parse Nat := do
  let p ← get
  let number := p.anchors.length
  let others := p.anchors.filter (·.1 != name)
  set { p with anchors := (name, number) :: others }
  return number

def takeAnchor : Parse (Option String) := do
  match ← peek with
  | some (.anchor name) => skip; return some name
  | _ => return none

def takeTag : Parse (Option (String × Option String)) := do
  match ← peek with
  | some (.tag handle name) => skip; return some (handle, name)
  | _ => return none

/-- The full name of a tag: its handle is replaced by what the directives say it stands for. -/
def fullTag (handles : List (String × String)) (handle : String) (name : Option String) :
    Except Fault (Option String) :=
  if handle.isEmpty then .ok name
  else match handles.lookup handle with
    | some expansion => .ok (name.map (expansion ++ ·))
    | none => .error .tagHandle

/-- Anchor and tag of a node, in either order; the last part tells whether there is one. -/
def properties (handles : List (String × String)) :
    Parse (Option String × Option String × Bool) := do
  let before ← takeAnchor
  let tag ← takeTag
  let anchor ← if before.isSome || tag.isNone then pure before else takeAnchor
  match tag with
  | some (handle, name) => return (anchor, ← fullTag handles handle name, true)
  | none => return (anchor, none, anchor.isSome)

mutual

/-- A node. `block` allows block collections, `indentless` a sequence at the indentation of the
mapping around it. -/
def node (handles : List (String × String)) : Nat → (block indentless : Bool) → Parse Node
  | 0, _, _ => throw .nodeContent
  | fuel + 1, block, indentless => do
    if let some (.alias name) ← peek then
      skip
      match (← get).anchors.lookup name with
      | some number => return .alias number
      | none => throw .unknownAnchor
    let (name, tag, present) ← properties handles
    let number ← name.mapM define
    match ← peek with
    | some .blockEntry =>
      if indentless then return .sequence number tag (← indentlessSequence handles fuel)
      else if present then return .scalar number tag .plain ""
      else throw .nodeContent
    | some (.scalar style text) =>
      skip
      return .scalar number (if tag == some "!" then none else tag) style text
    | some .flowSequenceStart =>
      skip
      return .sequence number tag (← flowSequence handles fuel true)
    | some .flowMappingStart =>
      skip
      return .mapping number tag (← flowMapping handles fuel true)
    | some .blockSequenceStart =>
      if block then
        skip
        return .sequence number tag (← blockSequence handles fuel)
      else if present then return .scalar number tag .plain ""
      else throw .nodeContent
    | some .blockMappingStart =>
      if block then
        skip
        return .mapping number tag (← blockMapping handles fuel)
      else if present then return .scalar number tag .plain ""
      else throw .nodeContent
    | _ => if present then return .scalar number tag .plain "" else throw .nodeContent

/-- A node of a block, or an empty one if one of the tokens `ends` comes next. -/
def blockNode (handles : List (String × String)) : Nat → (indentless : Bool) → (ends : List Token) →
    Parse Node
  | 0, _, _ => throw .nodeContent
  | fuel + 1, indentless, ends => do
    if (← peek).any (ends.contains ·) then return .empty else node handles fuel true indentless

def blockSequence (handles : List (String × String)) : Nat → Parse (List Node)
  | 0 => throw .blockSequence
  | fuel + 1 => do
    if ← accept .blockEnd then return []
    if !(← accept .blockEntry) then throw .blockSequence
    let item ← blockNode handles fuel false [.blockEntry, .blockEnd]
    return item :: (← blockSequence handles fuel)

def indentlessSequence (handles : List (String × String)) : Nat → Parse (List Node)
  | 0 => throw .blockSequence
  | fuel + 1 => do
    if !(← accept .blockEntry) then return []
    let item ← blockNode handles fuel false [.blockEntry, .key, .value, .blockEnd]
    return item :: (← indentlessSequence handles fuel)

def blockMapping (handles : List (String × String)) : Nat → Parse (List (Node × Node))
  | 0 => throw .blockMapping
  | fuel + 1 => do
    if ← accept .blockEnd then return []
    if !(← accept .key) then throw .blockMapping
    let key ← blockNode handles fuel true [.key, .value, .blockEnd]
    let value ← if ← accept .value then blockNode handles fuel true [.key, .value, .blockEnd]
      else pure .empty
    return (key, value) :: (← blockMapping handles fuel)

/-- A node in brackets, or an empty one before `ends`. -/
def flowNode (handles : List (String × String)) : Nat → (ends : List Token) → Parse Node
  | 0, _ => throw .nodeContent
  | fuel + 1, ends => do
    if (← peek).any (ends.contains ·) then return .empty else node handles fuel false false

/-- A pair inside a sequence, from behind the mark of its key. An empty key takes the token that
follows with it, so that only a bracket closed in the key's place can go on. -/
def flowPair (handles : List (String × String)) : Nat → Parse (Node × Node)
  | 0 => throw .flowSequence
  | fuel + 1 => do
    let ends := [.value, .flowEntry, .flowSequenceEnd]
    let key ← if (← peek).any (ends.contains ·) then skip; pure .empty
      else node handles fuel false false
    let value ← if ← accept .value then flowNode handles fuel [.flowEntry, .flowSequenceEnd]
      else pure .empty
    return (key, value)

def flowSequence (handles : List (String × String)) : Nat → (first : Bool) → Parse (List Node)
  | 0, _ => throw .flowSequence
  | fuel + 1, first => do
    if ← accept .flowSequenceEnd then return []
    if !first then
      if !(← accept .flowEntry) then throw .flowSequence
      if ← accept .flowSequenceEnd then return []
    if ← accept .key then
      let pair ← flowPair handles fuel
      return .mapping none none [pair] :: (← flowSequence handles fuel false)
    let item ← node handles fuel false false
    return item :: (← flowSequence handles fuel false)

def flowMapping (handles : List (String × String)) : Nat → (first : Bool) →
    Parse (List (Node × Node))
  | 0, _ => throw .flowMapping
  | fuel + 1, first => do
    if ← accept .flowMappingEnd then return []
    if !first then
      if !(← accept .flowEntry) then throw .flowMapping
      if ← accept .flowMappingEnd then return []
    if ← accept .key then
      let key ← flowNode handles fuel [.value, .flowEntry, .flowMappingEnd]
      let value ← if ← accept .value then flowNode handles fuel [.flowEntry, .flowMappingEnd]
        else pure .empty
      return (key, value) :: (← flowMapping handles fuel false)
    let key ← node handles fuel false false
    return (key, .empty) :: (← flowMapping handles fuel false)

end

def defaultHandles : List (String × String) := [("!", "!"), ("!!", "tag:yaml.org,2002:")]

/-- The directives in front of a document: one version at most, of the first two minor ones, and
each handle once. -/
def directives : Nat → (version : Bool) → List (String × String) → Parse (List (String × String))
  | 0, _, handles => return handles
  | fuel + 1, version, handles => do
    match ← peek with
    | some (.versionDirective major minor) =>
      if version || major != 1 || !(minor == 1 || minor == 2) then throw .directive
      skip
      directives fuel true handles
    | some (.tagDirective handle expansion) =>
      if (handles.lookup handle).isSome then throw .directive
      skip
      directives fuel version (handles ++ [(handle, expansion)])
    | _ => return handles

def startsExplicitly : Token → Bool
  | .versionDirective .. | .tagDirective .. | .documentStart => true
  | _ => false

def document (fuel : Nat) : Parse Node := do
  if (← peek).any startsExplicitly then
    let handles ← directives fuel false []
    if !(← accept .documentStart) then throw .documentStart
    match ← peek with
    | none | some .documentEnd => return .empty
    | some t =>
      if startsExplicitly t then return .empty
      else node (handles ++ defaultHandles) fuel true false
  else node defaultHandles fuel true false

end Parse

/-- The first document of a text, and whether more follows behind it: another document, or text
that cannot be read as one. -/
structure Stream where
  first : Document
  more : Bool

def readStream (text : String) : Except Fault Stream := do
  let (ts, fault) := tokens text
  if ts.isEmpty then
    match fault with
    | some f => throw f
    | none => return ⟨⟨none⟩, false⟩
  let (root, after) ← (Parse.document (4 * ts.length + 8)).run ⟨ts, []⟩
  match after.tokens, fault with
  | [], some f => throw f
  | [], none => return ⟨⟨some root⟩, false⟩
  | rest, fault =>
    let rest := rest.dropWhile (· == .documentEnd)
    return ⟨⟨some root⟩, !rest.isEmpty || fault.isSome⟩

end ShaderGraph.Yaml
