import ShaderGraph.Yaml.Token.Scalar

/-! From a text to its tokens. Indentation opens and closes blocks; a word in front of a colon is
known to be a key only at the colon, so the place of every word that may still become one is kept
and its mark inserted later. -/
namespace ShaderGraph.Yaml

/-- A place where a key may have started: the number of tokens before it, and the text position.
It is `required` where a block cannot go on without it. -/
structure KeyPlace where
  position : Nat
  index : Nat
  line : Nat
  column : Nat
  required : Bool
  deriving Repr

/-- Tokens are kept in reverse. `key` is the place a key may start at in the innermost bracket,
`outerKeys` those of the brackets around it, `indents` the columns of the open blocks. -/
structure Scanner where
  cursor : Cursor
  reversed : List Token
  count : Nat
  indents : List Nat
  key : Option KeyPlace
  outerKeys : List (Option KeyPlace)
  keyAllowed : Bool
  deriving Repr

namespace Scanner

def start (text : List Char) : Scanner := ⟨.start text, [], 0, [], none, [], true⟩

def inFlow (s : Scanner) : Bool := !s.outerKeys.isEmpty

/-- The first column inside the innermost open block. -/
def margin (s : Scanner) : Nat :=
  match s.indents with
  | [] => 0
  | column :: _ => column + 1

def emit (s : Scanner) (t : Token) : Scanner :=
  { s with reversed := t :: s.reversed, count := s.count + 1 }

def insert (s : Scanner) (position : Nat) (t : Token) : Scanner :=
  { s with reversed := s.reversed.insertIdx (s.count - position) t, count := s.count + 1 }

/-- A key ends on the line it started on, within 1024 characters. -/
def KeyPlace.isStale (k : KeyPlace) (c : Cursor) : Bool :=
  k.line < c.line || k.index + 1024 < c.index

def dropStale (c : Cursor) (key : Option KeyPlace) : Except Fault (Option KeyPlace) :=
  match key with
  | some k =>
    if !KeyPlace.isStale k c then .ok key
    else if k.required then .error .simpleKey
    else .ok none
  | none => .ok none

def dropStaleKeys (s : Scanner) : Except Fault Scanner := do
  let outer ← s.outerKeys.mapM (dropStale s.cursor)
  let key ← dropStale s.cursor s.key
  return { s with key, outerKeys := outer }

def removeKey (s : Scanner) : Except Fault Scanner :=
  if s.key.any (·.required) then .error .simpleKey else .ok { s with key := none }

def saveKey (s : Scanner) : Except Fault Scanner :=
  if s.keyAllowed then do
    let s ← s.removeKey
    let required := !s.inFlow && s.margin == s.cursor.column + 1
    let c := s.cursor
    return { s with key := some ⟨s.count, c.index, c.line, c.column, required⟩ }
  else .ok s

/-- Opens a block at `column`, if that is deeper than the blocks already open. -/
def openBlock (s : Scanner) (column : Nat) (position : Nat) (t : Token) : Scanner :=
  if !s.inFlow && s.margin ≤ column then
    { s.insert position t with indents := column :: s.indents }
  else s

def closeBlocks (column : Option Nat) : List Nat → Scanner → Scanner
  | [], s => { s with indents := [] }
  | indent :: outer, s =>
    if column.all (· < indent) then closeBlocks column outer (s.emit .blockEnd)
    else { s with indents := indent :: outer }

/-- Closes the blocks deeper than `column`, or all of them. Brackets ignore indentation. -/
def unroll (s : Scanner) (column : Option Nat) : Scanner :=
  if s.inFlow then s else closeBlocks column s.indents s

/-- Blanks, comments and line breaks between tokens. A tab cannot indent what may be a key. -/
def skipGap : Nat → Scanner → Scanner
  | 0, s => s
  | fuel + 1, s =>
    let tabs := s.inFlow || !s.keyAllowed
    let c := (s.cursor.skipWhile fun b => b == ' ' || (tabs && b == '\t')).skipComment
    if c.at? 0 isLineBreak then
      skipGap fuel { s with cursor := c.lineBreak.2, keyAllowed := s.keyAllowed || !s.inFlow }
    else { s with cursor := c }

def skipMark (s : Scanner) (c : Cursor) : Scanner :=
  if c.index == 0 && c.peek == some '\ufeff' then { s with cursor := c.skip 1 } else s

def versionNumber (c : Cursor) : Except Fault (Nat × Cursor) :=
  let (digits, c) := c.span Char.isDigit
  if digits.isEmpty || 9 < digits.length then .error .directive
  else .ok (digits.foldl (fun n d => 10 * n + (d.toNat - '0'.toNat)) 0, c)

def isTagChar (verbatim : Bool) (c : Char) : Bool :=
  isWordChar c || ";/?:@&=+$.!~*'()".toList.contains c || (verbatim && ",[]".toList.contains c)

/-- An octet that is written as a percent sign and two digits. -/
def escapedOctet (c : Cursor) : Except Fault (Nat × Cursor) :=
  match c.rest with
  | '%' :: a :: b :: _ =>
    match hexValue? a, hexValue? b with
    | some high, some low => .ok (16 * high + low, c.skip 3)
    | _, _ => .error .uriEscape
  | _ => .error .uriEscape

/-- The number of octets of a character, which its first octet tells. -/
def characterWidth (octet : Nat) : Except Fault Nat :=
  if octet < 0x80 then .ok 1
  else if octet / 0x20 == 0x06 then .ok 2
  else if octet / 0x10 == 0x0e then .ok 3
  else if octet / 0x08 == 0x1e then .ok 4
  else .error .uriEscape

def trailingOctets : Nat → Cursor → Except Fault (List UInt8 × Cursor)
  | 0, c => .ok ([], c)
  | n + 1, c => do
    let (octet, c) ← escapedOctet c
    if octet / 0x40 != 2 then throw .uriEscape
    let (octets, c) ← trailingOctets n c
    return (octet.toUInt8 :: octets, c)

def escapedCharacter (c : Cursor) : Except Fault (List UInt8 × Cursor) := do
  let (first, c) ← escapedOctet c
  let width ← characterWidth first
  let (octets, c) ← trailingOctets (width - 1) c
  return (first.toUInt8 :: octets, c)

def tagOctets (verbatim : Bool) : Nat → List UInt8 → Cursor → Except Fault (List UInt8 × Cursor)
  | 0, octets, c => .ok (octets, c)
  | fuel + 1, octets, c =>
    let (run, c) := c.span (isTagChar verbatim)
    let octets := octets ++ run.map (·.toNat.toUInt8)
    if c.peek == some '%' then do
      let (escaped, c) ← escapedCharacter c
      tagOctets verbatim fuel (octets ++ escaped) c
    else .ok (octets, c)

def textOfOctets (octets : List UInt8) : Option String :=
  String.fromUTF8? ⟨octets.toArray⟩

/-- A tag's name, behind the letters `head` that were already read as a handle. -/
def tagName (verbatim : Bool) (head : List Char) (c : Cursor) :
    Except Fault (Option String × Cursor) := do
  let known := head.drop 1
  let (octets, c) ← tagOctets verbatim (c.rest.length + 1) (known.map (·.toNat.toUInt8)) c
  if head.isEmpty && octets.isEmpty then throw .tagName
  return (textOfOctets octets, c)

/-- A handle: exclamation marks around a word, or the first mark and word alone. -/
def tagHandle (directive : Bool) (c : Cursor) : Except Fault (List Char × Cursor) := do
  if c.peek != some '!' then throw .tagHandle
  let (word, c) := (c.skip 1).span isWordChar
  if c.peek == some '!' then return ('!' :: word ++ ['!'], c.skip 1)
  if directive && !word.isEmpty then throw .tagHandle
  return ('!' :: word, c)

def scanTag (flow : Bool) (c : Cursor) : Except Fault (Token × Cursor) := do
  let (token, c) ←
    if c.peekAt 1 == some '<' then do
      let (name, c) ← tagName true [] (c.skip 2)
      if c.peek != some '>' then throw .tagName
      pure (Token.tag "" name, c.skip 1)
    else do
      let (handle, c) ← tagHandle false c
      if 1 < handle.length && handle.getLast? == some '!' then do
        let (name, c) ← tagName false [] c
        pure (Token.tag (String.ofList handle) name, c)
      else do
        let (name, c) ← tagName false handle c
        pure (if name == some "" then Token.tag "" (some "!") else Token.tag "!" name, c)
  if flow && c.peek == some ',' then return (token, c)
  if c.blankAt 0 then return (token, c)
  throw .tagName

def anchorName (c : Cursor) : Except Fault (String × Cursor) :=
  let (name, c) := c.span isWordChar
  if name.isEmpty then .error .anchorName
  else if c.blankAt 0 || c.at? 0 ("?:,]\x7d%@\x60".toList.contains ·) then .ok (String.ofList name, c)
  else .error .anchorName

def directiveBody (name : String) (c : Cursor) : Except Fault (Token × Cursor) := do
  let c := c.skipWhile isBlank
  match name with
  | "YAML" =>
    let (major, c) ← versionNumber c
    if c.peek != some '.' then throw .directive
    let (minor, c) ← versionNumber (c.skip 1)
    return (.versionDirective major minor, c)
  | "TAG" =>
    let (handle, c) ← tagHandle true c
    if !c.at? 0 isBlank then throw .directive
    let (name, c) ← tagName true [] (c.skipWhile isBlank)
    if !c.blankAt 0 then throw .directive
    return (.tagDirective (String.ofList handle) (name.getD ""), c)
  | _ => throw .directive

def scanDirective (c : Cursor) : Except Fault (Token × Cursor) := do
  let (name, c) := (c.skip 1).span isWordChar
  if name.isEmpty || !c.blankAt 0 then throw .directive
  let (token, c) ← directiveBody (String.ofList name) c
  let c := (c.skipWhile isBlank).skipComment
  if !(c.peekAt 0).all isLineBreak then throw .directive
  return (token, c.lineBreak.2)

def outsideBlocks (s : Scanner) : Except Fault Scanner := do
  return { (← (s.unroll none).removeKey) with keyAllowed := false }

def takeMarker (s : Scanner) (t : Token) : Except Fault Scanner := do
  let s ← s.outsideBlocks
  return { s.emit t with cursor := s.cursor.skip 3 }

def takeDirective (s : Scanner) : Except Fault Scanner := do
  let s ← s.outsideBlocks
  let (t, c) ← scanDirective s.cursor
  return { s.emit t with cursor := c }

def openFlow (s : Scanner) (t : Token) : Except Fault Scanner := do
  let s ← s.saveKey
  return { s.emit t with
    cursor := s.cursor.skip 1, key := none, outerKeys := s.key :: s.outerKeys, keyAllowed := true }

def closeFlow (s : Scanner) (t : Token) : Except Fault Scanner := do
  let s ← s.removeKey
  let (key, outer) := match s.outerKeys with
    | [] => (s.key, [])
    | key :: outer => (key, outer)
  return { s.emit t with cursor := s.cursor.skip 1, key, outerKeys := outer, keyAllowed := false }

def takeFlowEntry (s : Scanner) : Except Fault Scanner := do
  let s ← s.removeKey
  return { s.emit .flowEntry with cursor := s.cursor.skip 1, keyAllowed := true }

def takeBlockEntry (s : Scanner) : Except Fault Scanner := do
  if !s.inFlow && !s.keyAllowed then throw .blockEntry
  let s ← (s.openBlock s.cursor.column s.count .blockSequenceStart).removeKey
  return { s.emit .blockEntry with cursor := s.cursor.skip 1, keyAllowed := true }

def takeKey (s : Scanner) : Except Fault Scanner := do
  if !s.inFlow && !s.keyAllowed then throw .blockKey
  let s ← (s.openBlock s.cursor.column s.count .blockMappingStart).removeKey
  return { s.emit .key with cursor := s.cursor.skip 1, keyAllowed := !s.inFlow }

/-- The colon behind a key. The word before it becomes the key if it may be one, and opens its
block; otherwise the colon belongs to a key that was marked, or to an empty one. -/
def takeValue (s : Scanner) : Except Fault Scanner := do
  match s.key with
  | some k =>
    let s := (s.insert k.position .key).openBlock k.column k.position .blockMappingStart
    return { s.emit .value with cursor := s.cursor.skip 1, key := none, keyAllowed := false }
  | none =>
    if !s.inFlow && !s.keyAllowed then throw .blockValue
    let s := s.openBlock s.cursor.column s.count .blockMappingStart
    return { s.emit .value with cursor := s.cursor.skip 1, keyAllowed := !s.inFlow }

def takeWord (s : Scanner) (scan : Cursor → Except Fault (Token × Cursor)) :
    Except Fault Scanner := do
  let s ← s.saveKey
  let (t, c) ← scan s.cursor
  return { s.emit t with cursor := c, keyAllowed := false }

def takePlain (s : Scanner) : Except Fault Scanner := do
  let s ← s.saveKey
  let c := s.cursor
  let read ← scanPlain s.inFlow s.margin (c.rest.length + 1) [] ⟨[], []⟩ c
  return { s.emit (.scalar .plain (String.ofList read.text)) with
    cursor := read.behind, keyAllowed := read.atLineStart }

def takeBlock (s : Scanner) (literal : Bool) : Except Fault Scanner := do
  let s ← s.removeKey
  let (text, c) ← scanBlock literal s.margin (s.cursor.skip 1)
  return { s.emit (.scalar (if literal then .literal else .folded) (String.ofList text)) with
    cursor := c, keyAllowed := true }

def quoted (style : ScalarStyle)
    (scan : Nat → List Char → Cursor → Except Fault (List Char × Cursor)) (c : Cursor) :
    Except Fault (Token × Cursor) := do
  let (text, c) ← scan (c.rest.length + 1) [] (c.skip 1)
  return (.scalar style (String.ofList text), c)

def named (make : String → Token) (c : Cursor) : Except Fault (Token × Cursor) := do
  let (name, c) ← anchorName (c.skip 1)
  return (make name, c)

def startsPlain (s : Scanner) (b : Char) : Bool :=
  (!isBlankOrBreak b && !"-?:,[]\x7b\x7d#&*!|>'\"%@\x60".toList.contains b) ||
    (b == '-' && !s.cursor.at? 1 isBlank) ||
    (!s.inFlow && (b == '?' || b == ':') && !s.cursor.blankAt 1)

def take (s : Scanner) (b : Char) : Except Fault Scanner :=
  let c := s.cursor
  if c.column == 0 && b == '%' then s.takeDirective
  else if c.atMarker '-' then s.takeMarker .documentStart
  else if c.atMarker '.' then s.takeMarker .documentEnd
  else if b == '[' then s.openFlow .flowSequenceStart
  else if b == '\x7b' then s.openFlow .flowMappingStart
  else if b == ']' then s.closeFlow .flowSequenceEnd
  else if b == '\x7d' then s.closeFlow .flowMappingEnd
  else if b == ',' then s.takeFlowEntry
  else if b == '-' && c.blankAt 1 then s.takeBlockEntry
  else if b == '?' && (s.inFlow || c.blankAt 1) then s.takeKey
  else if b == ':' && (s.inFlow || c.blankAt 1) then s.takeValue
  else if b == '*' then s.takeWord (named .alias)
  else if b == '&' then s.takeWord (named .anchor)
  else if b == '!' then s.takeWord (scanTag s.inFlow)
  else if b == '|' && !s.inFlow then s.takeBlock true
  else if b == '>' && !s.inFlow then s.takeBlock false
  else if b == '\'' then s.takeWord (quoted .singleQuoted scanSingleQuoted)
  else if b == '"' then s.takeWord (quoted .doubleQuoted scanDoubleQuoted)
  else if s.startsPlain b then s.takePlain
  else .error .tokenStart

/-- What the rest of the text gives: one more token, the end of the stream, or a fault. -/
inductive Step where
  | next (s : Scanner)
  | finished (s : Scanner)
  | failed (f : Fault)

def step (s : Scanner) : Step :=
  let s := s.skipMark s.cursor
  let s := skipGap (s.cursor.rest.length + 1) s
  match s.dropStaleKeys with
  | .error f => .failed f
  | .ok s =>
    let s := s.unroll (some s.cursor.column)
    match s.cursor.peek with
    | none =>
      match (s.unroll none).removeKey with
      | .ok s => .finished s
      | .error f => .failed f
    | some b =>
      match s.take b with
      | .ok s => .next s
      | .error f => .failed f

/-- The tokens that are settled when the text turns out to be faulty: those before the first word
that could still have become a key. -/
def settled (s : Scanner) : List Token :=
  let pending := (s.key :: s.outerKeys).filterMap fun key =>
    key.bind fun k => if KeyPlace.isStale k s.cursor then none else some k.position
  s.reversed.reverse.take (pending.foldl min s.count)

def run : Nat → Scanner → List Token × Option Fault
  | 0, s => (s.settled, some .tokenStart)
  | fuel + 1, s =>
    match s.step with
    | .next s => run fuel s
    | .finished s => (s.reversed.reverse, none)
    | .failed f => (s.settled, some f)

end Scanner

/-- The tokens of a text, up to its first fault. A mark of the byte order may stand in front, and
one more is skipped as white space. -/
def tokens (text : String) : List Token × Option Fault :=
  let chars := text.toList
  if !chars.all isAdmissible then ([], some .character)
  else
    let chars := if chars.head? == some '\ufeff' then chars.tail else chars
    Scanner.run (chars.length + 1) (Scanner.start chars)

end ShaderGraph.Yaml
