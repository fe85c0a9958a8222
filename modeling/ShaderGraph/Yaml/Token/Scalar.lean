import ShaderGraph.Yaml.Cursor
import ShaderGraph.Yaml.Token

/-! The text of scalars. Lines are folded: a single line break between two words reads as a
space, further breaks as themselves; `Gap` holds what stands between two words. Loops are bounded
by the length of the text, of which every round consumes a part. -/
namespace ShaderGraph.Yaml

structure Gap where
  blanks : List Char
  breaks : List Char
  deriving Repr

/-- Blanks count only if no line break follows; the first line feed of several is dropped. -/
def Gap.fold (g : Gap) : List Char :=
  match g.breaks with
  | [] => g.blanks
  | ['\n'] => [' ']
  | '\n' :: more => more
  | breaks => breaks

/-- Reads line breaks and the blanks around them. A tab left of `margin` at the start of a line is
refused; a margin of zero allows them all. -/
def Cursor.breaks (margin : Nat) : Nat → List Char → Cursor → Except Fault (List Char × Cursor)
  | 0, found, c => .ok (found, c)
  | fuel + 1, found, c =>
    let (spaces, behind) := c.span (· == ' ')
    let c := behind
    match c.peek with
    | some '\t' =>
      if c.column < margin then .error .indentation else breaks margin fuel found (c.skip 1)
    | some b =>
      if isLineBreak b then
        let (read, behind) := c.lineBreak
        breaks margin fuel (found ++ read) behind
      else if spaces.isEmpty then .ok (found, c) else breaks margin fuel found c
    | none => .ok (found, c)

def Cursor.gap (margin : Nat) (c : Cursor) : Except Fault (Gap × Cursor) :=
  let (blanks, c) := c.span isBlank
  if c.at? 0 isLineBreak then do
    let (breaks, c) ← c.breaks margin (c.rest.length + 1) []
    return (⟨[], breaks⟩, c)
  else .ok (⟨blanks, []⟩, c)

/-- A word of a plain scalar. Inside brackets it ends also at a bracket or comma, and a colon
before one of these is refused. -/
def plainWord (flow : Bool) : List Char → Except Fault (List Char)
  | [] => .ok []
  | c :: rest =>
    let next := rest.head?
    if isBlankOrBreak c then .ok []
    else if flow && c == ':' && next.any (fun n => ",?[]\x7b\x7d".toList.contains n) then
      .error .flowColon
    else if c == ':' && next.all isBlankOrBreak then .ok []
    else if flow && ",[]\x7b\x7d".toList.contains c then .ok []
    else return c :: (← plainWord flow rest)

structure PlainScalar where
  text : List Char
  behind : Cursor
  /-- Whether a line ended behind the last word, so that a key may start here. -/
  atLineStart : Bool

/-- A plain scalar goes on over lines that are indented to `margin`, or anywhere in brackets. -/
def scanPlain (flow : Bool) (margin : Nat) :
    Nat → List Char → Gap → Cursor → Except Fault PlainScalar
  | 0, text, gap, c => .ok ⟨text, c, !gap.breaks.isEmpty⟩
  | fuel + 1, text, gap, c =>
    let finished := PlainScalar.mk text c (!gap.breaks.isEmpty)
    if c.atDocumentMarker || c.peek == some '#' then .ok finished
    else do
      let word ← plainWord flow c.rest
      if word.isEmpty then return finished
      let text := text ++ gap.fold ++ word
      let c := c.skip word.length
      if !c.at? 0 isBlankOrBreak then return ⟨text, c, false⟩
      let (gap, c) ← c.gap margin
      if !flow && c.column < margin then return ⟨text, c, !gap.breaks.isEmpty⟩
      scanPlain flow margin fuel text gap c

def readHex (digits : List Char) : Option Nat :=
  digits.foldlM (fun n c => (16 * n + ·) <$> hexValue? c) 0

/-- A character given by `n` hexadecimal digits. Surrogates and numbers beyond the last character
are refused. -/
def hexEscape (n : Nat) (rest : List Char) : Except Fault (Char × Nat) :=
  let digits := rest.take n
  match if digits.length = n then readHex digits else none with
  | some code =>
    if h : code.isValidChar then .ok (Char.ofNatAux code h, n + 2) else .error .escape
  | none => .error .escape

/-- The character behind a backslash, and the length of the whole escape. -/
def escapeChar (mark : Char) (rest : List Char) : Except Fault (Char × Nat) :=
  match mark with
  | '0' => .ok ('\x00', 2)
  | 'a' => .ok ('\x07', 2)
  | 'b' => .ok ('\x08', 2)
  | 't' | '\t' => .ok ('\t', 2)
  | 'n' => .ok ('\n', 2)
  | 'v' => .ok ('\x0b', 2)
  | 'f' => .ok ('\x0c', 2)
  | 'r' => .ok ('\r', 2)
  | 'e' => .ok ('\x1b', 2)
  | ' ' => .ok (' ', 2)
  | '"' => .ok ('"', 2)
  | '/' => .ok ('/', 2)
  | '\\' => .ok ('\\', 2)
  | 'N' => .ok ('\u0085', 2)
  | '_' => .ok ('\u00a0', 2)
  | 'L' => .ok ('\u2028', 2)
  | 'P' => .ok ('\u2029', 2)
  | 'x' => hexEscape 2 rest
  | 'u' => hexEscape 4 rest
  | 'U' => hexEscape 8 rest
  | _ => .error .escape

def scanDoubleQuoted : Nat → List Char → Cursor → Except Fault (List Char × Cursor)
  | 0, _, _ => .error .quotedScalar
  | fuel + 1, text, c =>
    if c.atDocumentMarker then .error .quotedScalar
    else match c.rest with
      | [] => .error .quotedScalar
      | '"' :: _ => .ok (text, c.skip 1)
      | ['\\'] => .error .escape
      | '\\' :: mark :: rest =>
        if isLineBreak mark then do
          let (_, c) := (c.skip 1).lineBreak
          let (breaks, c) ← c.breaks 0 (c.rest.length + 1) []
          scanDoubleQuoted fuel (text ++ breaks) c
        else do
          let (decoded, length) ← escapeChar mark rest
          scanDoubleQuoted fuel (text ++ [decoded]) (c.skip length)
      | b :: _ =>
        if isBlankOrBreak b then do
          let (gap, c) ← c.gap 0
          scanDoubleQuoted fuel (text ++ gap.fold) c
        else
          let (run, c) := c.span fun x => !isBlankOrBreak x && x != '"' && x != '\\'
          scanDoubleQuoted fuel (text ++ run) c

/-- A scalar in single quotes, from behind its opening quote; a quote written twice is one. -/
def scanSingleQuoted : Nat → List Char → Cursor → Except Fault (List Char × Cursor)
  | 0, _, _ => .error .quotedScalar
  | fuel + 1, text, c =>
    if c.atDocumentMarker then .error .quotedScalar
    else match c.rest with
      | [] => .error .quotedScalar
      | '\'' :: '\'' :: _ => scanSingleQuoted fuel (text ++ ['\'']) (c.skip 2)
      | '\'' :: _ => .ok (text, c.skip 1)
      | b :: _ =>
        if isBlankOrBreak b then do
          let (gap, c) ← c.gap 0
          scanSingleQuoted fuel (text ++ gap.fold) c
        else
          let (run, c) := c.span fun x => !isBlankOrBreak x && x != '\''
          scanSingleQuoted fuel (text ++ run) c

inductive Chomping where
  | strip | clip | keep
  deriving DecidableEq, Repr

def chomping? (c : Cursor) : Option Chomping :=
  match c.peek with
  | some '+' => some .keep
  | some '-' => some .strip
  | _ => none

/-- An indentation indicator is a digit other than zero. -/
def indentIndicator (c : Cursor) : Except Fault (Option Nat) :=
  match c.peek with
  | some d =>
    if d == '0' then .error .blockScalarHeader
    else if d.isDigit then .ok (some (d.toNat - '0'.toNat))
    else .ok none
  | none => .ok none

/-- The two indicators of a block scalar, in either order. -/
def blockHeader (c : Cursor) : Except Fault (Chomping × Option Nat × Cursor) :=
  match chomping? c with
  | some chomp => do
    let c := c.skip 1
    match ← indentIndicator c with
    | some n => return (chomp, some n, c.skip 1)
    | none => return (chomp, none, c)
  | none => do
    match ← indentIndicator c with
    | none => return (.clip, none, c)
    | some n =>
      let c := c.skip 1
      match chomping? c with
      | some chomp => return (chomp, some n, c.skip 1)
      | none => return (.clip, some n, c)

/-- Empty lines of a block scalar whose indentation is known, or is still to be found from the
deepest of them. Gives the breaks, the widest indentation seen, and the place of the next line. -/
def blockBreaks (indent : Option Nat) : Nat → List Char → Nat → Cursor →
    Except Fault (List Char × Nat × Cursor)
  | 0, found, deepest, c => .ok (found, deepest, c)
  | fuel + 1, found, deepest, c =>
    let spaces := (c.rest.takeWhile (· == ' ')).length
    let c := c.skip <| match indent with
      | some n => min spaces (n - c.column)
      | none => spaces
    let deepest := max deepest c.column
    if c.peek == some '\t' && indent.all (c.column < ·) then .error .indentation
    else if c.at? 0 isLineBreak then
      let (read, c) := c.lineBreak
      blockBreaks indent fuel (found ++ read) deepest c
    else .ok (found, deepest, c)

/-- The lines of a block scalar that stand at `indent`. In a folded scalar the break between two
lines that start with no blank reads as a space. `leading` is the break before this line and
`empties` the empty lines after it; the two are returned for the end of the scalar. -/
def blockLines (literal : Bool) (indent : Nat) : Nat → (text leading empties : List Char) →
    (afterBlank : Bool) → Cursor → Except Fault (List Char × List Char × List Char × Cursor)
  | 0, text, leading, empties, _, c => .ok (text, leading, empties, c)
  | fuel + 1, text, leading, empties, afterBlank, c =>
    if c.column == indent && !c.rest.isEmpty then do
      let startsBlank := c.at? 0 isBlank
      let joint :=
        if !literal && leading == ['\n'] && !afterBlank && !startsBlank then
          if empties.isEmpty then [' '] else []
        else leading
      let (line, c) := c.span fun x => !isLineBreak x
      let text := text ++ joint ++ empties ++ line
      let (leading, c) := c.lineBreak
      let (empties, _, c) ← blockBreaks (some indent) (c.rest.length + 1) [] 0 c
      blockLines literal indent fuel text leading empties startsBlank c
    else .ok (text, leading, empties, c)

/-- A block scalar, from behind its indicator. `margin` is the first column inside the block that
surrounds it. -/
def scanBlock (literal : Bool) (margin : Nat) (c : Cursor) : Except Fault (List Char × Cursor) := do
  let (chomp, indicator, c) ← blockHeader c
  let c := (c.skipWhile isBlank).skipComment
  if !(c.peekAt 0).all isLineBreak then throw .blockScalarHeader
  let (_, c) := c.lineBreak
  let known := indicator.map (margin - 1 + ·)
  let (empties, deepest, c) ← blockBreaks known (c.rest.length + 1) [] 0 c
  let indent := known.getD (max (max deepest margin) 1)
  let (text, leading, empties, c) ←
    blockLines literal indent (c.rest.length + 1) [] [] empties false c
  let kept := match chomp with
    | .strip => []
    | .clip => leading
    | .keep => leading ++ empties
  return (text ++ kept, c)

end ShaderGraph.Yaml
