import ShaderGraph.Text
import ShaderGraph.Yaml.Cursor
import ShaderGraph.Yaml.Error
import ShaderGraph.Yaml.Scalar

/-! Values written as block style text, one entry or item to a line. Each block is two columns
deeper than the one around it, but a sequence that is the value of an entry stands at the entry's
own column. Lines are not folded. -/
namespace ShaderGraph.Yaml

/-- Text written so far, with the column reached. `blank` tells that white space or nothing was
written last, `indention` that the line holds only indentation and marks of structure. -/
structure Pen where
  text : String
  column : Nat
  blank : Bool
  indention : Bool

namespace Pen

def start : Pen := ⟨"", 0, true, true⟩

def put (p : Pen) (c : Char) : Pen := { p with text := p.text.push c, column := p.column + 1 }

def putAll (p : Pen) (s : String) : Pen :=
  { p with text := p.text ++ s, column := p.column + s.length }

def newLine (p : Pen) : Pen := { p with text := p.text.push '\n', column := 0 }

def indent (p : Pen) (n : Nat) : Pen :=
  let p := if !p.indention || n < p.column || (p.column == n && !p.blank) then p.newLine else p
  let p := p.putAll (String.ofList (List.replicate (n - p.column) ' '))
  { p with blank := true, indention := true }

def separate (p : Pen) : Pen := if p.blank then p else p.put ' '

/-- A mark of structure. One that needs no space before it ends a scalar or a key. -/
def mark (p : Pen) (s : String) (spaced indention : Bool) : Pen :=
  let p := (if spaced then p.separate else p).putAll s
  { p with blank := false, indention := p.indention && indention }

def word (p : Pen) (s : String) : Pen :=
  { p.separate.putAll s with blank := false, indention := false }

def lineBreak (p : Pen) (c : Char) : Pen :=
  let p := if c == '\n' then p.newLine else { p with text := p.text.push c, column := 0 }
  { p with indention := true }

end Pen

def isPlainPrintable (c : Char) : Bool :=
  let n := c.toNat
  n == 0x0a || (0x20 ≤ n && n ≤ 0x7e) || (0xa0 ≤ n && n ≤ 0xd7ff) ||
    (0xe000 ≤ n && n ≤ 0xfffd && n != 0xfeff)

structure ScalarTraits where
  multiline : Bool
  plainAllowed : Bool
  singleAllowed : Bool
  blockAllowed : Bool
  deriving DecidableEq, Repr

def isIndicator (first afterBlank beforeBlank : Bool) (c : Char) : Bool :=
  if first then
    "#,[]\x7b\x7d&*!|>'\"%@\x60".toList.contains c || ("?:-".toList.contains c && beforeBlank)
  else (c == ':' && beforeBlank) || (c == '#' && afterBlank)

def hasIndicator : (first afterBlank : Bool) → List Char → Bool
  | _, _, [] => false
  | first, afterBlank, c :: rest =>
    isIndicator first afterBlank (rest.head?.all isBlankOrBreak) c ||
      hasIndicator false (isBlankOrBreak c) rest

def adjacent (p q : Char → Bool) : List Char → Bool
  | a :: b :: rest => (p a && q b) || adjacent p q (b :: rest)
  | _ => false

def traits (text : List Char) : ScalarTraits :=
  if text.isEmpty then ⟨false, true, true, false⟩
  else
    let isSpace := (· == ' ')
    let breaks := text.any isLineBreak
    let bare := fun c => isSpace c || isLineBreak c
    let edges := text.head?.any bare || text.getLast?.any bare
    let breakSpace := adjacent isLineBreak isSpace text
    let special := adjacent isSpace isLineBreak text || !text.all isPlainPrintable
    let markers := ["---".toList, "...".toList].contains (text.take 3)
    { multiline := breaks
      plainAllowed := !(edges || breakSpace || special || breaks || markers ||
        hasIndicator true true text)
      singleAllowed := !(breakSpace || special)
      blockAllowed := !(text.getLast?.any isSpace || special) }

/-- The style that keeps a string a string when it is read again. -/
def styleOfString (text : String) : ScalarStyle :=
  if text.contains '\n' then .literal
  else if Scalar.isPaddedDigits text then .singleQuoted
  else match Scalar.resolve text with
    | .ok (.string _) => .plain
    | _ => .singleQuoted

/-- Falls back to quotes where the wanted style cannot spell the text, and to double quotes where
single ones cannot. Keys stay on one line. -/
def allowedStyle (wanted : ScalarStyle) (text : List Char) (isKey : Bool) : ScalarStyle :=
  let t := traits text
  let wanted := if isKey && t.multiline then .doubleQuoted else wanted
  let wanted := if wanted = .plain && (!t.plainAllowed || (text.isEmpty && isKey))
    then .singleQuoted else wanted
  if wanted = .singleQuoted && !t.singleAllowed then .doubleQuoted
  else if wanted = .literal && (!t.blockAllowed || isKey) then .doubleQuoted
  else wanted

def hexDigits (width n : Nat) : String :=
  let digits := (Nat.toDigits 16 n).map Char.toUpper
  String.ofList (List.replicate (width - digits.length) '0' ++ digits)

def escaped (c : Char) : String :=
  match c with
  | '\x00' => "\\0" | '\x07' => "\\a" | '\x08' => "\\b" | '\t' => "\\t" | '\n' => "\\n"
  | '\x0b' => "\\v" | '\x0c' => "\\f" | '\r' => "\\r" | '\x1b' => "\\e" | '"' => "\\\""
  | '\\' => "\\\\" | '\u0085' => "\\N" | '\u2028' => "\\L" | '\u2029' => "\\P"
  | c =>
    if isPlainPrintable c then c.toString
    else if c.toNat ≤ 0xff then "\\x" ++ hexDigits 2 c.toNat
    else if c.toNat ≤ 0xffff then "\\u" ++ hexDigits 4 c.toNat
    else "\\U" ++ hexDigits 8 c.toNat

def writeDoubleQuoted (p : Pen) (text : List Char) : Pen :=
  let p := p.mark "\"" true false
  (text.foldl (fun p c => p.putAll (escaped c)) p).mark "\"" false false

def writeSingleChars (column : Nat) : (afterBreak : Bool) → List Char → Pen → Pen
  | afterBreak, [], p => if afterBreak then p.indent column else p
  | afterBreak, c :: rest, p =>
    if c == ' ' then writeSingleChars column afterBreak rest (p.put c)
    else if isLineBreak c then
      let p := if !afterBreak && c == '\n' then p.newLine else p
      writeSingleChars column true rest (p.lineBreak c)
    else
      let p := if afterBreak then p.indent column else p
      let p := if c == '\'' then p.put c else p
      writeSingleChars column false rest { p.put c with indention := false }

def writeSingleQuoted (column : Nat) (p : Pen) (text : List Char) : Pen :=
  (writeSingleChars column false text (p.mark "'" true false)).mark "'" false false

/-- The indentation is given if the text starts with a blank; the ending tells how many of the line
breaks at the end belong to the text. -/
def literalHeader (text : List Char) : String :=
  let hint := if text.head?.any (fun c => c == ' ' || isLineBreak c) then "2" else ""
  let ending := match text.reverse with
    | a :: b :: _ => if !isLineBreak a then "-" else if isLineBreak b then "+" else ""
    | [a] => if isLineBreak a then "+" else "-"
    | [] => "-"
  "|" ++ hint ++ ending

def writeLines (column : Nat) : (afterBreak : Bool) → List Char → Pen → Pen
  | _, [], p => p
  | afterBreak, c :: rest, p =>
    if isLineBreak c then writeLines column true rest (p.lineBreak c)
    else
      let p := if afterBreak then p.indent column else p
      writeLines column false rest { p.put c with indention := false }

def writeLiteral (column : Nat) (p : Pen) (text : List Char) : Pen :=
  let p := (p.mark (literalHeader text) true false).newLine
  writeLines column true text { p with blank := true, indention := true }

def writeScalar (column : Nat) (isKey : Bool) (wanted : ScalarStyle) (text : String) (p : Pen) :
    Pen :=
  match allowedStyle wanted text.toList isKey with
  | .singleQuoted => writeSingleQuoted column p text.toList
  | .doubleQuoted => writeDoubleQuoted p text.toList
  | .literal => writeLiteral column p text.toList
  | _ => p.word text

def Number.written : Number → String
  | .int n => toString n
  | .float x =>
    if x.isFinite then signText x.isNegative ++ (x.shortest .even).scientific
    else x.specialName ⟨".nan", ".inf", "-.inf"⟩

def Value.scalarText? : Value → Option (ScalarStyle × String)
  | .null => some (.plain, "null")
  | .bool b => some (.plain, toString b)
  | .number n => some (.plain, n.written)
  | .string s => some (styleOfString s, s)
  | _ => none

def isTagText (c : Char) : Bool := isWordChar c || ";/?:@&=+$,.~*'()[]".toList.contains c

def tagText (tag : String) : String :=
  String.join <| tag.toList.map fun c =>
    if isTagText c then c.toString
    else String.join (c.toString.toUTF8.toList.map fun octet => "%" ++ hexDigits 2 octet.toNat)

def writeTag (tag : Option String) (p : Pen) : Pen :=
  match tag with
  | some tag => p.word ("!" ++ tagText tag)
  | none => p

/-- A key is simple if it fits on its line before the colon: an empty collection, or a scalar
without line breaks, of at most 128 bytes together with its tag. -/
def isSimpleKey (tag : Option String) : Value → Bool
  | .tagged tag v => isSimpleKey (some tag) v
  | v =>
    let tagSize := (tag.map fun t => 1 + t.utf8ByteSize).getD 0
    match v.scalarText? with
    | some (_, text) =>
      !(text.toList.any isLineBreak) && tagSize + text.utf8ByteSize ≤ 128
    | none =>
      match v with
      | .sequence items => items.isEmpty && tagSize ≤ 128
      | .mapping entries => entries.isEmpty && tagSize ≤ 128
      | _ => false

def deeper (column : Option Nat) : Nat :=
  match column with
  | some n => n + 2
  | none => 0

/-- A mapping with one entry is written as a tag if its key is one. A key that is itself a tagged
value or a mapping of one entry cannot be told from this. -/
def hidesItsKey : Value → Bool
  | .tagged _ _ => true
  | .mapping [_] => true
  | _ => false

mutual

/-- Writes a value that stands in a block at `column`, or at the top. Nothing is written for one
that holds a key which cannot be told from a tag. -/
def writeNode (tag : Option String) (column : Option Nat) (inMapping isKey : Bool) :
    Value → Pen → Option Pen
  | .tagged tag v, p => writeNode (some tag) column inMapping isKey v p
  | .sequence [], p =>
    let p := (writeTag tag p).mark "[" true false
    some ({ p with blank := true }.mark "]" false false)
  | .mapping [], p =>
    let p := (writeTag tag p).mark "\x7b" true false
    some ({ p with blank := true }.mark "\x7d" false false)
  | .sequence items, p =>
    let p := writeTag tag p
    let inner := match column with
      | some n => if inMapping && !p.indention then n else n + 2
      | none => 0
    writeItems inner items p
  | .mapping entries, p =>
    if tag.isNone && entries.length == 1 && entries.any (fun entry => hidesItsKey entry.1) then none
    else writeEntries (deeper column) entries (writeTag tag p)
  | v, p =>
    let p := writeTag tag p
    let inner := (column.map (· + 2)).getD 2
    (v.scalarText?).map fun (style, text) => writeScalar inner isKey style text p

def writeItems (column : Nat) : List Value → Pen → Option Pen
  | [], p => some p
  | v :: rest, p => do
    let p ← writeNode none (some column) false false v ((p.indent column).mark "-" true true)
    writeItems column rest p

def writeEntries (column : Nat) : List (Value × Value) → Pen → Option Pen
  | [], p => some p
  | (key, value) :: rest, p => do
    let p := p.indent column
    let p ← if isSimpleKey none key then do
        let p ← writeNode none (some column) true true key p
        writeNode none (some column) true false value (p.mark ":" false false)
      else do
        let p ← writeNode none (some column) true false key (p.mark "?" true true)
        writeNode none (some column) true false value ((p.indent column).mark ":" true true)
    writeEntries column rest p

end

def Value.write? (v : Value) : Option String :=
  (writeNode none none false false v .start).map (·.text)

def commaSeparated (parts : List String) : String := ", ".intercalate parts

mutual

def Value.inspect : Value → String
  | .null => "Null"
  | .bool b => "Bool(" ++ toString b ++ ")"
  | .number n => "Number(" ++ n.written ++ ")"
  | .string s => "String(" ++ Text.quoted s ++ ")"
  | .sequence items => "Sequence [" ++ commaSeparated (inspectItems items) ++ "]"
  | .mapping entries => "Mapping \x7b" ++ commaSeparated (inspectEntries entries) ++ "\x7d"
  | .tagged tag v => "TaggedValue \x7b tag: !" ++ tag ++ ", value: " ++ v.inspect ++ " \x7d"

def inspectItems : List Value → List String
  | [] => []
  | v :: rest => v.inspect :: inspectItems rest

def inspectEntries : List (Value × Value) → List String
  | [] => []
  | (key, value) :: rest =>
    let name := match key with
      | .bool b => toString b
      | .number n => n.written
      | .string s => Text.quoted s
      | key => key.inspect
    (name ++ ": " ++ value.inspect) :: inspectEntries rest

end

/-- A value as messages quote it: written, without white space at its end, or else as a term. -/
def Value.display (v : Value) : String :=
  match v.write? with
  | some text => Text.trimEnd text
  | none => v.inspect

end ShaderGraph.Yaml
