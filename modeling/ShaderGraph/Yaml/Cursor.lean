/-! Places in a text and the character classes that decide where its tokens end. A `Cursor`
is the text still to be read together with its place; every movement keeps the two in step. -/
namespace ShaderGraph.Yaml

def isLineBreak (c : Char) : Bool :=
  c == '\n' || c == '\r' || c == '\u0085' || c == '\u2028' || c == '\u2029'

def isBlank (c : Char) : Bool := c == ' ' || c == '\t'

def isBlankOrBreak (c : Char) : Bool := isBlank c || isLineBreak c

/-- Letters of anchors, handles and directive names. -/
def isWordChar (c : Char) : Bool := c.isAlphanum || c == '_' || c == '-'

def hexValue? (c : Char) : Option Nat :=
  if '0' ≤ c ∧ c ≤ '9' then some (c.toNat - '0'.toNat)
  else if 'a' ≤ c ∧ c ≤ 'f' then some (c.toNat - 'a'.toNat + 10)
  else if 'A' ≤ c ∧ c ≤ 'F' then some (c.toNat - 'A'.toNat + 10)
  else none

def isAdmissible (c : Char) : Bool :=
  let n := c.toNat
  n == 0x09 || n == 0x0A || n == 0x0D || (0x20 ≤ n && n ≤ 0x7E) || n == 0x85 ||
    (0xA0 ≤ n && n ≤ 0xD7FF) || (0xE000 ≤ n && n ≤ 0xFFFD) || 0x10000 ≤ n

structure Cursor where
  rest : List Char
  index : Nat
  line : Nat
  column : Nat
  deriving Repr

namespace Cursor

def start (text : List Char) : Cursor := ⟨text, 0, 0, 0⟩

def peek (c : Cursor) : Option Char := c.rest.head?

def peekAt (c : Cursor) (n : Nat) : Option Char := c.rest[n]?

def at? (c : Cursor) (n : Nat) (p : Char → Bool) : Bool := (c.peekAt n).any p

/-- The end of the text counts as a blank. -/
def blankAt (c : Cursor) (n : Nat) : Bool := (c.peekAt n).all isBlankOrBreak

def skip (c : Cursor) (n : Nat) : Cursor :=
  ⟨c.rest.drop n, c.index + n, c.line, c.column + n⟩

/-- The longest run of characters with `p` on this line, and the place behind it. -/
def span (c : Cursor) (p : Char → Bool) : List Char × Cursor :=
  let (run, rest) := c.rest.span p
  (run, ⟨rest, c.index + run.length, c.line, c.column + run.length⟩)

def skipWhile (c : Cursor) (p : Char → Bool) : Cursor := (c.span p).2

/-- Moves over one line break, if there is one here, and gives the text it stands for:
all breaks read as a line feed, the two separators of paragraphs and lines as themselves. -/
def lineBreak (c : Cursor) : List Char × Cursor :=
  match c.rest with
  | '\r' :: '\n' :: rest => (['\n'], ⟨rest, c.index + 2, c.line + 1, 0⟩)
  | '\u2028' :: rest => (['\u2028'], ⟨rest, c.index + 1, c.line + 1, 0⟩)
  | '\u2029' :: rest => (['\u2029'], ⟨rest, c.index + 1, c.line + 1, 0⟩)
  | b :: rest => if isLineBreak b then (['\n'], ⟨rest, c.index + 1, c.line + 1, 0⟩) else ([], c)
  | [] => ([], c)

/-- Three equal marks at the start of a line, before a blank, bound a document. -/
def atMarker (c : Cursor) (mark : Char) : Bool :=
  c.column == 0 && c.rest.take 3 == [mark, mark, mark] && c.blankAt 3

def atDocumentMarker (c : Cursor) : Bool := c.atMarker '-' || c.atMarker '.'

def skipComment (c : Cursor) : Cursor :=
  if c.peek == some '#' then c.skipWhile (fun b => !isLineBreak b) else c

end Cursor
end ShaderGraph.Yaml
