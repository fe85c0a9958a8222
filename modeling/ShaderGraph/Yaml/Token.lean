/-! Tokens of a text: the marks of structure, properties of nodes, and scalars. The end of the
stream is the end of the token list. -/
namespace ShaderGraph.Yaml

inductive ScalarStyle where
  | plain | singleQuoted | doubleQuoted | literal | folded
  deriving DecidableEq, Repr

/-- The name behind the handle of a tag is absent when its escapes spell no text. -/
inductive Token where
  | versionDirective (major minor : Nat)
  | tagDirective (handle expansion : String)
  | documentStart | documentEnd
  | blockSequenceStart | blockMappingStart | blockEnd
  | flowSequenceStart | flowSequenceEnd | flowMappingStart | flowMappingEnd
  | blockEntry | flowEntry | key | value
  | alias (name : String)
  | anchor (name : String)
  | tag (handle : String) (name : Option String)
  | scalar (style : ScalarStyle) (text : String)
  deriving DecidableEq, Repr

/-- What makes a text unreadable, by the place where it shows. -/
inductive Fault where
  | character | tokenStart | simpleKey | blockEntry | blockKey | blockValue
  | directive | anchorName | tagName | uriEscape | tagHandle
  | blockScalarHeader | indentation | quotedScalar | escape | flowColon
  | documentStart | nodeContent | blockSequence | blockMapping | flowSequence | flowMapping
  | unknownAnchor | depth | duplicateKey | scalarKind | wideInteger | shape
  deriving DecidableEq, Repr

end ShaderGraph.Yaml
