/-! Paths of resources. A path is shown as it was written, but two paths are the same if their
components are. -/
namespace ShaderGraph

structure ResourcePath where
  text : String
  deriving DecidableEq, Repr

def pieces : List Char → List (List Char)
  | [] => [[]]
  | '/' :: rest => [] :: pieces rest
  | c :: rest =>
    match pieces rest with
    | [] => [[c]]
    | piece :: more => (c :: piece) :: more

namespace ResourcePath

def isAbsolute (path : ResourcePath) : Bool := path.text.toList.head? == some '/'

/-- The path seen from a directory. An absolute path is the same from everywhere. -/
def join (directory path : ResourcePath) : ResourcePath :=
  if path.isAbsolute || directory.text.isEmpty then path
  else if directory.text.toList.getLast? == some '/' then ⟨directory.text ++ path.text⟩
  else ⟨directory.text ++ "/" ++ path.text⟩

/-- Empty pieces and single dots name no step. -/
def steps (cs : List Char) : List (List Char) :=
  (pieces cs).filter fun piece => piece ≠ [] ∧ piece ≠ ['.']

/-- The path with every component written once, and one slash between components. A dot in front of
a relative path is a component, any other is none. -/
def canonical (path : ResourcePath) : String :=
  let cs := path.text.toList
  let body := ['/'].intercalate (steps cs)
  if cs.head? = some '/' then String.ofList ('/' :: body)
  else if (pieces cs).head? = some ['.'] then
    String.ofList (if body.isEmpty then ['.'] else '.' :: '/' :: body)
  else String.ofList body

def same (a b : ResourcePath) : Bool := a.canonical == b.canonical

end ResourcePath

/-- The directory with one metadata document for each function. -/
def functionDirectory : ResourcePath := ⟨"graph_shader"⟩

def functionPath (function : String) : ResourcePath := functionDirectory.join ⟨function ++ ".yaml"⟩

end ShaderGraph
