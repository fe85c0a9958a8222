import ShaderGraph.Resource.Store

/-! A file system as a value, and a store that reads from a directory in it. -/
namespace ShaderGraph

inductive FileTree where
  | file (contents : ByteArray)
  | directory (entries : List (String × FileTree))

namespace FileTree

def entries : FileTree → List (String × FileTree)
  | file _ => []
  | directory entries => entries

/-- Puts a tree at the end of a chain of names. Directories that are missing are made, and a
directory that is there already stays as it is. -/
def put (content : FileTree) : (names : List String) → FileTree → FileTree
  | [], directory entries =>
    match content with
    | file contents => file contents
    | directory _ => directory entries
  | [], file _ => content
  | name :: rest, tree =>
    let child := (tree.entries.lookup name).getD (directory [])
    directory ((name, put content rest child) :: tree.entries.filter (·.1 ≠ name))

def write (tree : FileTree) (path : ResourcePath) (content : FileTree) : FileTree :=
  put content ((ResourcePath.steps path.text.toList).map String.ofList) tree

/-- The longest name of a file, in bytes. -/
def nameLimit : Nat := 255

/-- The longest path, in bytes. -/
def pathLimit : Nat := 4095

/-- Follows the pieces of a path. Only directories can be walked through, also by a piece that names
no step. -/
def follow : (ancestors : List FileTree) → FileTree → List String → Except FileFault FileTree
  | _, tree, [] => .ok tree
  | _, file _, _ :: _ => .error .notDirectory
  | ancestors, directory entries, piece :: rest =>
    if piece = "" ∨ piece = "." then follow ancestors (directory entries) rest
    else if piece = ".." then
      match ancestors with
      | [] => follow [] (directory entries) rest
      | parent :: above => follow above parent rest
    else if nameLimit < piece.utf8ByteSize then .error .nameTooLong
    else
      match entries.lookup piece with
      | none => .error .notFound
      | some child => follow (directory entries :: ancestors) child rest

/-- What stands at a path from the root. The directory of relative paths is not known, and taken to
be empty. -/
def find (root : FileTree) (path : ResourcePath) : Except FileFault FileTree :=
  if path.text.isEmpty then .error .notFound
  else if pathLimit < path.text.utf8ByteSize then .error .nameTooLong
  else
    let start := if path.isAbsolute then root else directory []
    follow [] start ((pieces path.text.toList).map String.ofList)

def readText (root : FileTree) (path : ResourcePath) : Except ReadError String :=
  if path.text.toList.contains '\x00' then .error .nulInPath
  else
    match root.find path with
    | .error fault => .error (.file fault)
    | .ok (.directory _) => .error (.file .isDirectory)
    | .ok (.file contents) =>
      match String.fromUTF8? contents with
      | some text => .ok text
      | none => .error .notText

end FileTree

structure DirectoryStore where
  root : ResourcePath
  files : FileTree

/-- The store of a resource path: what lies in its directory of resources. -/
def DirectoryStore.ofResourcePath (files : FileTree) (path : ResourcePath) : DirectoryStore :=
  ⟨path.join ⟨"resources"⟩, files⟩

instance : ResourceStore DirectoryStore :=
  ⟨fun store path => (store.files.readText (store.root.join path), store)⟩

end ShaderGraph
