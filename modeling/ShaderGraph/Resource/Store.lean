import ShaderGraph.Resource.Path
import ShaderGraph.Table

/-! Where resources are read from. Reading may change a store, which can so count what it serves. -/
namespace ShaderGraph

/-- What a file system answers to a path that it cannot read. -/
inductive FileFault where
  | notFound | notDirectory | isDirectory | nameTooLong
  deriving DecidableEq, Repr

def FileFault.message : FileFault → String
  | notFound => "No such file or directory (os error 2)"
  | notDirectory => "Not a directory (os error 20)"
  | isDirectory => "Is a directory (os error 21)"
  | nameTooLong => "File name too long (os error 36)"

inductive ReadError where
  | noDocument (path : ResourcePath)
  | file (fault : FileFault)
  | notText
  | nulInPath
  deriving DecidableEq, Repr

def ReadError.message : ReadError → String
  | noDocument path => "no document at " ++ path.text
  | file fault => fault.message
  | notText => "stream did not contain valid UTF-8"
  | nulInPath => "file name contained an unexpected NUL byte"

class ResourceStore (σ : Type) where
  read : σ → ResourcePath → Except ReadError String × σ

/-- Documents by the canonical form of their path, and the number of them served so far. -/
structure MemoryStore where
  documents : Table String String
  reads : Nat
  deriving DecidableEq, Repr

namespace MemoryStore

def empty : MemoryStore := ⟨∅, 0⟩

def insert (store : MemoryStore) (path : ResourcePath) (text : String) : MemoryStore :=
  { store with documents := store.documents.insert path.canonical text }

def insertFunction (store : MemoryStore) (function text : String) : MemoryStore :=
  store.insert (functionPath function) text

/-- Only what is served counts. -/
def read (store : MemoryStore) (path : ResourcePath) : Except ReadError String × MemoryStore :=
  match store.documents.get? path.canonical with
  | some text => (.ok text, { store with reads := store.reads + 1 })
  | none => (.error (.noDocument path), store)

instance : ResourceStore MemoryStore := ⟨read⟩

end MemoryStore
end ShaderGraph
