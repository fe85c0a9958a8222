import ShaderGraph.Function.Metadata
import ShaderGraph.Resource.Store
import ShaderGraph.Run

/-! A library of functions over a store of resources. What was read once is kept, whatever happens
to the store; what could not be read is asked for again. -/
namespace ShaderGraph

/-- Sources are kept by the canonical form of their path. -/
structure Library (σ : Type) where
  store : σ
  signatures : Table String Signature
  sources : Table String String

inductive LibraryError where
  | read (function : String) (path : ResourcePath) (cause : ReadError)
  | malformed (function : String) (cause : Yaml.Error)
  | source (function : String) (path : ResourcePath) (cause : ReadError)
  deriving Repr

def LibraryError.message : LibraryError → String
  | read function path cause =>
    "Could not read metadata of function `" ++ function ++ "` from " ++ path.text ++ ": " ++
      cause.message
  | malformed function cause =>
    "Malformed metadata for function `" ++ function ++ "`: " ++ cause.message
  | source function path cause =>
    "Could not read source `" ++ path.text ++ "` of function `" ++ function ++ "`: " ++
      cause.message

namespace Library

def ofStore (store : σ) : Library σ := ⟨store, ∅, ∅⟩

def cached (library : Library σ) : Nat := library.signatures.size

variable [ResourceStore σ]

/-- The signature of a function, read from its metadata the first time. -/
def load (function : String) : Run (Library σ) LibraryError Signature := fun library =>
  match library.signatures.get? function with
  | some signature => ⟨.ok signature, library, []⟩
  | none =>
    let path := functionPath function
    let log := [.loadingFunction function path]
    match ResourceStore.read library.store path with
    | (.error cause, store) => ⟨.error (.read function path cause), { library with store }, log⟩
    | (.ok text, store) =>
      match Signature.parse function text with
      | .error cause => ⟨.error (.malformed function cause), { library with store }, log⟩
      | .ok signature =>
        let signatures := library.signatures.insert function signature
        ⟨.ok signature, { library with store, signatures }, log⟩

def loadSource (function : String) (path : ResourcePath) :
    Run (Library σ) LibraryError String := fun library =>
  match library.sources.get? path.canonical with
  | some text => ⟨.ok text, library, []⟩
  | none =>
    let log := [.loadingSource function path]
    match ResourceStore.read library.store path with
    | (.error cause, store) => ⟨.error (.source function path cause), { library with store }, log⟩
    | (.ok text, store) =>
      let sources := library.sources.insert path.canonical text
      ⟨.ok text, { library with store, sources }, log⟩

end Library
end ShaderGraph
