import ShaderGraph.Proofs.Function.Library
import ShaderGraph.Resource.FileTree

/-! Libraries over stores whose answers stay. Such a library comes to the same signatures whatever it
has loaded before, and it comes to the same sources, but for those that it keeps from a path that was
spelled otherwise. -/
namespace ShaderGraph

/-- A store that gives one answer about a path, whatever else it is asked in between. -/
class SteadyStore (σ : Type) [ResourceStore σ] : Prop where
  steady : ∀ (store : σ) (other path : ResourcePath),
    (ResourceStore.read (ResourceStore.read store other).2 path).1 =
      (ResourceStore.read store path).1

theorem MemoryStore.documents_read (store : MemoryStore) (path : ResourcePath) :
    (store.read path).2.documents = store.documents := by
  rw [read]
  split <;> rfl

theorem MemoryStore.read_congr {first second : MemoryStore}
    (same : first.documents = second.documents) (path : ResourcePath) :
    (first.read path).1 = (second.read path).1 := by
  rw [read, read, same]
  cases second.documents.get? path.canonical <;> rfl

instance : SteadyStore MemoryStore where
  steady store other path := MemoryStore.read_congr (store.documents_read other) path

instance : SteadyStore DirectoryStore := ⟨fun _ _ _ => rfl⟩

namespace Library

/-- The source at a path is kept, however the path was spelled. -/
def Holds (library : Library σ) (path : ResourcePath) : Prop :=
  (library.sources.get? path.canonical).isSome

theorem holds_of_canonical_eq {library : Library σ} {path other : ResourcePath}
    (same : path.canonical = other.canonical) : library.Holds path ↔ library.Holds other := by
  rw [Holds, Holds, same]

variable [ResourceStore σ]

/-- The signature that a function has, loaded or not. -/
def signature? (library : Library σ) (function : String) : Option Signature :=
  (load function library).result.toOption

def source? (library : Library σ) (function : String) : Option ResourcePath :=
  (library.signature? function).bind fun signature => signature.source.map ResourcePath.mk

def Readable (library : Library σ) (path : ResourcePath) : Prop :=
  ∃ text, (ResourceStore.read library.store path).1 = .ok text

variable {library final : Library σ} {function : String} {path : ResourcePath}

theorem signature?_of_get? {signature : Signature}
    (kept : library.signatures.get? function = some signature) :
    library.signature? function = some signature := by
  simp [signature?, load, kept, Except.toOption]

theorem signature?_of_absent (absent : library.signatures.get? function = none) :
    library.signature? function =
      (ResourceStore.read library.store (functionPath function)).1.toOption.bind fun text =>
        (Signature.parse function text).toOption := by
  simp only [signature?, load, absent]
  cases ResourceStore.read library.store (functionPath function) with
  | mk answer store =>
    cases answer with
    | error cause => rfl
    | ok text => cases parsed : Signature.parse function text <;> simp [parsed, Except.toOption]

theorem state_load_of_absent (absent : library.signatures.get? function = none) :
    (load function library).state =
      { library with
        store := (ResourceStore.read library.store (functionPath function)).2
        signatures := match library.signature? function with
          | some signature => library.signatures.insert function signature
          | none => library.signatures } := by
  rw [signature?_of_absent absent]
  simp only [load, absent]
  cases ResourceStore.read library.store (functionPath function) with
  | mk answer store =>
    cases answer with
    | error cause => rfl
    | ok text => cases parsed : Signature.parse function text <;> simp [parsed, Except.toOption]

theorem loadSource_of_absent (absent : library.sources.get? path.canonical = none) :
    (loadSource function path library).result =
        (ResourceStore.read library.store path).1.mapError (.source function path) ∧
      (loadSource function path library).state =
        { library with
          store := (ResourceStore.read library.store path).2
          sources := match (ResourceStore.read library.store path).1 with
            | .ok text => library.sources.insert path.canonical text
            | .error _ => library.sources } := by
  simp only [loadSource, absent]
  cases ResourceStore.read library.store path with
  | mk answer store => cases answer <;> exact ⟨rfl, rfl⟩

theorem loadSource_of_get? {text : String} (kept : library.sources.get? path.canonical = some text) :
    loadSource function path library = ⟨.ok text, library, []⟩ := by
  simp only [loadSource, kept]

/-- What a library comes to by loads: it has the same signatures, and its store the same answers. -/
structure Since (start now : Library σ) : Prop where
  signature : ∀ function, now.signature? function = start.signature? function
  read : ∀ path, (ResourceStore.read now.store path).1 = (ResourceStore.read start.store path).1

namespace Since

variable {start middle now : Library σ}

theorem refl (library : Library σ) : library.Since library := ⟨fun _ => rfl, fun _ => rfl⟩

theorem trans (early : start.Since middle) (late : middle.Since now) : start.Since now :=
  ⟨fun function => (late.signature function).trans (early.signature function),
    fun path => (late.read path).trans (early.read path)⟩

theorem readable (since : start.Since now) (path : ResourcePath) :
    now.Readable path ↔ start.Readable path := by
  rw [Readable, Readable, since.read]

theorem source? (since : start.Since now) (function : String) :
    now.source? function = start.source? function := by
  rw [Library.source?, Library.source?, since.signature]

/-- A library has the signatures that it keeps, and else those that its store describes. -/
theorem of_store (library : Library σ) (store : σ) (sources : Table String String)
    (same : ∀ path, (ResourceStore.read store path).1 = (ResourceStore.read library.store path).1) :
    library.Since { library with store, sources } := by
  refine ⟨fun function => ?_, same⟩
  let later : Library σ := { library with store, sources }
  have kept : later.signatures.get? function = library.signatures.get? function := rfl
  change later.signature? function = library.signature? function
  cases here : library.signatures.get? function with
  | some signature => rw [signature?_of_get? here, signature?_of_get? (kept.trans here)]
  | none =>
    rw [signature?_of_absent here, signature?_of_absent (kept.trans here)]
    exact congrArg (fun answer => Option.bind answer.toOption _) (same _)

/-- It makes no difference whether a signature is kept or can be loaded. -/
theorem insert {signature : Signature} (found : library.signature? function = some signature) :
    library.Since { library with signatures := library.signatures.insert function signature } := by
  refine ⟨fun other => ?_, fun _ => rfl⟩
  by_cases same : other = function
  · subst same
    rw [found]
    exact signature?_of_get? ((Table.get?_insert ..).trans (if_pos rfl))
  · have kept : (library.signatures.insert function signature).get? other =
        library.signatures.get? other := (Table.get?_insert ..).trans (if_neg same)
    cases here : library.signatures.get? other with
    | some known => rw [signature?_of_get? here, signature?_of_get? (kept.trans here)]
    | none => rw [signature?_of_absent here, signature?_of_absent (kept.trans here)]

variable [SteadyStore σ]

theorem of_load (function : String) (library : Library σ) :
    library.Since (load function library).state := by
  cases absent : library.signatures.get? function with
  | some signature =>
    simp only [load, absent]
    exact refl library
  | none =>
    rw [state_load_of_absent absent]
    have asked := of_store library _ library.sources
      (SteadyStore.steady library.store (functionPath function))
    cases found : library.signature? function with
    | none => exact asked
    | some signature => exact asked.trans (insert ((asked.signature function).trans found))

theorem of_loadSource (function : String) (path : ResourcePath) (library : Library σ) :
    library.Since (loadSource function path library).state := by
  cases absent : library.sources.get? path.canonical with
  | some text =>
    rw [loadSource_of_get? absent]
    exact refl library
  | none =>
    rw [(loadSource_of_absent absent).2]
    exact of_store library _ _ (SteadyStore.steady library.store path)

end Since

theorem signature?_of_returns {signature : Signature}
    (loaded : (load function).Returns library signature final) :
    library.signature? function = some signature := by
  rw [signature?, loaded.1]
  rfl

theorem returns_load {signature : Signature} (found : library.signature? function = some signature) :
    (load function).Returns library signature (load function library).state :=
  ⟨Run.toOption_eq_some.mp found, rfl⟩

theorem sources_load (function : String) (library : Library σ) :
    (load function library).state.sources = library.sources := by
  cases absent : library.signatures.get? function with
  | some signature => simp only [load, absent]
  | none => rw [state_load_of_absent absent]

/-- A source is there if the library keeps it, or else if the store has it. -/
theorem returns_loadSource : (∃ text, (loadSource function path library).result = .ok text) ↔
    library.Holds path ∨ library.Readable path := by
  rw [Holds, Readable]
  cases absent : library.sources.get? path.canonical with
  | some text => simp [loadSource_of_get? absent]
  | none => simp [(loadSource_of_absent absent).1, Run.mapError_eq_ok]

theorem holds_loadSource {text : String} (loaded : (loadSource function path library).result = .ok text)
    (other : ResourcePath) : (loadSource function path library).state.Holds other ↔
      library.Holds other ∨ other.canonical = path.canonical := by
  cases absent : library.sources.get? path.canonical with
  | some found =>
    rw [loadSource_of_get? absent]
    refine (or_iff_left_of_imp fun same => ?_).symm
    rw [Holds, same, absent]
    rfl
  | none =>
    rw [(loadSource_of_absent absent).1, Run.mapError_eq_ok] at loaded
    rw [(loadSource_of_absent absent).2, loaded, Holds, Holds, Table.get?_insert]
    by_cases same : other.canonical = path.canonical <;> simp [same]

end Library
end ShaderGraph
