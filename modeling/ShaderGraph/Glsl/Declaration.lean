/-! Declared variables, and sets of them that keep the order in which they were first declared. -/
namespace ShaderGraph

structure Declaration where
  type : String
  name : String
  deriving DecidableEq, Repr

def Declaration.text (d : Declaration) : String := d.type ++ " " ++ d.name

theorem Declaration.text_eq (d : Declaration) : d.text = d.type ++ " " ++ d.name := rfl

/-- Two declarations are the same if their types and their names are. -/
structure DeclarationSet where
  toList : List Declaration
  nodup : toList.Nodup
  deriving DecidableEq, Repr

namespace DeclarationSet

instance : EmptyCollection DeclarationSet := ⟨⟨[], .nil⟩⟩
instance : Inhabited DeclarationSet := ⟨∅⟩
instance : Membership Declaration DeclarationSet := ⟨fun set d => d ∈ set.toList⟩

def contains (set : DeclarationSet) (d : Declaration) : Bool := d ∈ set.toList

def size (set : DeclarationSet) : Nat := set.toList.length

def isEmpty (set : DeclarationSet) : Bool := set.toList.isEmpty

/-- Puts a declaration behind all others, if it is not among them, and tells whether it did. -/
def tryInsert (set : DeclarationSet) (d : Declaration) : Bool × DeclarationSet :=
  if present : d ∈ set.toList then (false, set)
  else (true, ⟨set.toList ++ [d], List.nodup_append.mpr ⟨set.nodup, by simp, by grind⟩⟩)

def insert (set : DeclarationSet) (d : Declaration) : DeclarationSet := (set.tryInsert d).2

def extend (set : DeclarationSet) (more : List Declaration) : DeclarationSet :=
  more.foldl insert set

def ofList (declarations : List Declaration) : DeclarationSet := extend ∅ declarations

end DeclarationSet
end ShaderGraph
