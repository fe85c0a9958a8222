import ShaderGraph.Glsl.Declaration

/-! Signatures of functions: their parameters, the file that defines them, and what they ask of the
stage around them. -/
namespace ShaderGraph

structure Param where
  name : String
  type : String
  index : Int
  deriving DecidableEq, Repr

structure Signature where
  name : String
  inputs : List Param
  outputs : List Param
  source : Option String
  uniforms : DeclarationSet
  varyings : DeclarationSet
  attributes : DeclarationSet
  deriving DecidableEq, Repr

/-- Puts a parameter in front of the first with the same or a higher index. -/
def placeByIndex (param : Param) : List Param → List Param
  | [] => [param]
  | other :: rest =>
    if param.index ≤ other.index then param :: other :: rest
    else other :: placeByIndex param rest

/-- Parameters in the order of their indices. Those with one index keep their order. -/
def byIndex (params : List Param) : List Param := params.foldr placeByIndex []

/-- The text in front of the first pair of empty brackets. -/
def beforeBrackets? : List Char → Option (List Char)
  | [] => none
  | '[' :: ']' :: _ => some []
  | c :: rest => (beforeBrackets? rest).map (c :: ·)

/-- The declarations of some names with one type. An array type stands for arrays of one item, whose
length is written behind the name. -/
def declareNames (type : String) (names : List String) : List Declaration :=
  match beforeBrackets? type.toList with
  | some item => names.map fun name => ⟨String.ofList item, name ++ "[1]"⟩
  | none => names.map fun name => ⟨type, name⟩

end ShaderGraph
