/-! Names of nodes. Node names become parts of variable names, so the scope marks in them are
replaced. -/
namespace ShaderGraph

/-- Writes each pair of colons as one underscore, from left to right. -/
def joinScopes : List Char → List Char
  | ':' :: ':' :: rest => '_' :: joinScopes rest
  | c :: rest => c :: joinScopes rest
  | [] => []

/-- The name under which a node is known. A name for the vertex position that is no longer in use
stands for its present one. -/
def normalizeName (name : String) : String :=
  let joined := String.ofList (joinScopes name.toList)
  if joined = "gl_Vertex" then "vsg_Vertex" else joined

/-- The variable that holds an output of a called node. -/
def outputVariable (node output : String) : String := node ++ "_at_" ++ output

/-- The variable that holds an input of a called node that no edge feeds. -/
def defaultVariable (node input : String) : String := "default_" ++ input ++ "_for_" ++ node

end ShaderGraph
