import ShaderGraph.Document.Graph
import ShaderGraph.Document.NodeConfig
import ShaderGraph.Glsl.Declaration
import ShaderGraph.Graph.Name

/-! Nodes of a graph, read from their declarations and settings. Settings that stand apart from the
declarations come before the data in them. -/
namespace ShaderGraph

open Yaml

/-- How the value of a node is seen outside of the main function. -/
inductive NodeKind where
  | plain | uniform | varying
  deriving DecidableEq, Repr

def NodeKind.name : NodeKind → String
  | plain => "plain"
  | uniform => "uniform"
  | varying => "varying"

/-- A node goes by its normalized name. Its overrides are values for inputs that no edge feeds. -/
structure GraphNode where
  id : Nat
  function : String
  name : String
  kind : NodeKind
  overrides : Table String Value
  deriving Repr

def GraphNode.declaration (node : GraphNode) : Declaration := ⟨node.function, node.name⟩

/-- Settings by normalized name. All are read, also those that belong to no node. -/
def settingTable (settings : List Setting) : Except DocumentError (Table String NodeConfig) := do
  let entries ← settings.mapM fun setting => do
    let config ← (NodeConfig.ofData setting.data).mapError (.nodeConfig setting.name)
    return (normalizeName setting.name, config)
  return .ofList entries

def NodeDeclaration.config (settings : Table String NodeConfig) (d : NodeDeclaration) :
    Except DocumentError NodeConfig :=
  match settings.get? (normalizeName d.name), d.data with
  | some config, _ => .ok config
  | none, some data => (NodeConfig.ofData data).mapError (.nodeConfig d.name)
  | none, none => .ok .plain

def NodeConfig.nodeKind (config : NodeConfig) : NodeKind :=
  if config.isKind "uniform" then .uniform
  else if config.isKind "varying" then .varying
  else .plain

def GraphNode.ofDeclaration (settings : Table String NodeConfig) (id : Nat) (d : NodeDeclaration) :
    Except DocumentError GraphNode := do
  let config ← d.config settings
  return {
    id
    function := d.model ++ config.loadName.getD ""
    name := normalizeName d.name
    kind := config.nodeKind
    overrides := config.inputs.getD ∅ }

/-- The nodes up to the first that cannot be read, numbered from `id`, and why it cannot. -/
def readNodes (settings : Table String NodeConfig) :
    (id : Nat) → List NodeDeclaration → List GraphNode × Option DocumentError
  | _, [] => ([], none)
  | id, d :: rest =>
    match GraphNode.ofDeclaration settings id d with
    | .error error => ([], some error)
    | .ok node =>
      let (nodes, error) := readNodes settings (id + 1) rest
      (node :: nodes, error)

end ShaderGraph
