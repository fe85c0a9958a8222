import ShaderGraph.Shader.Compile
import ShaderGraph.Resource.FileTree

/-! Settings of the compiler: where resources are found, and which uniforms are provided from
outside. -/
namespace ShaderGraph

open Yaml

structure CompilerConfig where
  resourcePath : ResourcePath
  supplied : SortedSet String
  deriving DecidableEq, Repr

inductive ConfigError where
  | read (path : ResourcePath) (cause : ReadError)
  | parse (path : ResourcePath) (cause : Yaml.Error)
  deriving Repr

def ConfigError.message : ConfigError → String
  | read path _ => "Failed to read config file: " ++ path.text
  | parse path _ => "Failed to parse YAML config: " ++ path.text

def ConfigError.cause : ConfigError → String
  | read _ cause => cause.message
  | parse _ cause => cause.message

namespace CompilerConfig

def default : CompilerConfig := ⟨⟨"."⟩, ∅⟩

def same (a b : CompilerConfig) : Bool :=
  a.resourcePath.same b.resourcePath && a.supplied = b.supplied

structure Fields where
  resourcePath : Option String
  supplied : Option (List String)

def readField (anchors : Anchors) (read : Fields) (key : String) (n : Node) : Reading Fields := do
  match key with
  | "resourcePath" =>
    let path := Reading.text anchors n
    return { read with resourcePath := ← Reading.once read.resourcePath path }
  | "supplied" =>
    let names := Reading.items anchors (Reading.text anchors) n
    return { read with supplied := ← Reading.once read.supplied names }
  | _ => return read

def ofNode (anchors : Anchors) (n : Node) : Reading CompilerConfig := do
  let read ← Reading.record anchors ⟨none, none⟩ (readField anchors) n
  return {
    resourcePath := (read.resourcePath.map ResourcePath.mk).getD default.resourcePath
    supplied := .ofList (read.supplied.getD []) }

/-- Reads settings. Those that are missing are as in the default. -/
def parse (text : String) : Except Yaml.Error CompilerConfig :=
  readDocument text fun d =>
    match d.root with
    | none => return default
    | some n => ofNode d.aliasTable n

def ofFile (files : FileTree) (path : ResourcePath) :
    Except ConfigError CompilerConfig × List Record :=
  match files.readText path with
  | .error cause => (.error (.read path cause), [])
  | .ok text =>
    match parse text with
    | .error cause => (.error (.parse path cause), [])
    | .ok config => (.ok config, [.configured path config.resourcePath])

def library (config : CompilerConfig) (files : FileTree) : Library DirectoryStore :=
  .ofStore (.ofResourcePath files config.resourcePath)

def compileText (config : CompilerConfig) (text : String) :
    Run (Library DirectoryStore) CompileError Shader :=
  ShaderGraph.compileText config.supplied text

/-- Compiles documents one after another with one library. Each outcome holds the library as the
compilation leaves it. -/
def compileAll (config : CompilerConfig) :
    List String → Library DirectoryStore →
      List (Outcome (Library DirectoryStore) CompileError Shader)
  | [], _ => []
  | text :: rest, library =>
    let outcome := config.compileText text library
    outcome :: compileAll config rest outcome.state

end CompilerConfig
end ShaderGraph
