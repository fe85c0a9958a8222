/-! The types of the shading language that have a default of their own, and the node functions that
name a value instead of a call. -/
namespace ShaderGraph

inductive GlslType where
  | int | float | vec2 | vec3 | vec4 | mat2 | mat3 | mat4 | sampler2D | samplerCube
  deriving DecidableEq, Repr

namespace GlslType

def all : List GlslType :=
  [int, float, vec2, vec3, vec4, mat2, mat3, mat4, sampler2D, samplerCube]

def name : GlslType → String
  | int => "int"
  | float => "float"
  | vec2 => "vec2"
  | vec3 => "vec3"
  | vec4 => "vec4"
  | mat2 => "mat2"
  | mat3 => "mat3"
  | mat4 => "mat4"
  | sampler2D => "sampler2D"
  | samplerCube => "samplerCube"

def ofName? (name : String) : Option GlslType := all.find? (·.name = name)

/-- What an input of the type holds when nothing feeds it. A color is opaque then. -/
def default : GlslType → String
  | int => "1"
  | float | sampler2D | samplerCube => "1.0"
  | vec2 => "vec2(0, 0)"
  | vec3 => "vec3(0, 0, 0)"
  | vec4 => "vec4(0, 0, 0, 1)"
  | mat2 => "mat2(1.0)"
  | mat3 => "mat3(1.0)"
  | mat4 => "mat4(1.0)"

def isPassThrough : GlslType → Bool
  | mat2 | mat3 | mat4 => false
  | _ => true

def unknown (name : String) : String := "Unrecognized GLSL type `" ++ name ++ "`."

end GlslType

def outputColor : String := "outColor"

def fallbackDefault : String := "1.0"

def defaultOf (type : String) : String :=
  match GlslType.ofName? type with
  | some known => known.default
  | none => fallbackDefault

/-- Whether nodes with this function are referred to by their name and never called. -/
def isPassThrough (function : String) : Bool :=
  function == outputColor || (GlslType.ofName? function).any GlslType.isPassThrough

end ShaderGraph
