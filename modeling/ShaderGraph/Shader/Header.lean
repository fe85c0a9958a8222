import ShaderGraph.Glsl.Type
import ShaderGraph.Program.Basic
import ShaderGraph.Text

/-! Headers of the two stages: what each pipeline provides, and the varyings that the stages
share. -/
namespace ShaderGraph

/-- The head of both stages: the transforms that each pipeline provides. -/
def stageTransforms : List String :=
  [ "",
    "#version 450",
    "#extension GL_ARB_separate_shader_objects : enable",
    "",
    "layout(push_constant) uniform PushConstants \x7b",
    "    mat4 projection;",
    "    mat4 modelView;",
    "\x7d pc;",
    "",
    "layout(set = 0, binding = 0) uniform WorldTransform\x7b",
    "    mat4 projectionInverse;",
    "    mat4 viewInverse;",
    "\x7d wt;",
    "" ]

def vertexBindings : List String :=
  [ "layout(location = 0) in vec3 vsg_Vertex;",
    "layout(location = 1) in vec3 vsg_Normal;",
    "",
    "out gl_PerVertex\x7b vec4 gl_Position; \x7d;" ]

def fragmentBindings : List String :=
  [ "layout(set = 0, binding = 1) uniform PbrMaterial",
    "\x7b",
    "    vec4 baseColorFactor;",
    "    vec4 emissiveFactor;",
    "    vec4 diffuseFactor;",
    "    vec4 specularFactor;",
    "    float metallicFactor;",
    "    float roughnessFactor;",
    "    float alphaMask;",
    "    float alphaMaskCutoff;",
    "\x7d pbr;",
    "",
    "// ViewDependentState",
    "layout(constant_id = 3) const int lightDataSize = 256;",
    "layout(set = 1, binding = 0) uniform LightData",
    "\x7b",
    "    vec4 values[lightDataSize];",
    "\x7d lightData;",
    "" ]

def vertexPrelude : String := unlines (stageTransforms ++ vertexBindings)

def fragmentPrelude : String := unlines (stageTransforms ++ fragmentBindings)

/-- Varyings have the same locations in both stages: their places in the order of declaration. -/
def layoutLine (direction : String) (location : Nat) (d : Declaration) : String :=
  "layout(location = " ++ toString location ++ ") " ++ direction ++ " " ++ d.text ++ ";"

theorem layoutLine_eq (direction : String) (location : Nat) (d : Declaration) :
    layoutLine direction location d = "layout(location = " ++ toString location ++
      (") " ++ direction ++ " ") ++ d.type ++ " " ++ d.name ++ ";" := by
  unfold layoutLine
  simp only [Declaration.text_eq, String.append_assoc]

def layoutLines (direction : String) (varyings : DeclarationSet) : List String :=
  varyings.toList.mapIdx (layoutLine direction)

namespace Program

def vertexInterface (program : Program) : List String := layoutLines "out" program.varyings

/-- Each varying is an input of the fragment stage, which writes the color. -/
def fragmentInterface (program : Program) : List String :=
  layoutLines "in" program.varyings ++ [layoutLine "out" 0 ⟨"vec4", outputColor⟩]

def vertexHeader (program : Program) : String := vertexPrelude ++ unlines program.vertexInterface

def fragmentHeader (program : Program) : String :=
  fragmentPrelude ++ unlines program.fragmentInterface

end Program
end ShaderGraph
