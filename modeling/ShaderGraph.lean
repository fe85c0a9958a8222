import ShaderGraph.Config
import ShaderGraph.Proofs.Graph.Name
import ShaderGraph.Proofs.Order.Canonical
import ShaderGraph.Proofs.Session.Fresh
import ShaderGraph.Proofs.Session.Reads
import ShaderGraph.Proofs.Shader.Epilogue
import ShaderGraph.Proofs.Shader.Evaluation
import ShaderGraph.Proofs.Shader.Insertion
import ShaderGraph.Proofs.Shader.Interface
import ShaderGraph.Proofs.Shader.Precedence
import ShaderGraph.Proofs.Shader.Reordering
import ShaderGraph.Proofs.Shader.Spelling
import ShaderGraph.Proofs.Shader.Supplied
import ShaderGraph.Proofs.Shader.Variables
import ShaderGraph.Proofs.Function.Metadata
import ShaderGraph.Proofs.Shader.Uniforms
import ShaderGraph.Proofs.Shader.Form
import ShaderGraph.Proofs.Graph.Document
import ShaderGraph.Proofs.Program.Account
import ShaderGraph.Proofs.Yaml.Value
import ShaderGraph.Proofs.Failure
import ShaderGraph.Proofs.Graph.Setting
import ShaderGraph.Proofs.Graph.Failure
import ShaderGraph.Proofs.Shader.Moved
import ShaderGraph.Proofs.Program.Failure
import ShaderGraph.Proofs.Shader.Source
import ShaderGraph.Proofs.Glsl.History
import ShaderGraph.Proofs.Shader.Arguments
import ShaderGraph.Proofs.Shader.Body
import ShaderGraph.Proofs.Program.Literal
import ShaderGraph.Proofs.Order.Moment
import ShaderGraph.Proofs.Shader.Log
