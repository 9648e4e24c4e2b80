import GatedPipeline.Definition.Fault
import GatedPipeline.Definition.Schema
import GatedPipeline.Yaml.Reader

namespace GatedPipeline.Pipeline

def read (text : String) : Except Yaml.Fault Pipeline :=
  (Yaml.read .pipeline text).bind fun j =>
    match Schema.pipeline j with
    | some p => .ok p
    | none => .error .endOfDocument

def load (text : String) : Except Error Pipeline :=
  match read text with
  | .error f => .error (.invalidPipeline f.text)
  | .ok p => p.check.map fun _ => p

end GatedPipeline.Pipeline
