import GatedPipeline.Duration

namespace GatedPipeline

inductive Error where
  | invalidPipeline (message : String)
  | duplicateJob (job : String)
  | unknownDependency (job dependency : String)
  | dependencyCycle (path : List String)
  | invalidMatrix (job message : String)
  | invalidCondition (job message : String)
  | stepTimeout (limit : Duration)
  | secretNotFound (name : String)
  | secretProviderNotConfigured (name : String)
  | io (message : String)
  | serialization (message : String)
  | internal (message : String)
deriving DecidableEq, Repr

namespace Error

def message : Error → String
  | .invalidPipeline message => "Invalid pipeline definition: " ++ message
  | .duplicateJob job => "Duplicate job name: " ++ job
  | .unknownDependency job dependency => "Job " ++ job ++ " needs unknown job " ++ dependency
  | .dependencyCycle path => "Dependency cycle between jobs: " ++ " -> ".intercalate path
  | .invalidMatrix job message => "Invalid matrix for job " ++ job ++ ": " ++ message
  | .invalidCondition job message => "Invalid condition for job " ++ job ++ ": " ++ message
  | .stepTimeout limit => "Step timed out after " ++ limit.text
  | .secretNotFound name => "Secret not found: " ++ name
  | .secretProviderNotConfigured name => "Secret provider not configured: " ++ name
  | .io message => "IO error: " ++ message
  | .serialization message => "Serialization error: " ++ message
  | .internal message => "Internal error: " ++ message

/-- The errors that are found before any instance of a job starts. -/
def isDefinitionError : Error → Bool
  | .invalidPipeline _ | .duplicateJob _ | .unknownDependency .. | .dependencyCycle _
  | .invalidMatrix .. | .invalidCondition .. => true
  | _ => false

end Error

end GatedPipeline
