import GatedPipeline.Matrix.Basic
import GatedPipeline.Trigger

namespace GatedPipeline

structure Step where
  name : String
  run : String
  shell : String
  workingDirectory : Option String
  env : Bindings String
  continueOnError : Bool
  timeoutMinutes : Option Nat
deriving Repr

/-- A secret that a job declares: the variable that shows it, the key in the store where that
differs from the name, and the provider where it is not the default one. -/
structure SecretRef where
  name : String
  key : Option String
  provider : Option String
  required : Bool
deriving DecidableEq, Repr

namespace SecretRef

def named (name : String) : SecretRef := ⟨name, none, none, true⟩

def storeKey (r : SecretRef) : String := r.key.getD r.name

end SecretRef

structure Job where
  name : String
  displayName : Option String
  needs : List String
  condition : Option String
  matrix : Option Matrix
  env : Bindings String
  secrets : List SecretRef
  steps : List Step
deriving Repr

structure Pipeline where
  name : String
  description : Option String
  triggers : List Trigger
  env : Bindings String
  jobs : List Job
deriving Repr

def Pipeline.job? (p : Pipeline) (name : String) : Option Job := p.jobs.find? (·.name == name)

end GatedPipeline
