import GatedPipeline.Bindings
import GatedPipeline.Duration
import GatedPipeline.Error
import GatedPipeline.Path
import GatedPipeline.Text.Quoted

namespace GatedPipeline

/-- The environment is complete, with the secrets of the instance. -/
structure StepContext where
  stepName : String
  command : String
  shell : String
  workspace : String
  workingDirectory : Option String
  env : Bindings String
  timeout : Option Duration
deriving DecidableEq, Repr

namespace StepContext

def directory (c : StepContext) : String :=
  match c.workingDirectory with
  | none => c.workspace
  | some path => Path.join c.workspace path

/-- The environment is shown by its names alone, since values may be secret. -/
def shown (c : StepContext) : String :=
  "StepContext \x7b step_name: " ++ Text.quoted c.stepName ++
  ", command: " ++ Text.quoted c.command ++
  ", shell: " ++ Text.quoted c.shell ++
  ", workspace: " ++ Text.quoted c.workspace ++
  ", working_directory: " ++ Text.shownOption Text.quoted c.workingDirectory ++
  ", env: " ++ Text.quotedList c.env.names ++
  ", timeout: " ++ Text.shownOption Duration.text c.timeout ++ " \x7d"

end StepContext

inductive StepEnd where
  | exited (code : Int) (success : Bool)
  | failed (e : Error)
deriving DecidableEq, Repr

/-- The lines that a step put out, how it ended and how many milliseconds it took. It has no end
where the runner itself broke down. -/
structure StepRun where
  output : List String
  ending : Option StepEnd
  elapsed : Nat
deriving DecidableEq, Repr

/-- A runner may keep a state from one step to the next. -/
abbrev StepRunner (σ : Type) := StepContext → σ → StepRun × σ

structure ScriptedStep where
  delay : Nat
  output : List String
  breaks : Bool
  timesOut : Bool
  error : Option String
  exitCode : Int
deriving DecidableEq, Repr

namespace ScriptedStep

def silent : ScriptedStep := ⟨0, [], false, false, none, 0⟩

def ending (a : ScriptedStep) (c : StepContext) : Option StepEnd :=
  if a.breaks then none
  else if a.timesOut then some (.failed (.stepTimeout (c.timeout.getD ⟨0⟩)))
  else
    match a.error with
    | some message => some (.failed (.internal message))
    | none => some (.exited a.exitCode (a.exitCode == 0))

end ScriptedStep

/-- A runner that does what a script says for each command; others succeed silently. -/
def StepRunner.scripted (script : Bindings ScriptedStep) : StepRunner Unit := fun c s =>
  let a := (script.get? c.command).getD .silent
  (⟨a.output, a.ending c, a.delay⟩, s)

end GatedPipeline
