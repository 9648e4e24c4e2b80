import GatedPipeline.Bindings
import GatedPipeline.Text.Affix

namespace GatedPipeline

abbrev Environment := Bindings String

namespace Environment

/-- No variable has an empty name or one with an equals sign. -/
def value? (e : Environment) (name : String) : Option String :=
  if name.isEmpty || name.contains '=' then none else Bindings.get? name e

def assignment? (text : String) : Option (String × String) :=
  let name := text.toList.takeWhile (· != '=')
  match text.toList.dropWhile (· != '=') with
  | _ :: value => some (String.ofList name, String.ofList value)
  | [] => none

/-- The environment in a text of assignments, each of which ends with a zero. -/
def ofText (text : String) : Environment :=
  .ofList ((Text.splitAt (Char.ofNat 0) text).filterMap assignment?)

end Environment

end GatedPipeline
