import GatedPipeline.Json.Basic

namespace GatedPipeline

structure InstanceId where
  job : String
  params : List (String × String)
deriving DecidableEq, Repr

namespace InstanceId

def isMatrix (id : InstanceId) : Bool := !id.params.isEmpty

def param? (id : InstanceId) (axis : String) : Option String := id.params.lookup axis

def display (id : InstanceId) : String :=
  if id.params.isEmpty then id.job
  else
    id.job ++ " (" ++ ", ".intercalate (id.params.map fun p => p.1 ++ "=" ++ p.2) ++ ")"

/-- Parameters are left out where there are none. -/
def toJson (id : InstanceId) : Json :=
  .obj (("job", .str id.job) ::
    (if id.params.isEmpty then []
      else [("params", .arr (id.params.map fun p => .arr [.str p.1, .str p.2]))]))

end InstanceId

end GatedPipeline
