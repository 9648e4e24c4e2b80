import GatedPipeline.Definition.Record
import GatedPipeline.Report

namespace GatedPipeline

open Record

def Json.int? (least most : Int) : Json → Option Int
  | .num (.int n) => if least ≤ n ∧ n ≤ most then some n else none
  | _ => none

def InstanceId.param?OfJson : Json → Option (String × String)
  | .arr [.str axis, .str value] => some (axis, value)
  | _ => none

def InstanceId.ofJson? (j : Json) : Option InstanceId := do
  let field ← (← j.record?).fields? ["job", "params"]
  some {
    job := ← required Json.str? (field "job")
    params := ← defaulted (Json.listOf? InstanceId.param?OfJson) [] (field "params") }

/-- A kind and the fields that go with it: the member `kind` of an object or the first item of a
list. -/
def Json.kind? : Json → Option (String × Record Json)
  | .obj members => ((members.lookup "kind").bind Json.str?).map (·, .named members)
  | .arr (.str kind :: items) => some (kind, .positional items)
  | _ => none

def Reason.ofJson? (j : Json) : Option Reason := do
  let (kind, record) ← j.kind?
  let text (name : String) : Option String := do
    required Json.str? ((← record.fields? [name]) name)
  match kind with
  | "succeeded" => (record.fields? []).map fun _ => .succeeded
  | "step_failed" => do
    let field ← record.fields? ["step", "exit_code", "message"]
    let complete : Bool :=
      match record with
      | .positional items => 2 ≤ items.length
      | .named _ => true
    if !complete then none
    else
      some (.stepFailed (← required Json.str? (field "step"))
        (← Json.maybe (Json.int? (-2147483648) 2147483647) (field "exit_code"))
        (← Json.maybe Json.str? (field "message")))
  | "missing_credential" => (text "secret").map .missingCredential
  | "execution_error" => (text "message").map .executionError
  | "skipped_by_condition" => (text "condition").map .skippedByCondition
  | "dependency_failed" => (text "dependency").map .dependencyFailed
  | "dependency_skipped" => (text "dependency").map .dependencySkipped
  | _ => none

end GatedPipeline
