import GatedPipeline.Json.Basic

namespace GatedPipeline

/-- What is said about the values of some shape, member by member. -/
inductive Shape where
  | anything
  | described (members : List (String × Json))

/-- A field of a structured value. It may be left out if there is a value to stand for it. -/
structure ShapeField where
  name : String
  shape : Shape
  default : Option Json
  description : Option String

namespace Shape

def members : Shape → List (String × Json)
  | .anything => []
  | .described ms => ms

def toJson : Shape → Json
  | .anything => .bool true
  | .described ms => .obj ms

def ofKind (kind : String) (more : List (String × Json)) : Shape :=
  .described (("type", .str kind) :: more)

def text : Shape := ofKind "string" []

def truth : Shape := ofKind "boolean" []

/-- Whole numbers of 32 bits. -/
def count : Shape :=
  ofKind "integer" [("format", .str "uint32"), ("minimum", .num (.double (.zero false)))]

def list (items : Shape) : Shape := ofKind "array" [("items", items.toJson)]

def mapping (values : Shape) : Shape := ofKind "object" [("additionalProperties", values.toJson)]

def oneOfTexts (texts : List String) : Shape := ofKind "string" [("enum", Json.ofStrings texts)]

def oneOf (shapes : List Shape) : Shape := .described [("anyOf", .arr (shapes.map toJson))]

def named (name : String) : Shape := .described [("$ref", .str ("#/definitions/" ++ name))]

def orNull : Shape → Shape
  | .described (("type", kind) :: ms) => .described (("type", .arr [kind, .str "null"]) :: ms)
  | s => oneOf [s, ofKind "null" []]

end Shape

namespace ShapeField

def required (name : String) (shape : Shape) : ShapeField := ⟨name, shape, none, none⟩

def defaulted (name : String) (shape : Shape) (default : Json) : ShapeField :=
  ⟨name, shape, some default, none⟩

def maybe (name : String) (shape : Shape) : ShapeField := .defaulted name shape.orNull .null

def list (name : String) (items : Shape) : ShapeField := .defaulted name (.list items) (.arr [])

def texts (name : String) : ShapeField := .defaulted name (.mapping .text) (.obj [])

def toJson (f : ShapeField) : Json :=
  .obj ((f.description.map fun d => ("description", Json.str d)).toList ++
    (f.default.map fun d => ("default", d)).toList ++ f.shape.members)

end ShapeField

namespace Shape

def record (fields : List ShapeField) : Shape :=
  let required := (fields.filter (·.default.isNone)).map fun f => (f.name, ())
  let properties := fields.map fun f => (f.name, f.toJson)
  ofKind "object" [("required", Json.ofStrings (Bindings.ofList required).names),
    ("properties", .obj (Bindings.ofList properties))]

def trigger : Shape :=
  record [.required "type" (.named "TriggerType"), .list "branches" .text, .list "tags" .text]

def step : Shape :=
  record [.required "name" .text, .required "run" .text, .defaulted "shell" .text (.str "bash"),
    .maybe "working_directory" .text, .texts "env",
    .defaulted "continue_on_error" .truth (.bool false), .maybe "timeout_minutes" .count]

def secret : Shape :=
  oneOf [.text, record [.required "name" .text, .maybe "key" .text, .maybe "provider" .text,
    .defaulted "required" .truth (.bool true)]]

def matrix : Shape :=
  record [.required "axes" (.named "MatrixAxes"), .list "include" (.mapping .anything),
    .list "exclude" (.mapping .anything)]

def gate : ShapeField :=
  { ShapeField.maybe "if" .text with
    description := some "Gate expression, e.g. \x60startsWith(ref, 'refs/tags/v0')\x60." }

def job : Shape :=
  record [.required "name" .text, .maybe "display_name" .text, .list "needs" .text, gate,
    .maybe "matrix" (.named "MatrixConfig"), .texts "env",
    .list "secrets" (.named "SecretReference"),
    .required "steps" (.list (.named "StepDefinition"))]

def pipeline : Shape :=
  record [.required "name" .text, .maybe "description" .text,
    .list "triggers" (.named "TriggerConfig"), .texts "env",
    .required "jobs" (.list (.named "JobDefinition"))]

/-- The parts of a definition, by the names that shapes refer to. -/
def parts : List (String × Shape) :=
  [("JobDefinition", job), ("MatrixAxes", .mapping (.list .anything)), ("MatrixConfig", matrix),
    ("SecretReference", secret), ("StepDefinition", step), ("TriggerConfig", trigger),
    ("TriggerType", .oneOfTexts ["push", "pull_request"])]

/-- The name of the dialect of the description: its authority and its version there. -/
def dialect : String := "http:" ++ "//json-schema.org" ++ "/draft-07/schema#"

def document : Json :=
  .obj ([("$schema", .str dialect), ("title", .str "PipelineDefinition")] ++ pipeline.members ++
    [("definitions", .obj (parts.map fun p => (p.1, p.2.toJson)))])

end Shape

end GatedPipeline
