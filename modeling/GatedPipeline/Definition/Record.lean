import GatedPipeline.Json.Basic

namespace GatedPipeline

/-- A structured value is written with the names of its fields or with its fields in order. -/
inductive Record (α : Type) where
  | named (members : List (String × α))
  | positional (items : List α)

namespace Record

/-- Looks the given fields up. A field that is there twice and items beyond the last field are
errors; members with other names are passed over. -/
def fields? (names : List String) : Record α → Option (String → Option α)
  | .named members =>
    if names.all fun n => (members.filter (·.1 == n)).length ≤ 1 then
      some fun name => members.lookup name
    else none
  | .positional items =>
    if items.length ≤ names.length then
      some fun name => (names.idxOf? name).bind (items[·]?)
    else none

def required (read : α → Option β) (a : Option α) : Option β := a.bind read

def defaulted (read : α → Option β) (default : β) : Option α → Option β
  | none => some default
  | some a => read a

end Record

namespace Json

def record? : Json → Option (Record Json)
  | .obj members => some (.named members)
  | .arr items => some (.positional items)
  | _ => none

def choice? : Json → Option String
  | .str s => some s
  | .obj [(name, .null)] => some name
  | _ => none

/-- A value that may be missing, and may be null instead. -/
def maybe (read : Json → Option β) : Option Json → Option (Option β)
  | none | some .null => some none
  | some j => (read j).map some

def listOf? (read : Json → Option β) (j : Json) : Option (List β) := j.arr?.bind (·.mapM read)

/-- A mapping from names to values, the last of equal names. -/
def bindings? (read : Json → Option β) (j : Json) : Option (Bindings β) :=
  j.obj?.bind fun ms => (ms.mapM fun m => (read m.2).map (m.1, ·)).map Bindings.ofList

def count? (j : Json) : Option Nat := j.natBelow? (Nat.pow 2 32)

end Json

/-- What stands for a field in a value that is read before it is known what it is for. -/
inductive Label where
  | name (s : String)
  | position (n : Nat)
  | other
deriving DecidableEq, Repr

/-- The name of the field that a label stands for; none where it cannot stand for a field. A
number beyond the last field is nobody's name. -/
def Label.field? (names : List String) : Label → Option String
  | .name s => some s
  | .position n => some (names[n]?.getD "")
  | .other => none

mutual

/-- A format whose values do not say by themselves what they are is read along an outline of what is
expected, part by part. -/
inductive Outline where
  | text
  | truth
  | count
  | choice (names : List String)
  | maybe (inner : Outline)
  | list (items : Outline)
  | mapping (values : Outline)
  | ordered (description : String) (values : Outline)
  | record (kind : String) (fields : List OutlineField)
  /-- A text, or a value with fields that `fits` accepts as it is written. -/
  | textOrRecord (kind : String) (fields : List String) (fits : Json → Bool)
  | anything

inductive OutlineField where
  | mk (name : String) (required : Bool) (value : Outline)

end

namespace OutlineField

def name : OutlineField → String
  | .mk name _ _ => name

def required : OutlineField → Bool
  | .mk _ required _ => required

def value : OutlineField → Outline
  | .mk _ _ value => value

def needed (name : String) (value : Outline) : OutlineField := .mk name true value

def optional (name : String) (value : Outline) : OutlineField := .mk name false value

end OutlineField

end GatedPipeline
