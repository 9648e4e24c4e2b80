import GatedPipeline.InstanceId
import GatedPipeline.Json.Printer

namespace GatedPipeline

structure Axis where
  name : String
  values : List Json
deriving Repr

/-- A combination that is added or left out: values by the names of axes or further keys. -/
abbrev MatrixEntry := Bindings Json

/-- A matrix stands for the product of its axes, then what it includes, less what it excludes. -/
structure Matrix where
  axes : List Axis
  inclusions : List MatrixEntry
  exclusions : List MatrixEntry
deriving Repr

/-- The text of a scalar; null, lists and objects are none. -/
def Json.scalarText? : Json → Option String
  | .str s => some s
  | .num n => some n.text
  | .bool b => some (if b then "true" else "false")
  | _ => none

namespace Matrix

def axis? (m : Matrix) (name : String) : Option Axis := m.axes.find? (·.name == name)

abbrev Combination := List (String × Json)

/-- A scalar by its text, any other value by its written form. -/
def valueText (v : Json) : String := v.scalarText?.getD v.compact

def rendered (c : Combination) : List (String × String) := c.map fun p => (p.1, valueText p.2)

/-- The product of the axes; the first axis changes slowest. -/
def product : List Axis → List Combination
  | [] => [[]]
  | a :: rest => a.values.flatMap fun v => (product rest).map ((a.name, v) :: ·)

/-- An included combination: its values for axes in the order of the axes, then its further keys
in ascending order. -/
def included (m : Matrix) (e : MatrixEntry) : Combination :=
  (m.axes.filterMap fun a => (e.get? a.name).map (a.name, ·)) ++
    e.filter fun p => (m.axis? p.1).isNone

/-- Appends a combination unless one with the same texts is there. -/
def appendNew (cs : List Combination) (c : Combination) : List Combination :=
  if cs.any fun d => rendered d == rendered c then cs else cs ++ [c]

/-- Equal values, or values with the same text. -/
def sameScalar (a b : Json) : Bool := a.same b || valueText a == valueText b

/-- Each key of the entry is bound to the same value in the combination. -/
def excludedBy (c : Combination) (e : MatrixEntry) : Bool :=
  e.all fun p => c.any fun q => q.1 == p.1 && sameScalar q.2 p.2

def combinations (m : Matrix) : List Combination :=
  ((m.inclusions.map m.included).foldl appendNew (product m.axes)).filter fun c =>
    !m.exclusions.any (excludedBy c)

end Matrix

end GatedPipeline
