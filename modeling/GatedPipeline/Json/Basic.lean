import GatedPipeline.Bindings
import GatedPipeline.Number.Double

namespace GatedPipeline

inductive Number where
  | int (n : Int)
  | double (x : Double)
deriving DecidableEq, Repr

/-- A whole number never equals a floating one; two zeros with different signs are equal. -/
def Number.same : Number → Number → Bool
  | .int m, .int n => m == n
  | .double x, .double y => x.same y
  | _, _ => false

def Number.text : Number → String
  | .int n => toString n
  | .double x => x.write {}

/-- The members of an object stand in the order in which they are written. -/
inductive Json where
  | null
  | bool (b : Bool)
  | num (n : Number)
  | str (s : String)
  | arr (items : List Json)
  | obj (members : List (String × Json))
deriving Repr, Inhabited

namespace Json

mutual

/-- The same data with the names of objects ascending; of members with equal names the last one
stays. -/
def canonical : Json → Json
  | .arr items => .arr (canonicalItems items)
  | .obj members => .obj (Bindings.ofList (canonicalMembers members))
  | j => j

def canonicalItems : List Json → List Json
  | [] => []
  | x :: xs => canonical x :: canonicalItems xs

def canonicalMembers : List (String × Json) → List (String × Json)
  | [] => []
  | (k, x) :: xs => (k, canonical x) :: canonicalMembers xs

end

mutual

/-- Equality of values, with that of numbers for the numbers inside. -/
def same : Json → Json → Bool
  | .null, .null => true
  | .bool a, .bool b => a == b
  | .num a, .num b => a.same b
  | .str a, .str b => a == b
  | .arr xs, .arr ys => sameItems xs ys
  | .obj xs, .obj ys => sameMembers xs ys
  | _, _ => false

def sameItems : List Json → List Json → Bool
  | [], [] => true
  | x :: xs, y :: ys => same x y && sameItems xs ys
  | _, _ => false

def sameMembers : List (String × Json) → List (String × Json) → Bool
  | [], [] => true
  | (k, x) :: xs, (l, y) :: ys => k == l && same x y && sameMembers xs ys
  | _, _ => false

end

def ofNat (n : Nat) : Json := .num (.int n)

def ofInt (n : Int) : Json := .num (.int n)

def ofStrings (texts : List String) : Json := .arr (texts.map .str)

def ofOption (write : α → Json) : Option α → Json
  | none => .null
  | some a => write a

def member? (name : String) : Json → Option Json
  | .obj members => Bindings.get? name members
  | _ => none

/-- A member that is there and not null. -/
def given? (name : String) (j : Json) : Option Json :=
  match j.member? name with
  | some .null => none
  | r => r

def str? : Json → Option String
  | .str s => some s
  | _ => none

def bool? : Json → Option Bool
  | .bool b => some b
  | _ => none

def arr? : Json → Option (List Json)
  | .arr items => some items
  | _ => none

def obj? : Json → Option (List (String × Json))
  | .obj members => some members
  | _ => none

def natBelow? (bound : Nat) : Json → Option Nat
  | .num (.int n) => if 0 ≤ n ∧ n < bound then some n.toNat else none
  | _ => none

end Json

end GatedPipeline
