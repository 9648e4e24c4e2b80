import GatedPipeline.Event

namespace GatedPipeline.Condition

inductive Field where
  | gitRef
  | refName
  | event
deriving DecidableEq, Repr

inductive Function where
  | startsWith
  | endsWith
  | contains
deriving DecidableEq, Repr

def Function.name : Function → String
  | .startsWith => "startsWith"
  | .endsWith => "endsWith"
  | .contains => "contains"

inductive Expr where
  | text (s : String)
  | truth (b : Bool)
  | field (f : Field)
  | not (e : Expr)
  | and (l r : Expr)
  | or (l r : Expr)
  | eq (l r : Expr)
  | ne (l r : Expr)
  | call (f : Function) (subject part : Expr)
deriving DecidableEq, Repr

inductive Value where
  | text (s : String)
  | truth (b : Bool)
deriving DecidableEq, Repr

namespace Value

/-- A text counts as true unless it is empty. -/
def holds : Value → Bool
  | .text s => s ≠ ""
  | .truth b => b

def asText : Value → String
  | .text s => s
  | .truth b => if b then "true" else "false"

/-- Values are compared by their texts. -/
def same (x y : Value) : Bool := x.asText == y.asText

end Value

def Field.value (f : Field) (e : Event) : String :=
  match f with
  | .gitRef => e.gitRef
  | .refName => e.refName
  | .event => e.kind.text

def Function.apply (f : Function) (subject part : String) : Bool :=
  match f with
  | .startsWith => part.toList.isPrefixOf subject.toList
  | .endsWith => part.toList.isSuffixOf subject.toList
  | .contains => Text.isInfix part.toList subject.toList

namespace Expr

def eval (event : Event) : Expr → Value
  | .text s => .text s
  | .truth b => .truth b
  | .field f => .text (f.value event)
  | .not e => .truth (!(e.eval event).holds)
  | .and l r => .truth ((l.eval event).holds && (r.eval event).holds)
  | .or l r => .truth ((l.eval event).holds || (r.eval event).holds)
  | .eq l r => .truth ((l.eval event).same (r.eval event))
  | .ne l r => .truth (!(l.eval event).same (r.eval event))
  | .call f subject part =>
    .truth (f.apply (subject.eval event).asText (part.eval event).asText)

end Expr

end GatedPipeline.Condition
