import GatedPipeline.Condition.Parser

namespace GatedPipeline

structure Condition where
  source : String
  expr : Condition.Expr
deriving DecidableEq, Repr

namespace Condition

/-- The trimmed text inside a dollar sign and double braces, or the text itself where it is not
wrapped so. -/
def unwrapped (s : List Char) : List Char :=
  match (Text.stripStart? ['$', '{', '{'] s).bind (Text.stripEnd? ['}', '}']) with
  | some inner => Text.trimmed inner
  | none => s

def bodyOf (source : String) : List Char := unwrapped (Text.trimmed source.toList)

def parse (source : String) : Except Error Condition := do
  let tokens ← scan 0 (bodyOf source)
  let e ← parseTokens tokens
  .ok ⟨Text.trim source, e⟩

def evaluate (c : Condition) (event : Event) : Bool := (c.expr.eval event).holds

/-- A job without a condition always passes. -/
def gateOpen (condition : Option Condition) (event : Event) : Bool :=
  match condition with
  | none => true
  | some c => c.evaluate event

end Condition

end GatedPipeline
