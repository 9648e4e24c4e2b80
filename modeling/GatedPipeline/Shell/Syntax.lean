namespace GatedPipeline.Shell

/-- A part of a command with its quotes and expansions, as it has been written. -/
abbrev Word := String

inductive Descriptor where
  | usual
  | number (n : Nat)
  | named (name : String)
deriving DecidableEq, Repr

inductive RedirectionKind where
  | input
  | output
  | append
  | clobber
  | inputOutput
  | outputAndError
  | appendAndError
  | copyInput
  | copyOutput
  | document (number : Nat)
  | text
deriving DecidableEq, Repr

structure Redirection where
  descriptor : Descriptor
  kind : RedirectionKind
  target : Word
deriving DecidableEq, Repr

structure Document where
  delimiter : String
  expands : Bool
  stripsTabs : Bool
  body : String
deriving DecidableEq, Repr

inductive Test where
  | unary (operator : String) (operand : Word)
  | binary (left : Word) (operator : String) (right : Word)
  | not (t : Test)
  | and (a b : Test)
  | or (a b : Test)
  | enclosed (t : Test)
deriving Repr, Inhabited

/-- How the choice among patterns goes on after a branch has been evaluated. -/
inductive BranchEnd where
  | done
  | fall
  | resume
deriving DecidableEq, Repr

/-- A command as it has been read. The words in it are not yet expanded. -/
inductive Command where
  | simple (line : Nat) (assignments words : List Word) (redirections : List Redirection)
  | redirected (line : Nat) (body : Command) (redirections : List Redirection)
  /-- Commands one after another; it is noted after which of them a line ends. -/
  | sequence (commands : List (Command × Bool))
  | background (body : Command)
  | both (a b : Command)
  | either (a b : Command)
  | negated (body : Command)
  /-- The times are told in a brief form or not. -/
  | timed (isBrief : Bool) (body : Command)
  | pipeline (stages : List Command)
  | group (body : Command)
  | subshell (line : Nat) (body : Command)
  | arithmetic (line : Nat) (expression : String)
  | test (line : Nat) (condition : Test)
  | conditional (test yes : Command) (no : Option Command)
  | loop (isUntil : Bool) (test body : Command)
  | each (line : Nat) (name : String) (words : Option (List Word)) (body : Command)
  | menu (line : Nat) (name : String) (words : Option (List Word)) (body : Command)
  | count (line : Nat) (start condition step : String) (body : Command)
  | choice (line : Nat) (word : Word) (branches : List (List Word × Option Command × BranchEnd))
  | function (line : Nat) (name : String) (body : Command)
  | coprocess (line : Nat) (name : Word) (body : Command)
deriving Repr, Inhabited

namespace Command

/-- The line on which a command begins; zero where it has none of its own. -/
def line : Command → Nat
  | .simple n .. => n
  | .subshell n .. => n
  | .arithmetic n .. => n
  | .test n .. => n
  | .each n .. => n
  | .menu n .. => n
  | .count n .. => n
  | .choice n .. => n
  | .function n .. => n
  | .coprocess n .. => n
  | _ => 0

end Command

end GatedPipeline.Shell
