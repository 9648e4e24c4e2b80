import GatedPipeline.Shell.Charset
import GatedPipeline.Bindings
import GatedPipeline.Shell.Syntax

namespace GatedPipeline.Shell

inductive Token where
  | word (text : Word)
  | operator (text : String)
  | descriptor (d : Descriptor)
  | newline
  | finish
deriving DecidableEq, Repr

namespace Token

def shown : Token → String
  | .word t => t
  | .operator t => t
  | .descriptor (.number n) => toString n
  | .descriptor (.named v) => v
  | .descriptor .usual => ""
  | .newline => "newline"
  | .finish => "end of file"

end Token

/-- Why a text is no list of commands. -/
inductive SyntaxCause where
  /-- A token stands where another one, which may be known, has to. -/
  | unexpected (token : Token) (expected : Option String)
  | unclosed (closing : Char)
  | badTest (message : Option String)
  | badCount (head : String)
  | badVariable
  | badFunctionName
deriving DecidableEq, Repr

/-- Why a text is no command, on which line, and how many characters are left after the place. -/
structure SyntaxFault where
  cause : SyntaxCause
  line : Nat
  left : Nat
  isInArray : Bool
deriving DecidableEq, Repr

/-- What a shell lets its texts contain. A `strict` shell is a plain one. -/
structure Dialect where
  isStrict : Bool
  hasExtendedPatterns : Bool
  charset : Charset
  aliases : Bindings String
deriving Repr

/-- A place in a text of commands, with the token that has been read there. -/
structure Cursor where
  dialect : Dialect
  rest : List Char
  line : Nat
  token : Token
  tokenLine : Nat
  tokenLeft : Nat
  pending : List Document
  /-- The documents read so far, in reverse, and how many there are in all. -/
  documents : List Document
  documentCount : Nat
  /-- Lines of documents that no delimiter ends: where the text ends, the document begins, and
  the delimiter. -/
  openEnded : List (Nat × Nat × String)
  replaced : List (String × Nat)
  isInWord : Bool
deriving Repr

def Cursor.start (dialect : Dialect) (line documentCount : Nat) (text : List Char) : Cursor where
  dialect := dialect
  rest := text
  line := line
  token := .newline
  tokenLine := line
  tokenLeft := text.length
  pending := []
  documents := []
  documentCount := documentCount
  openEnded := []
  replaced := []
  isInWord := false

abbrev Parse := EStateM SyntaxFault Cursor

namespace Parse

def isStrict : Parse Bool := do return (← get).dialect.isStrict

def failAt (cause : SyntaxCause) (line : Nat) : Parse α := do
  throw ⟨cause, line, (← get).rest.length, false⟩

/-- The current token must not stand here. -/
def unexpected (expected : Option String) : Parse α := do
  let c ← get
  throw ⟨.unexpected c.token expected, c.tokenLine, c.tokenLeft, false⟩

def take : Parse (Option Char) := do
  let c ← get
  match c.rest with
  | [] => return none
  | '\n' :: cs => set { c with rest := cs, line := c.line + 1 }; return some '\n'
  | x :: cs => set { c with rest := cs }; return some x

def peek : Parse (Option Char) := do return (← get).rest.head?

/-- Goes on by characters none of which ends a line. -/
def drop (n : Nat) : Parse Unit := modify fun c => { c with rest := c.rest.drop n }

def unclosed (closing : Char) (line : Nat) : Parse α := do
  let c ← get
  failAt (.unclosed closing) (if c.dialect.isStrict then c.line else line)

end Parse

end GatedPipeline.Shell
