namespace GatedPipeline.Yaml

inductive Style where
  | plain
  | singleQuoted
  | doubleQuoted
  | literal
  | folded
deriving DecidableEq, Repr

inductive Token where
  | versionDirective (major minor : Nat)
  | tagDirective (handle start : String)
  | documentStart
  | documentEnd
  | blockSequenceStart
  | blockMappingStart
  | blockEnd
  | flowSequenceStart
  | flowSequenceEnd
  | flowMappingStart
  | flowMappingEnd
  | blockEntry
  | flowEntry
  | key
  | value
  | alias (name : String)
  | anchor (name : String)
  | tag (handle suffix : String)
  | scalar (style : Style) (text : String)
  | streamEnd
deriving DecidableEq, Repr

/-- A place in a text. Lines and columns count from zero, columns in characters. -/
structure Place where
  line : Nat
  column : Nat
deriving DecidableEq, Repr

namespace Place

def start : Place := ⟨0, 0⟩

/-- Lines and columns are told counting from one. The start of a text is not worth telling. -/
def suffix (p : Place) : String :=
  if p = start then ""
  else " at line " ++ toString (p.line + 1) ++ " column " ++ toString (p.column + 1)

end Place

structure Placed where
  token : Token
  start : Place
  stop : Place
deriving Repr

/-- The characters that may stand in a text at all. -/
def isAllowed (c : Char) : Bool :=
  let n := c.toNat
  n == 0x9 || n == 0xA || n == 0xD || (0x20 ≤ n && n ≤ 0x7E) || n == 0x85 ||
    (0xA0 ≤ n && n ≤ 0xD7FF) || (0xE000 ≤ n && n ≤ 0xFFFD) || 0x10000 ≤ n

def isBreak (c : Char) : Bool :=
  let n := c.toNat
  n == 0xA || n == 0xD || n == 0x85 || n == 0x2028 || n == 0x2029

def isBlank (c : Char) : Bool := c == ' ' || c == '\t'

def isWord (c : Char) : Bool := c.isAlphanum || c == '_' || c == '-'

/-- Where a reader of a text is: what lies ahead, and the place. The index counts the bytes before
it. -/
structure Cursor where
  rest : List Char
  index : Nat
  line : Nat
  column : Nat
deriving Repr

namespace Cursor

def ofText (text : List Char) : Cursor := ⟨text, 0, 0, 0⟩

def place (c : Cursor) : Place := ⟨c.line, c.column⟩

def peek? (c : Cursor) : Option Char := c.rest.head?

def peekAt? (c : Cursor) (n : Nat) : Option Char := c.rest[n]?

def looksAt (c : Cursor) (x : Char) : Bool := c.rest.head? == some x

def atEnd (c : Cursor) : Bool := c.rest.isEmpty

def atBreak (c : Cursor) : Bool := c.rest.head?.any isBreak

def atBlank (c : Cursor) : Bool := c.rest.head?.any isBlank

def atBreakOrEnd (c : Cursor) : Bool := c.atEnd || c.atBreak

/-- A blank, a line break or the end of the text stands `n` characters ahead. -/
def gapAt (c : Cursor) (n : Nat) : Bool :=
  match c.rest[n]? with
  | none => true
  | some x => isBlank x || isBreak x

def skip (c : Cursor) (n : Nat) : Cursor :=
  ⟨c.rest.drop n, c.index + ((c.rest.take n).map Char.utf8Size).foldr (· + ·) 0, c.line,
    c.column + n⟩

/-- Goes to the start of the next line; a carriage return and a line feed are one break. -/
def skipBreak (c : Cursor) : Cursor :=
  match c.rest with
  | '\r' :: '\n' :: r => ⟨r, c.index + 2, c.line + 1, 0⟩
  | x :: r => if isBreak x then ⟨r, c.index + x.utf8Size, c.line + 1, 0⟩ else c
  | [] => c

/-- What a line break leaves in a text: the two separators stay, all others are line feeds. -/
def breakText (c : Cursor) : List Char :=
  match c.rest with
  | x :: _ =>
    if x.toNat == 0x2028 || x.toNat == 0x2029 then [x] else if isBreak x then ['\n'] else []
  | [] => []

/-- The characters from here on that satisfy `p`, none of which is a break, and the place behind
them. -/
def span (c : Cursor) (p : Char → Bool) : List Char × Cursor :=
  let s := c.rest.takeWhile p
  (s, c.skip s.length)

def skipWhile (c : Cursor) (p : Char → Bool) : Cursor := (c.span p).2

def skipBlanks (c : Cursor) : Cursor := c.skipWhile isBlank

def skipComment (c : Cursor) : Cursor :=
  if c.looksAt '#' then c.skipWhile (!isBreak ·) else c

/-- Three equal characters at the start of a line with a gap behind them. -/
def atMark (c : Cursor) (x : Char) : Bool :=
  c.column == 0 && c.rest.take 3 == [x, x, x] && c.gapAt 3

def atDocumentMark (c : Cursor) : Bool := c.atMark '-' || c.atMark '.'

end Cursor

end GatedPipeline.Yaml
