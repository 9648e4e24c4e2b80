import GatedPipeline.Yaml.Scalar
import GatedPipeline.Yaml.Tag

namespace GatedPipeline.Yaml

/-- A place where a mapping key may have started, and the number of the token that stands there.
A required key has to be followed by its colon. -/
structure PossibleKey where
  number : Nat
  required : Bool
  index : Nat
  place : Place

/-- What is known between two tokens. `keys` has an entry for the block context and for each open
flow collection, the innermost first; the tokens are in reverse. -/
structure Lexer where
  cursor : Cursor
  indent : Int
  outer : List Int
  keys : List (Option PossibleKey)
  keyAllowed : Bool
  tokens : List Placed
  count : Nat

namespace Lexer

def start (text : List Char) : Lexer := ⟨Cursor.ofText text, -1, [], [none], true, [], 0⟩

def inFlow (l : Lexer) : Bool := 1 < l.keys.length

def push (l : Lexer) (t : Placed) : Lexer :=
  { l with tokens := t :: l.tokens, count := l.count + 1 }

/-- Puts a token that takes no room in front of the one with the given number. -/
def pushAt (l : Lexer) (number : Nat) (t : Token) (p : Place) : Lexer :=
  { l with tokens := l.tokens.insertIdx (l.count - number) ⟨t, p, p⟩, count := l.count + 1 }

def moveTo (l : Lexer) (c : Cursor) : Lexer := { l with cursor := c }

def currentKey (l : Lexer) : Option PossibleKey := l.keys.headD none

def setKey (l : Lexer) (key : Option PossibleKey) : Lexer :=
  { l with keys := key :: l.keys.tail }

/-- Goes over blanks, comments and line breaks. A tab is no blank where a block key may start, and a
byte order mark is one at the start of a line. -/
def skipGap : Nat → Lexer → Lexer
  | 0, l => l
  | fuel + 1, l =>
    match l.cursor.peek? with
    | none => l
    | some x =>
      if x == ' ' || (x == '\t' && (l.inFlow || !l.keyAllowed)) ||
          (x.toNat == 0xFEFF && l.cursor.column == 0) then
        skipGap fuel (l.moveTo (l.cursor.skip 1))
      else if x == '#' then skipGap fuel (l.moveTo l.cursor.skipComment)
      else if isBreak x then
        skipGap fuel
          { l with cursor := l.cursor.skipBreak, keyAllowed := l.keyAllowed || !l.inFlow }
      else l

def keyFault (l : Lexer) (k : PossibleKey) : Scan α :=
  .fails .noKeyColon l.cursor.place .simpleKey k.place

/-- A key stays possible on its own line and for at most 1024 bytes; a required key that is
no longer possible is an error. -/
def refreshKeys (l : Lexer) : Scan Lexer :=
  let stale (k : PossibleKey) : Bool :=
    k.place.line < l.cursor.line || k.index + 1024 < l.cursor.index
  match l.keys.reverse.findSome? fun k => k.filter fun k => stale k && k.required with
  | some k => l.keyFault k
  | none => .ok { l with keys := l.keys.map fun k => k.filter fun k => !stale k }

def dropKey (l : Lexer) : Scan Lexer :=
  match l.currentKey.filter (·.required) with
  | some k => l.keyFault k
  | none => .ok (l.setKey none)

def saveKey (l : Lexer) : Scan Lexer :=
  if l.keyAllowed then
    l.dropKey.map fun l =>
      let required := !l.inFlow && l.indent == (l.cursor.column : Int)
      l.setKey (some ⟨l.count, required, l.cursor.index, l.cursor.place⟩)
  else .ok l

/-- Opens a block that starts at a place right of the indentation. -/
def indentTo (l : Lexer) (p : Place) (number : Nat) (t : Token) : Lexer :=
  if l.inFlow || (p.column : Int) ≤ l.indent then l
  else { l with indent := p.column, outer := l.indent :: l.outer }.pushAt number t p

def closeBlocks (column : Int) : List Int → Lexer → Lexer
  | [], l => l
  | outer :: rest, l =>
    if column < l.indent then
      closeBlocks column rest
        { (l.push ⟨.blockEnd, l.cursor.place, l.cursor.place⟩) with indent := outer, outer := rest }
    else l

def dedentTo (l : Lexer) (column : Int) : Lexer :=
  if l.inFlow then l else closeBlocks column l.outer l

def accept (l : Lexer) (c : Cursor) (t : Token) (keyAllowed : Bool) : Lexer :=
  { (l.moveTo c) with keyAllowed := keyAllowed }.push ⟨t, l.cursor.place, c.place⟩

/-- A token of `n` characters after which a key may or may not start. -/
def take (l : Lexer) (n : Nat) (t : Token) (keyAllowed : Bool) : Lexer :=
  l.accept (l.cursor.skip n) t keyAllowed

def documentMark (l : Lexer) (t : Token) : Scan Lexer :=
  (l.dedentTo (-1)).dropKey.map (·.take 3 t false)

def directive (l : Lexer) : Scan Lexer :=
  (l.dedentTo (-1)).dropKey.bind fun l =>
    (readDirective l.cursor).map fun (t, c) => l.accept c t false

def flowStart (l : Lexer) (t : Token) : Scan Lexer :=
  l.saveKey.map fun l => { l with keys := none :: l.keys }.take 1 t true

def flowEnd (l : Lexer) (t : Token) : Scan Lexer :=
  l.dropKey.map fun l => { l with keys := if l.inFlow then l.keys.tail else l.keys }.take 1 t false

def flowEntry (l : Lexer) : Scan Lexer := l.dropKey.map (·.take 1 .flowEntry true)

def blockEntry (l : Lexer) : Scan Lexer :=
  if l.inFlow then l.dropKey.map (·.take 1 .blockEntry true)
  else if !l.keyAllowed then .refuses .blockEntryHere l.cursor.place
  else
    (l.indentTo l.cursor.place l.count .blockSequenceStart).dropKey.map (·.take 1 .blockEntry true)

def key (l : Lexer) : Scan Lexer :=
  if l.inFlow then l.dropKey.map (·.take 1 .key false)
  else if !l.keyAllowed then .refuses .blockKeyHere l.cursor.place
  else (l.indentTo l.cursor.place l.count .blockMappingStart).dropKey.map (·.take 1 .key true)

/-- A colon: the key that was possible is one now; without one a key is only possible where a
block may start. -/
def value (l : Lexer) : Scan Lexer :=
  match l.currentKey with
  | some k =>
    .ok (((l.pushAt k.number .key k.place).indentTo k.place k.number .blockMappingStart).setKey none
      |>.take 1 .value false)
  | none =>
    if l.inFlow then .ok (l.take 1 .value false)
    else if !l.keyAllowed then .refuses .blockValueHere l.cursor.place
    else .ok ((l.indentTo l.cursor.place l.count .blockMappingStart).take 1 .value true)

def content (l : Lexer) (read : Cursor → Scan (Token × Cursor)) : Scan Lexer :=
  l.saveKey.bind fun l => (read l.cursor).map fun (t, c) => l.accept c t false

def plain (l : Lexer) : Scan Lexer :=
  l.saveKey.bind fun l =>
    (readPlain l.inFlow l.cursor.place (l.indent + 1) (l.cursor.rest.length + 2) [] Gap.none
      l.cursor).map fun (text, broken, c) => l.accept c (.scalar .plain text) broken

def block (l : Lexer) (style : Style) : Scan Lexer :=
  l.dropKey.bind fun l =>
    (readBlock (style == .literal) l.indent l.cursor).map fun (text, c) =>
      l.accept c (.scalar style text) true

def quoted (l : Lexer) (style : Style) : Scan Lexer :=
  l.content fun c =>
    (readQuoted (style == .singleQuoted) c.place (c.rest.length + 2) [] (c.skip 1)).map
      fun (text, c) => (.scalar style text, c)

/-- A plain scalar starts with no indicator, or with a dash, question mark or colon that has no gap
behind it. -/
def startsPlain (c : Cursor) (inFlow : Bool) (x : Char) : Bool :=
  if x == '-' then !(c.peekAt? 1).any isBlank
  else if x == '?' || x == ':' then !inFlow && !c.gapAt 1
  else !(isBlank x || isFlowIndicator x || "#&*!|>'\"%@\x60".toList.contains x)

/-- The token at the cursor, which stands behind all blanks. -/
def token (l : Lexer) (x : Char) : Scan Lexer :=
  let c := l.cursor
  if c.column == 0 && x == '%' then l.directive
  else if c.atMark '-' then l.documentMark .documentStart
  else if c.atMark '.' then l.documentMark .documentEnd
  else if x == '[' then l.flowStart .flowSequenceStart
  else if x == '{' then l.flowStart .flowMappingStart
  else if x == ']' then l.flowEnd .flowSequenceEnd
  else if x == '}' then l.flowEnd .flowMappingEnd
  else if x == ',' then l.flowEntry
  else if x == '-' && c.gapAt 1 then l.blockEntry
  else if x == '?' && (l.inFlow || c.gapAt 1) then l.key
  else if x == ':' && (l.inFlow || c.gapAt 1) then l.value
  else if x == '*' then l.content fun c => (readName .alias c).map fun (n, c) => (.alias n, c)
  else if x == '&' then l.content fun c => (readName .anchor c).map fun (n, c) => (.anchor n, c)
  else if x == '!' then l.content (readTag l.inFlow)
  else if x == '|' && !l.inFlow then l.block .literal
  else if x == '>' && !l.inFlow then l.block .folded
  else if x == '\'' then l.quoted .singleQuoted
  else if x == '"' then l.quoted .doubleQuoted
  else if startsPlain c l.inFlow x then l.plain
  else .fails .noTokenStart c.place .token c.place

def finish (l : Lexer) : Scan Lexer :=
  let c := l.cursor
  let l := if c.column = 0 then l else l.moveTo { c with line := c.line + 1, column := 0 }
  (l.dedentTo (-1)).dropKey.map (·.take 0 .streamEnd false)

/-- Reads one more token, and blocks that it closes or opens. -/
def advance (l : Lexer) : Scan Lexer :=
  (skipGap (l.cursor.rest.length + 1) l).refreshKeys.bind fun l =>
    let l := l.dedentTo l.cursor.column
    match l.cursor.peek? with
    | none => l.finish
    | some x => l.token x

/-- How many tokens are there for good: in front of one that may be a key others may come. -/
def settled (l : Lexer) : Nat :=
  l.keys.foldl (fun n k => k.elim n fun k => min n k.number) l.count

end Lexer

/-- The tokens of a text up to its end, or those that are there for good when a fault is met. -/
structure Tokens where
  items : List Placed
  fault : Option SyntaxFault

namespace Lexer

/-- All tokens of the text; every step takes at least one character. The last number counts the
tokens that are there for good. -/
def run : Nat → Lexer → Nat → Tokens
  | 0, l, _ => ⟨l.tokens.reverse, none⟩
  | fuel + 1, l, settled =>
    match l.refreshKeys with
    | .error f => ⟨l.tokens.reverse.take settled, some f⟩
    | .ok l =>
      match l.advance with
      | .error f => ⟨l.tokens.reverse.take l.settled, some f⟩
      | .ok l' =>
        if l'.tokens.head?.any (·.token == .streamEnd) then ⟨l'.tokens.reverse, none⟩
        else run fuel l' l.settled

end Lexer

def Tokens.ofText (text : List Char) : Tokens := Lexer.run (text.length + 2) (Lexer.start text) 0

end GatedPipeline.Yaml
