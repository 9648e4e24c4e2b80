import GatedPipeline.Text.Bytes
import GatedPipeline.Yaml.Plain

namespace GatedPipeline.Yaml

/-- Characters that may stand unescaped: no controls but the line feed. -/
def isUnescaped (c : Char) : Bool :=
  let n := c.toNat
  n == 0xA || (0x20 ≤ n && n ≤ 0x7E) || (0xA0 ≤ n && n < 0xFFFE && n != 0xFEFF) || 0x10000 ≤ n

def isLineBreak (c : Char) : Bool :=
  c == '\n' || c == '\r' || [0x85, 0x2028, 0x2029].contains c.toNat

def isGap : Option Char → Bool
  | none => true
  | some c => c == ' ' || c == '\t' || isLineBreak c

def pairs (s : List Char) : List (Char × Char) := s.zip (s.drop 1)

/-- The beginning of the text would be taken for an indicator. -/
def startsLikeIndicator (s : List Char) : Bool :=
  ['-', '-', '-'].isPrefixOf s || ['.', '.', '.'].isPrefixOf s ||
    match s with
    | [] => false
    | c :: rest =>
      ("#,[]\x7b\x7d&*!|>'\"%@".toList.contains c || c.toNat == 0x60) ||
        ((c == '?' || c == ':' || c == '-') && isGap rest.head?)

/-- A colon before a gap or a number sign behind one would end the text. -/
def hasIndicatorInside (s : List Char) : Bool :=
  s.getLast? == some ':' ||
    (pairs s).any fun p => (p.1 == ':' && isGap (some p.2)) || (isGap (some p.1) && p.2 == '#')

def mayBePlain (s : List Char) : Bool :=
  s.head? != some ' ' && s.getLast? != some ' ' && !s.any isLineBreak && s.all isUnescaped &&
    !startsLikeIndicator s && !hasIndicatorInside s

/-- Spaces after a line break cannot be kept in single quotes. -/
def mayBeSingleQuoted (s : List Char) : Bool :=
  s.all isUnescaped && !((pairs s).any fun p =>
    (isLineBreak p.1 && p.2 == ' ') || (p.1 == ' ' && isLineBreak p.2))

def mayBeBlock (s : List Char) : Bool :=
  s.all isUnescaped && s.getLast? != some ' ' &&
    !((pairs s).any fun p => p.1 == ' ' && isLineBreak p.2)

/-- Characters of a text over several lines: each line is indented, whatever kind of line break
stands in front of it. `broken` tells that a line break was the last character. -/
def indented (encode : Char → List Char) : Bool → List Char → List Char
  | _, [] => []
  | broken, c :: cs =>
    if isLineBreak c then c :: indented encode true cs
    else (if broken then [' ', ' '] else []) ++ encode c ++ indented encode false cs

def endsInBreak (s : List Char) : Bool := s.getLast?.any isLineBreak

def singleQuoted (s : List Char) : String :=
  String.ofList ('\'' :: indented (fun c => if c == '\'' then ['\'', '\''] else [c]) false s ++
    (if endsInBreak s then [' ', ' '] else []) ++ ['\'', '\n'])

def escapes : List (Nat × Char) :=
  [(0, '0'), (7, 'a'), (8, 'b'), (9, 't'), (10, 'n'), (11, 'v'), (12, 'f'), (13, 'r'), (0x1B, 'e'),
    (0x22, '"'), (0x5C, '\\'), (0x85, 'N'), (0xA0, '_'), (0x2028, 'L'), (0x2029, 'P')]

def escaped (c : Char) : List Char :=
  let n := c.toNat
  if isUnescaped c && c != '"' && c != '\\' && !isLineBreak c then [c]
  else
    match escapes.lookup n with
    | some e => ['\\', e]
    | none =>
      let code (letter : Char) (width : Nat) : List Char :=
        '\\' :: letter :: (Text.hexDigits n width).map Char.toUpper
      if n ≤ 0xFF then code 'x' 2 else if n ≤ 0xFFFF then code 'u' 4 else code 'U' 8

def doubleQuoted (s : List Char) : String := String.ofList ('"' :: s.flatMap escaped ++ ['"', '\n'])

/-- A block of lines, the last one with its end; the sign after the bar says what happens to the
line end at the end of the text. -/
def block (s : List Char) : String :=
  let start := if isGap s.head? then "2" else ""
  let ending :=
    match s.reverse with
    | c :: d :: _ => if !isLineBreak c then "-" else if isLineBreak d then "+" else ""
    | [c] => if isLineBreak c then "+" else "-"
    | [] => "-"
  "|" ++ start ++ ending ++ "\n" ++ String.ofList (indented (fun c => [c]) true s) ++
    if endsInBreak s then "" else "\n"

/-- Some other value than the text would be read from it if it stood plain. -/
def readsDifferently (s : String) : Bool :=
  hasLeadingZero s.toList ||
    match Resolved.ofPlain s with
    | .text _ => false
    | _ => true

/-- A text as a scalar, which takes the rest of its line and perhaps further lines. -/
def scalarLine (s : String) : String :=
  let cs := s.toList
  if cs.contains '\n' then if mayBeBlock cs then block cs else doubleQuoted cs
  else if mayBePlain cs && !readsDifferently s then s ++ "\n"
  else if mayBeSingleQuoted cs then singleQuoted cs
  else doubleQuoted cs

def listText (name : String) (items : List String) : String :=
  if items.isEmpty then name ++ ": []\n"
  else name ++ ":\n" ++ String.join (items.map fun i => "- " ++ scalarLine i)

def entryText (name value : String) : String := name ++ ": " ++ scalarLine value

end GatedPipeline.Yaml
