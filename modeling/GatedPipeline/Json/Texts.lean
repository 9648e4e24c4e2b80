import GatedPipeline.Json.Reader
import GatedPipeline.Text.Bytes
import GatedPipeline.Text.Quoted

namespace GatedPipeline.Json

inductive Problem where
  | endOfValue
  | endOfObject
  | endOfString
  | noColon
  | noComma
  | noWord
  | noValue
  | noKey
  | trailingComma
  | trailingCharacters
  | invalidEscape
  | halfEscape
  | noSecondEscape
  | controlCharacter
  | invalidNumber
  | hugeNumber
  | wrongKind (found expected : String)
deriving DecidableEq, Repr

def Problem.text : Problem → String
  | .endOfValue => "EOF while parsing a value"
  | .endOfObject => "EOF while parsing an object"
  | .endOfString => "EOF while parsing a string"
  | .noColon => "expected " ++ Text.ticked ":"
  | .noComma => "expected " ++ Text.ticked "," ++ " or " ++ Text.ticked "\x7d"
  | .noWord => "expected ident"
  | .noValue => "expected value"
  | .noKey => "key must be a string"
  | .trailingComma => "trailing comma"
  | .trailingCharacters => "trailing characters"
  | .invalidEscape => "invalid escape"
  | .halfEscape => "lone leading surrogate in hex escape"
  | .noSecondEscape => "unexpected end of hex escape"
  | .controlCharacter => "control character (\\u0000-\\u001F) found while parsing a string"
  | .invalidNumber => "invalid number"
  | .hugeNumber => "number out of range"
  | .wrongKind found expected => "invalid type: " ++ found ++ ", expected " ++ expected

structure Fault where
  problem : Problem
  index : Nat
deriving DecidableEq, Repr

/-- Lines are counted from one, and of the line the bytes that have been read. -/
def Fault.text (bytes : List Char) (f : Fault) : String :=
  let before := bytes.take f.index
  f.problem.text ++ " at line " ++ toString (before.count '\n' + 1) ++ " column " ++
    toString (before.reverse.takeWhile (· != '\n')).length

/-- The bytes that are still to be read, and how many have been. -/
structure Remaining where
  bytes : List Char
  index : Nat

abbrev Read := EStateM Fault Remaining

namespace Read

def peek : Read (Option Char) := do pure (← get).bytes.head?

def skip (n : Nat) : Read Unit := modify fun r => ⟨r.bytes.drop n, r.index + n⟩

def next : Read (Option Char) := do
  let c ← peek
  if c.isSome then skip 1
  pure c

def fails (p : Problem) : Read α := do throw ⟨p, (← get).index⟩

def failsAhead (p : Problem) : Read α := do
  let r ← get
  throw ⟨p, if r.bytes.isEmpty then r.index else r.index + 1⟩

def span (p : Char → Bool) : Read (List Char) := do
  let s := (← get).bytes.takeWhile p
  skip s.length
  pure s

def peekSolid : Read (Option Char) := do
  let _ ← span isSpace
  peek

def hex4 : Read Nat := do
  let r ← get
  if r.bytes.length < 4 then
    skip r.bytes.length
    fails .endOfString
  else
    skip 4
    match Text.hexNumber? (r.bytes.take 4) with
    | some n => pure n
    | none => fails .invalidEscape

/-- What has to follow the first half of a pair of codes. -/
def secondMark (mark : Char) : Read Unit := do
  match ← peek with
  | none => fails .endOfString
  | some c =>
    skip 1
    if c != mark then fails .noSecondEscape

def unicodeEscape : Read Char := do
  let n ← hex4
  if 0xDC00 ≤ n ∧ n ≤ 0xDFFF then fails .halfEscape
  else if 0xD800 ≤ n ∧ n ≤ 0xDBFF then
    secondMark '\\'
    secondMark 'u'
    let m ← hex4
    if m < 0xDC00 ∨ 0xDFFF < m then fails .halfEscape
    else pure (Char.ofNat (0x10000 + (n - 0xD800) * 0x400 + (m - 0xDC00)))
  else pure (Char.ofNat n)

def escapeValue? (c : Char) : Option Char :=
  [('"', '"'), ('\\', '\\'), ('/', '/'), ('b', Char.ofNat 8), ('f', Char.ofNat 12), ('n', '\n'),
    ('r', '\r'), ('t', '\t')].lookup c

def escape : Read (List Char) := do
  match ← next with
  | none => fails .endOfString
  | some 'u' => do pure (Text.encoded (String.ofList [← unicodeEscape])).toList
  | some c =>
    match escapeValue? c with
    | some x => pure [x]
    | none => fails .invalidEscape

def stringBody : Nat → Read (List Char)
  | 0 => fails .endOfString
  | fuel + 1 => do
    let run ← span fun c => c != '"' && c != '\\' && 32 ≤ c.toNat
    match ← peek with
    | none => fails .endOfString
    | some '"' =>
      skip 1
      pure run
    | some '\\' => do
      skip 1
      let c ← escape
      pure (run ++ c ++ (← stringBody fuel))
    | some _ =>
      skip 1
      fails .controlCharacter

def string : Read String := do
  skip 1
  let body ← stringBody ((← get).bytes.length + 1)
  pure ((Text.decoded? (String.ofList body)).getD "")

def word : List Char → Read Unit
  | [] => pure ()
  | c :: cs => do
    match ← next with
    | none => fails .endOfValue
    | some x => if x = c then word cs else fails .noWord

/-- The exponent behind its letter: its sign and digits. A number whose exponent is too large is
given up where that shows. -/
def exponent (zero : Bool) : Read (Bool × List Char) := do
  skip 1
  let down := (← peek) == some '-'
  if down || (← peek) == some '+' then skip 1
  match ← next with
  | none => fails .endOfValue
  | some c =>
    if !c.isDigit then fails .invalidNumber
    else
      let digits := c :: (← get).bytes.takeWhile Char.isDigit
      match (List.range digits.length).find? fun n =>
          (exponentValue (digits.take (n + 1))).isNone with
      | some n =>
        if !zero && !down then
          skip n
          fails .hugeNumber
      | none => pure ()
      skip (digits.length - 1)
      pure (down, digits)

def number (negative : Bool) : Read Number := do
  match ← next with
  | none => fails .endOfValue
  | some c =>
    if !c.isDigit then fails .invalidNumber
    else if c = '0' && (← peek).any Char.isDigit then failsAhead .invalidNumber
    else
      let whole := c :: (← span Char.isDigit)
      let fraction ←
        if (← peek) == some '.' then do
          skip 1
          let digits ← span Char.isDigit
          if digits.isEmpty then
            failsAhead (if (← peek).isSome then .invalidNumber else .endOfValue)
          pure (some digits)
        else pure none
      let zero := (whole ++ fraction.getD []).all (· == '0')
      let power ←
        if (← peek).any fun c => c == 'e' || c == 'E' then do pure (some (← exponent zero))
        else pure none
      let value :=
        match fraction, power with
        | none, none => wholeNumber negative whole
        | _, _ => floatingNumber negative whole (fraction.getD []) power
      match value with
      | some n => pure n
      | none => fails .hugeNumber

def numberText (n : Number) : String :=
  (match n with
    | .int _ => "integer "
    | .double _ => "floating point ") ++ Text.ticked n.text

def unexpected (expected : String) : Read α := do
  let kind (found : String) : Read α := fails (.wrongKind found expected)
  let named (rest found : String) : Read α := do
    skip 1
    word rest.toList
    kind found
  match ← peek with
  | some 'n' => named "ull" "null"
  | some 't' => named "rue" ("boolean " ++ Text.ticked "true")
  | some 'f' => named "alse" ("boolean " ++ Text.ticked "false")
  | some '"' => do
    let s ← string
    kind ("string " ++ Text.quoted s)
  | some '[' => kind "sequence"
  | some '{' => kind "map"
  | some '-' => do
    skip 1
    let n ← number true
    kind (numberText n)
  | some c =>
    if c.isDigit then do
      let n ← number false
      kind (numberText n)
    else failsAhead .noValue
  | none => failsAhead .noValue

def textValue : Read String := do
  match ← peekSolid with
  | none => failsAhead .endOfValue
  | some '"' => string
  | some _ => unexpected "a string"

/-- Whether there is a further member; if so its quote comes next. -/
def hasMember (first : Bool) : Read Bool := do
  match ← peekSolid with
  | none => failsAhead .endOfObject
  | some '}' => pure false
  | some c =>
    if first then if c = '"' then pure true else failsAhead .noKey
    else if c = ',' then
      skip 1
      match ← peekSolid with
      | some '"' => pure true
      | some '}' => failsAhead .trailingComma
      | some _ => failsAhead .noKey
      | none => failsAhead .endOfValue
    else failsAhead .noComma

def members (first : Bool) : Nat → Read (List (String × String))
  | 0 => pure []
  | fuel + 1 => do
    if ← hasMember first then
      let key ← string
      match ← peekSolid with
      | some ':' =>
        skip 1
        let value ← textValue
        pure ((key, value) :: (← members false fuel))
      | some _ => failsAhead .noColon
      | none => failsAhead .endOfObject
    else
      skip 1
      pure []

/-- The whole text is one object, with blanks around it at most. -/
def texts : Read (List (String × String)) := do
  match ← peekSolid with
  | none => failsAhead .endOfValue
  | some '{' =>
    skip 1
    let ms ← members true ((← get).bytes.length + 1)
    match ← peekSolid with
    | some _ => failsAhead .trailingCharacters
    | none => pure ms
  | some _ => unexpected "a map"

end Read

def readTexts (text : String) : Except String (List (String × String)) :=
  let bytes := (Text.encoded text).toList
  match Read.texts.run ⟨bytes, 0⟩ with
  | .ok ms _ => .ok ms
  | .error f _ => .error (f.text bytes)

end GatedPipeline.Json
