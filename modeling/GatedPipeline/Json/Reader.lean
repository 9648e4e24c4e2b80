import GatedPipeline.Json.Basic
import GatedPipeline.Text.Bytes

namespace GatedPipeline.Json

def isSpace (c : Char) : Bool := c == ' ' || c == '\n' || c == '\t' || c == '\r'

def skipSpace (s : List Char) : List Char := s.dropWhile isSpace

/-- Appends digits to a number as long as it stays below `2 ^ 64`; also tells how many it took. -/
def absorb (n taken : Nat) : List Char → Nat × Nat
  | [] => (n, taken)
  | c :: cs =>
    let next := n * 10 + (c.toNat - 48)
    if next < Nat.pow 2 64 then absorb next (taken + 1) cs else (n, taken)

def powerOfTen (e : Nat) : Double :=
  ((Double.nearest? false (Nat.pow 10 e) 1).getD (Double.zero false))

/-- Divides by `10 ^ e`, in strides of `10 ^ 308` while `e` is larger. -/
def divideDown : Nat → Double → Nat → Option Double
  | 0, x, _ => some (Double.zero x.negative)
  | fuel + 1, x, e =>
    if e ≤ 308 then x.div? (powerOfTen e)
    else if x.mantissa = 0 then some x
    else (x.div? (powerOfTen 308)).bind fun y => divideDown fuel y (e - 308)

/-- The number `± significand · 10 ^ e`: the significand and the power of ten are each rounded,
and then their product or quotient. -/
def fromParts (negative : Bool) (significand : Nat) (e : Int) : Option Double :=
  (Double.nearest? negative significand 1).bind fun x =>
    if 0 ≤ e then
      if e ≤ 308 then x.mul? (powerOfTen e.toNat)
      else if significand = 0 then some x
      else none
    else divideDown 4 x (-e).toNat

/-- A number without point and exponent: whole as long as it fits into 64 bits; the negative zero
is a floating number. -/
def wholeNumber (negative : Bool) (digits : List Char) : Option Number :=
  let a := absorb 0 0 digits
  if a.2 < digits.length then
    (fromParts negative a.1 (digits.length - a.2)).map .double
  else if !negative then some (.int a.1)
  else if 0 < a.1 ∧ a.1 ≤ Nat.pow 2 63 then some (.int (-(a.1 : Int)))
  else (Double.nearest? true a.1 1).map .double

def exponentValue (digits : List Char) : Option Nat :=
  digits.foldl (fun r c => r.bind fun n =>
    let next := n * 10 + (c.toNat - 48)
    if next < Nat.pow 2 31 then some next else none) (some 0)

def floatingNumber (negative : Bool) (whole fraction : List Char)
    (exponent : Option (Bool × List Char)) : Option Number :=
  let a := absorb 0 0 whole
  let b := absorb a.1 0 fraction
  let e : Int := (whole.length : Int) - a.2 - b.2
  match exponent with
  | none => (fromParts negative b.1 e).map .double
  | some (down, digits) =>
    match exponentValue digits with
    | none => if b.1 ≠ 0 ∧ !down then none else some (.double (Double.zero negative))
    | some n => (fromParts negative b.1 (if down then e - n else e + n)).map .double

/-- The exponent part: its sign and digits, of which there has to be one. -/
def readExponent (s : List Char) : Option ((Bool × List Char) × List Char) :=
  let signed : Bool × List Char :=
    match s with
    | '+' :: r => (false, r)
    | '-' :: r => (true, r)
    | r => (false, r)
  let digits := signed.2.takeWhile Char.isDigit
  if digits.isEmpty then none else some ((signed.1, digits), signed.2.dropWhile Char.isDigit)

def readNumber (s : List Char) : Option (Number × List Char) :=
  let negative := s.head? == some '-'
  let body := if negative then s.tail else s
  let whole := body.takeWhile Char.isDigit
  let rest := body.dropWhile Char.isDigit
  if whole.isEmpty || (whole.head? == some '0' && 1 < whole.length) then none
  else
    let fraction : Option (List Char × List Char) :=
      match rest with
      | '.' :: r =>
        if (r.takeWhile Char.isDigit).isEmpty then none
        else some (r.takeWhile Char.isDigit, r.dropWhile Char.isDigit)
      | r => some ([], r)
    fraction.bind fun (digits, rest') =>
      match rest' with
      | c :: r =>
        if c == 'e' || c == 'E' then
          (readExponent r).bind fun (e, r') =>
            (floatingNumber negative whole digits (some e)).map (·, r')
        else if digits.isEmpty then (wholeNumber negative whole).map (·, rest')
        else (floatingNumber negative whole digits none).map (·, rest')
      | [] =>
        if digits.isEmpty then (wholeNumber negative whole).map (·, rest')
        else (floatingNumber negative whole digits none).map (·, rest')

def readHex4 : List Char → Option (Nat × List Char)
  | a :: b :: c :: d :: rest => (Text.hexNumber? [a, b, c, d]).map (·, rest)
  | _ => none

/-- What follows a backslash: one character, or a code, two codes where the first is the first
half of a pair. -/
def readEscape : List Char → Option (Char × List Char)
  | '"' :: r => some ('"', r)
  | '\\' :: r => some ('\\', r)
  | '/' :: r => some ('/', r)
  | 'b' :: r => some (Char.ofNat 8, r)
  | 'f' :: r => some (Char.ofNat 12, r)
  | 'n' :: r => some ('\n', r)
  | 'r' :: r => some ('\r', r)
  | 't' :: r => some ('\t', r)
  | 'u' :: r =>
    (readHex4 r).bind fun (n, r) =>
      if 0xD800 ≤ n ∧ n < 0xDC00 then
        match r with
        | '\\' :: 'u' :: r' =>
          (readHex4 r').bind fun (m, r'') =>
            if 0xDC00 ≤ m ∧ m < 0xE000 then
              some (Char.ofNat (0x10000 + (n - 0xD800) * 0x400 + (m - 0xDC00)), r'')
            else none
        | _ => none
      else if 0xDC00 ≤ n ∧ n < 0xE000 then none
      else some (Char.ofNat n, r)
  | _ => none

/-- The rest of a text after its opening quote, gathered in reverse. -/
def readStringFrom : Nat → List Char → List Char → Option (String × List Char)
  | 0, _, _ => none
  | fuel + 1, acc, s =>
    match s with
    | [] => none
    | '"' :: r => some (String.ofList acc.reverse, r)
    | '\\' :: r => (readEscape r).bind fun (c, r') => readStringFrom fuel (c :: acc) r'
    | c :: r => if c.toNat < 32 then none else readStringFrom fuel (c :: acc) r

mutual

/-- Reads a value that starts at the first character; `depth` counts the lists and objects that
may still be opened. -/
def readValue : Nat → Nat → List Char → Option (Json × List Char)
  | 0, _, _ => none
  | fuel + 1, depth, s =>
    match s with
    | 'n' :: 'u' :: 'l' :: 'l' :: r => some (.null, r)
    | 't' :: 'r' :: 'u' :: 'e' :: r => some (.bool true, r)
    | 'f' :: 'a' :: 'l' :: 's' :: 'e' :: r => some (.bool false, r)
    | '"' :: r => (readStringFrom (r.length + 1) [] r).map fun (t, r') => (.str t, r')
    | '[' :: r =>
      match depth with
      | 0 => none
      | depth + 1 =>
        match skipSpace r with
        | ']' :: r' => some (.arr [], r')
        | r' => readItems fuel depth [] r'
    | '{' :: r =>
      match depth with
      | 0 => none
      | depth + 1 =>
        match skipSpace r with
        | '}' :: r' => some (.obj [], r')
        | r' => readMembers fuel depth [] r'
    | _ => (readNumber s).map fun (n, r) => (.num n, r)

def readItems : Nat → Nat → List Json → List Char → Option (Json × List Char)
  | 0, _, _, _ => none
  | fuel + 1, depth, acc, s =>
    (readValue fuel depth s).bind fun (x, r) =>
      match skipSpace r with
      | ',' :: r' => readItems fuel depth (x :: acc) (skipSpace r')
      | ']' :: r' => some (.arr (x :: acc).reverse, r')
      | _ => none

def readMembers : Nat → Nat → List (String × Json) → List Char → Option (Json × List Char)
  | 0, _, _, _ => none
  | fuel + 1, depth, acc, s =>
    match s with
    | '"' :: r =>
      (readStringFrom (r.length + 1) [] r).bind fun (k, r) =>
        match skipSpace r with
        | ':' :: r' =>
          (readValue fuel depth (skipSpace r')).bind fun (x, r) =>
            match skipSpace r with
            | ',' :: r' => readMembers fuel depth ((k, x) :: acc) (skipSpace r')
            | '}' :: r' => some (.obj ((k, x) :: acc).reverse, r')
            | _ => none
        | _ => none
    | _ => none

end

def depthLimit : Nat := 127

/-- The whole text is one value, with blanks around it at most. Members stay as they are written. -/
def read? (text : String) : Option Json :=
  let s := skipSpace text.toList
  (readValue (s.length + 1) depthLimit s).bind fun (j, r) =>
    if (skipSpace r).isEmpty then some j else none

end GatedPipeline.Json
