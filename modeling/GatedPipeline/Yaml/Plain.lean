import GatedPipeline.Json.Basic
import GatedPipeline.Text.Bytes
import GatedPipeline.Yaml.Event

namespace GatedPipeline.Yaml

def isNullText (s : String) : Bool := s == "null" || s == "Null" || s == "NULL" || s == "~"

def truth? (s : String) : Option Bool :=
  if s = "true" ∨ s = "True" ∨ s = "TRUE" then some true
  else if s = "false" ∨ s = "False" ∨ s = "FALSE" then some false
  else none

def withoutSign : List Char → List Char
  | '-' :: r => r
  | '+' :: r => r
  | s => s

/-- A decimal with a leading zero is no number. -/
def hasLeadingZero (s : List Char) : Bool :=
  let body := withoutSign s
  1 < body.length && body.head? == some '0' && body.all Char.isDigit

/-- The number that digits below `radix` stand for; there is at least one digit. -/
def digitsValue? (radix : Nat) (s : List Char) : Option Nat :=
  if s.isEmpty then none
  else
    s.foldl (fun r c => r.bind fun n =>
      ((Text.hexValue? c).filter (· < radix)).map (n * radix + ·)) (some 0)

/-- Digits in the radix that `0x`, `0o` or `0b` tells, if one of them stands in front. -/
def radixValue? : List Char → Option Nat
  | '0' :: 'x' :: r => digitsValue? 16 r
  | '0' :: 'o' :: r => digitsValue? 8 r
  | '0' :: 'b' :: r => digitsValue? 2 r
  | _ => none

def natural? (s : List Char) : Option Nat :=
  let body : List Char :=
    match s with
    | '+' :: r => r
    | r => r
  (radixValue? body).or (if hasLeadingZero s then none else digitsValue? 10 body)

def negated? (s : List Char) : Option Nat :=
  match s with
  | '-' :: r => (radixValue? r).or (if hasLeadingZero s then none else digitsValue? 10 r)
  | _ => none

/-- The exponent behind its letter: all of the text, with an optional sign. -/
def exponent? (s : List Char) : Option Int :=
  match s with
  | '-' :: r => (digitsValue? 10 r).map fun n => -(n : Int)
  | '+' :: r => (digitsValue? 10 r).map Int.ofNat
  | r => (digitsValue? 10 r).map Int.ofNat

/-- A decimal number: digits with or without a point, and perhaps an exponent. -/
def decimal? (s : List Char) : Option Double :=
  let negative := s.head? == some '-'
  let body := withoutSign s
  let before := body.takeWhile Char.isDigit
  let rest := body.dropWhile Char.isDigit
  let after : List Char × List Char :=
    match rest with
    | '.' :: r => (r.takeWhile Char.isDigit, r.dropWhile Char.isDigit)
    | r => ([], r)
  let exponent : Option Int :=
    match after.2 with
    | [] => some 0
    | c :: r => if c == 'e' || c == 'E' then exponent? r else none
  exponent.bind fun e =>
    (digitsValue? 10 (before ++ after.1)).bind fun n =>
      Double.ofDecimal? negative n (e - after.1.length)

inductive Resolved where
  | nothing
  | truth (b : Bool)
  | natural (n : Nat)
  | negative (n : Int)
  | wide (minus : Bool) (n : Int)
  | float (x : Double)
  | infinite (minus : Bool)
  | notNumber
  | text (s : String)
deriving DecidableEq, Repr

namespace Resolved

/-- A whole number: one that fits into 64 bits, or a wide one that fits into twice as many. -/
def whole? (s : List Char) : Option Resolved :=
  match natural? s, negated? s with
  | some n, _ =>
    if n < Nat.pow 2 64 then some (.natural n)
    else if n < Nat.pow 2 128 then some (.wide false n)
    else none
  | none, some n =>
    if n ≤ Nat.pow 2 63 then some (.negative (-(n : Int)))
    else if n ≤ Nat.pow 2 127 then some (.wide true (-(n : Int)))
    else none
  | none, none => none

def float? (s : String) : Option Resolved :=
  let body : String :=
    match s.toList with
    | '+' :: r => String.ofList r
    | _ => s
  if [".inf", ".Inf", ".INF"].contains body then some (.infinite false)
  else if ["-.inf", "-.Inf", "-.INF"].contains s then some (.infinite true)
  else if [".nan", ".NaN", ".NAN"].contains s then some .notNumber
  else if (s.toList.take 2).all (fun c => c == '+' || c == '-') && 2 ≤ s.length then none
  else (decimal? s.toList).map .float

def ofPlain (s : String) : Resolved :=
  if s = "" || isNullText s then .nothing
  else
    match truth? s with
    | some b => .truth b
    | none =>
      ((whole? s.toList).or (if hasLeadingZero s.toList then none else float? s)).getD (.text s)

/-- A value as data; the infinities and what is no number become null. -/
def json : Resolved → Json
  | .nothing | .infinite _ | .notNumber => .null
  | .truth b => .bool b
  | .natural n => .num (.int n)
  | .negative n | .wide _ n => .num (.int n)
  | .float x => .num (.double x)
  | .text s => .str s

end Resolved

def coreTag (name : String) : String := "tag:yaml.org,2002:" ++ name

/-- What a tag says beyond the tags that all documents know. -/
def localTag? (tag : Option String) : Option String :=
  (tag.filter (·.startsWith "!")).map fun t => if t = "!" then t else (t.drop 1).toString

/-- The value of a scalar by its tag, and by its text where it is plain and has no tag. Where text
and tag disagree the error says what the tag asks for. -/
def resolve (tag : Option String) (style : Style) (text : String) : Except String Resolved :=
  let asked (kind : String) (value : Option Resolved) : Except String Resolved :=
    match value with
    | some r => .ok r
    | none => .error kind
  match tag with
  | none => .ok (if style = .plain then .ofPlain text else .text text)
  | some t =>
    if t = coreTag "bool" then asked "a boolean" ((truth? text).map .truth)
    else if t = coreTag "int" then asked "an integer" (Resolved.whole? text.toList)
    else if t = coreTag "float" then asked "a float" (Resolved.float? text)
    else if t = coreTag "null" then
      asked "null" (if isNullText text then some .nothing else none)
    else .ok (if t.startsWith "!" && style = .plain then .ofPlain text else .text text)

end GatedPipeline.Yaml
