import GatedPipeline.Text.Bytes
import GatedPipeline.Text.CharacterClass

namespace GatedPipeline.Shell

/-- Each byte is a character, or they are the bytes of UTF-8. -/
inductive Charset where
  | bytes
  | unicode
deriving DecidableEq, Repr

namespace Charset

/-- A byte that is part of no character is shown by one of the last 256 numbers, which no
character of a text has. -/
def firstStray : Nat := 0x10FF00

def isContinuation (n : Nat) : Bool := 0x80 ≤ n && n < 0xC0

/-- The character at the beginning of bytes, and of how many it is made. -/
def leading? : List Nat → Option (Nat × Nat)
  | [] => none
  | b :: bs =>
    let made (count first least : Nat) : Option (Nat × Nat) :=
      let others := bs.take (count - 1)
      let n := others.foldl (fun n x => n * 64 + (x - 0x80)) first
      if others.length + 1 == count && others.all isContinuation && least ≤ n &&
          n < firstStray + 0x80 && !(0xD800 ≤ n && n < 0xE000) then some (n, count)
      else none
    if 0xC2 ≤ b && b < 0xE0 then made 2 (b - 0xC0) 0x80
    else if 0xE0 ≤ b && b < 0xF0 then made 3 (b - 0xE0) 0x800
    else if 0xF0 ≤ b && b < 0xF5 then made 4 (b - 0xF0) 0x10000
    else none

/-- Puts the bytes together to characters, whatever it is that bears them. -/
def join (byte? : α → Option Char) (make : Char → α → α) : List α → List α
  | [] => []
  | x :: xs =>
    match byte? x with
    | none => x :: join byte? make xs
    | some c =>
      if c.toNat < 0x80 then x :: join byte? make xs
      else
        let front := ((x :: xs).take 4).map byte? |>.takeWhile Option.isSome
        match leading? (front.map fun b => (b.map Char.toNat).getD 0) with
        | some (n, count) =>
          make (Char.ofNat n) x :: join byte? make (xs.drop (count - 1))
        | none => make (Char.ofNat (firstStray + c.toNat)) x :: join byte? make xs
termination_by s => s.length
decreasing_by
  all_goals simp only [List.length_cons, List.length_drop]
  all_goals omega

def isStray (c : Char) : Bool := firstStray + 0x80 ≤ c.toNat

def bytesOf (c : Char) : List Char :=
  if c.toNat < 0x80 then [c]
  else if isStray c then [Char.ofNat (c.toNat - firstStray)]
  else (Text.encoded (String.singleton c)).toList

def units : Charset → List Char → List Char
  | .bytes, s => s
  | .unicode, s => join some (fun c _ => c) s

def text : Charset → List Char → List Char
  | .bytes, s => s
  | .unicode, s => s.flatMap bytesOf

def length (k : Charset) (s : String) : Nat := (k.units s.toList).length

/-- How many characters of a text are whole; at its end one may only have begun. -/
def finished (k : Charset) (s : String) : Nat :=
  let cs := s.toList
  let tail := (cs.reverse.takeWhile fun c => isContinuation c.toNat).length + 1
  let open? (n : Nat) : Bool :=
    match (cs.drop (cs.length - n)).map Char.toNat with
    | b :: bs =>
      let count := if 0xF0 ≤ b then 4 else if 0xE0 ≤ b then 3 else 2
      0xC2 ≤ b && b < 0xF5 && bs.length + 1 < count && bs.all isContinuation
    | [] => false
  if k == .unicode && open? tail then k.length s - tail else k.length s

def onUnits (k : Charset) (f : List Char → List Char) (s : String) : String :=
  String.ofList (k.text (f (k.units s.toList)))

def toUpper : Charset → Char → Char
  | .bytes, c => c.toUpper
  | .unicode, c => Text.upperPartner c

def toLower : Charset → Char → Char
  | .bytes, c => c.toLower
  | .unicode, c => Text.lowerPartner c

def isUpper : Charset → Char → Bool
  | .bytes, c => c.isUpper
  | .unicode, c => Text.CharacterClass.isUpper c

/-- The character is in the class of a name. Bytes beyond those of ASCII are in none. -/
def inClass (k : Charset) (name : String) (c : Char) : Bool :=
  (k == .unicode || c.toNat < 0x80) && !isStray c &&
    Text.CharacterClass.contains name c

/-- The character has a form that can be seen, or is a space. -/
def isVisible (k : Charset) (c : Char) : Bool := k.inClass "print" c

/-- What a character given by its number is written as: where it has no bytes of its own, in
hexadecimal digits. -/
def numbered (k : Charset) (width n : Nat) : List Char :=
  if n < 0x80 then [Char.ofNat n]
  else if k == .unicode then
    if n < 0x110000 && !(0xD800 ≤ n && n < 0xE000) then
      (Text.encoded (String.singleton (Char.ofNat n))).toList
    else wide n
  else
    '\\' :: (if width ≤ 4 then 'u' else 'U') ::
      (Text.hexDigits n (if width ≤ 4 then 4 else 8)).map Char.toUpper
where
  wide (n : Nat) : List Char :=
    let tail (count : Nat) : List Char :=
      (List.range count).reverse.map fun i => Char.ofNat (0x80 + n / Nat.pow 64 i % 64)
    if n < 0x10000 then Char.ofNat (0xE0 + n / Nat.pow 64 2) :: tail 2
    else if n < 0x200000 then Char.ofNat (0xF0 + n / Nat.pow 64 3) :: tail 3
    else if n < 0x4000000 then Char.ofNat (0xF8 + n / Nat.pow 64 4) :: tail 4
    else if n < 0x80000000 then Char.ofNat (0xFC + n / Nat.pow 64 5) :: tail 5
    else []

end Charset

end GatedPipeline.Shell
