import GatedPipeline.Number.Double
import GatedPipeline.Text.Bytes

namespace GatedPipeline.Decimal

open Double (roundDiv floorLog2 scaled decimalRatio)

/-- The nearest ratio with so many significant bits. -/
def rounded (bits n d : Nat) : Nat × Nat :=
  if n = 0 then (0, 1)
  else
    let ulp := floorLog2 n d - (bits - 1 : Nat)
    let s := scaled n d ulp
    let m := roundDiv s.1 s.2
    if 0 ≤ ulp then (m * Nat.pow 2 ulp.toNat, 1) else (m, Nat.pow 2 (-ulp).toNat)

def zeros (n : Nat) : String := String.ofList (List.replicate n '0')

def withPoint (places : Nat) (digits : String) : String :=
  let padded := zeros (places + 1 - digits.length) ++ digits
  let whole := padded.length - places
  let cs := padded.toList
  if places = 0 then padded
  else String.ofList (cs.take whole) ++ "." ++ String.ofList (cs.drop whole)

def fixed (places n d : Nat) : String :=
  withPoint places (toString (roundDiv (n * Nat.pow 10 places) d))

/-- The exponent of the first digit that is not zero, for positive ratios. -/
def leading (n d : Nat) : Int :=
  let guess : Int := ((toString n).length : Int) - (toString d).length
  let s := decimalRatio 1 guess
  if n * s.2 < s.1 * d then guess - 1 else guess

/-- One digit before the point and so many after it, with the exponent. -/
def scientific (places n d : Nat) : String × Int :=
  if n = 0 then (withPoint places (zeros (places + 1)), 0)
  else
    let e := leading n d
    let s := decimalRatio 1 ((places : Int) - e)
    let m := roundDiv (n * s.1) (d * s.2)
    if m = Nat.pow 10 (places + 1) then (withPoint places (toString (Nat.pow 10 places)), e + 1)
    else (withPoint places (toString m), e)

def exponent (mark : String) (e : Int) : String :=
  let ds := toString e.natAbs
  mark ++ (if e < 0 then "-" else "+") ++ zeros (2 - ds.length) ++ ds

/-- Without zeros at the end of the places, and without the point if nothing follows it. -/
def trimmed (s : String) : String :=
  if s.contains '.' then
    let cs := s.toList.reverse.dropWhile (· == '0')
    String.ofList (if cs.head? == some '.' then cs.drop 1 else cs).reverse
  else s

/-- So many significant digits, in whichever form is shorter. -/
def general (digits : Nat) (keepsZeros : Bool) (mark : String) (n d : Nat) : String :=
  let digits := max digits 1
  let (m, e) := scientific (digits - 1) n d
  let short (s : String) : String := if keepsZeros then s else trimmed s
  if -4 ≤ e && e < digits then
    let text := fixed ((digits : Int) - 1 - e).toNat n d
    short (if keepsZeros && !text.contains '.' then text ++ "." else text)
  else short m ++ exponent mark e

/-- The decimal number that a text begins with: its sign, the number as a ratio, and the rest. -/
def read? (s : List Char) : Option (Bool × Nat × Nat × List Char) :=
  let (isNegative, s) :=
    match s with
    | '-' :: cs => (true, cs)
    | '+' :: cs => (false, cs)
    | _ => (false, s)
  let whole := s.takeWhile Char.isDigit
  let rest := s.drop whole.length
  let (places, rest) :=
    match rest with
    | '.' :: cs => (cs.takeWhile Char.isDigit, cs.dropWhile Char.isDigit)
    | _ => ([], rest)
  if whole.isEmpty && places.isEmpty then none
  else
    let n := ((String.ofList (whole ++ places)).toNat?).getD 0
    let (e, rest) : Int × List Char :=
      match rest with
      | x :: cs =>
        let (minus, ds) :=
          match cs with
          | '-' :: ds => (true, ds)
          | '+' :: ds => (false, ds)
          | _ => (false, cs)
        let digits := ds.takeWhile Char.isDigit
        if (x == 'e' || x == 'E') && !digits.isEmpty then
          let k : Int := (min (((String.ofList digits).toNat?).getD 0) 5000 : Nat)
          (if minus then -k else k, ds.drop digits.length)
        else (0, rest)
      | [] => (0, [])
    let r := decimalRatio n (e - places.length)
    some (isNegative, r.1, r.2, rest)

end GatedPipeline.Decimal

namespace GatedPipeline.Hexadecimal

open Double (roundDiv floorLog2 scaled)

/-- The power of two that follows a mark, and the rest. -/
def power (s : List Char) : Int × List Char :=
  match s with
  | p :: cs =>
    let (isMinus, ds) :=
      match cs with
      | '-' :: ds => (true, ds)
      | '+' :: ds => (false, ds)
      | _ => (false, cs)
    let digits := ds.takeWhile Char.isDigit
    if (p == 'p' || p == 'P') && !digits.isEmpty then
      let k : Int := (min (((String.ofList digits).toNat?).getD 0) 20000 : Nat)
      (if isMinus then -k else k, ds.drop digits.length)
    else (0, s)
  | [] => (0, [])

/-- The number that a text begins with, after its `0x`: a ratio, and the rest. -/
def read? (s : List Char) : Option (Nat × Nat × List Char) :=
  let whole := s.takeWhile Text.isHexDigit
  let rest := s.drop whole.length
  let (places, rest) :=
    match rest with
    | '.' :: cs => (cs.takeWhile Text.isHexDigit, cs.dropWhile Text.isHexDigit)
    | _ => ([], rest)
  if whole.isEmpty && places.isEmpty then none
  else
    let n := (Text.hexNumber? (whole ++ places)).getD 0
    let (e, rest) := power rest
    let r := scaled n 1 (4 * places.length - e)
    some (r.1, r.2, rest)

/-- A ratio after its `0x`, where the first digit holds so many bits: with as many places as asked
for, or else without zeros at the end. -/
def general (lead most : Nat) (places : Option Nat) (n d : Nat) : String × Int :=
  let count := places.getD most
  let (m, e) : Nat × Int :=
    if n = 0 then (0, 0)
    else
      let unit := floorLog2 n d - (lead - 1 : Nat)
      let s := scaled n d (unit - (4 * count : Nat))
      (roundDiv s.1 s.2, unit)
  let (m, e) := if m = Nat.pow 16 (count + 1) then (Nat.pow 16 count, e + 4) else (m, e)
  let text := Decimal.withPoint count (String.ofList (Text.hexDigits m (count + 1)))
  (if places.isNone then Decimal.trimmed text else text, e)

end GatedPipeline.Hexadecimal
