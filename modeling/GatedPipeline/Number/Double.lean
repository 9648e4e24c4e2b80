namespace GatedPipeline

/-- The number `± mantissa · 2 ^ exponent`; a zero has exponent zero and keeps its sign. -/
structure Double where
  negative : Bool
  mantissa : Nat
  exponent : Int
deriving DecidableEq, Repr

namespace Double

def zero (negative : Bool) : Double := ⟨negative, 0, 0⟩

/-- The nearest natural number to `n / d`; a half goes to the even neighbour. -/
def roundDiv (n d : Nat) : Nat :=
  let q := n / d
  let r := n % d
  if 2 * r < d then q
  else if d < 2 * r then q + 1
  else if q % 2 = 0 then q
  else q + 1

/-- Numerator and denominator of `n / d / 2 ^ e`. -/
def scaled (n d : Nat) (e : Int) : Nat × Nat :=
  if 0 ≤ e then (n, d * Nat.pow 2 e.toNat) else (n * Nat.pow 2 (-e).toNat, d)

/-- The largest `e` with `2 ^ e ≤ n / d`, for positive `n` and `d`. -/
def floorLog2 (n d : Nat) : Int :=
  let e : Int := (n.log2 : Int) - d.log2
  let s := scaled n d e
  if s.2 ≤ s.1 then e else e - 1

/-- The number nearest to `± n / d`, or none where it is too large to be finite. -/
def nearest? (negative : Bool) (n d : Nat) : Option Double :=
  if n = 0 then some (zero negative)
  else
    let ulp := max (floorLog2 n d - 52) (-1074)
    let s := scaled n d ulp
    let m := roundDiv s.1 s.2
    if m = 0 then some (zero negative)
    else
      let r : Nat × Int := if m = Nat.pow 2 53 then (Nat.pow 2 52, ulp + 1) else (m, ulp)
      if 971 < r.2 then none else some ⟨negative, r.1, r.2⟩

def ratio (x : Double) : Nat × Nat :=
  if 0 ≤ x.exponent then (x.mantissa * Nat.pow 2 x.exponent.toNat, 1)
  else (x.mantissa, Nat.pow 2 (-x.exponent).toNat)

/-- Both zeros are equal, whatever their signs. -/
def same (x y : Double) : Bool :=
  (x.mantissa == 0 && y.mantissa == 0) || x == y

def mul? (x y : Double) : Option Double :=
  nearest? (x.negative != y.negative) (x.ratio.1 * y.ratio.1) (x.ratio.2 * y.ratio.2)

def div? (x y : Double) : Option Double :=
  nearest? (x.negative != y.negative) (x.ratio.1 * y.ratio.2) (x.ratio.2 * y.ratio.1)

def decimalRatio (n : Nat) (e : Int) : Nat × Nat :=
  if 0 ≤ e then (n * Nat.pow 10 e.toNat, 1) else (n, Nat.pow 10 (-e).toNat)

def digitCount (n : Nat) : Nat := (Nat.toDigits 10 n).length

/-- The number nearest to `± n · 10 ^ e`. The guards decide what lies far outside the range of
finite numbers before any large power is computed. -/
def ofDecimal? (negative : Bool) (n : Nat) (e : Int) : Option Double :=
  if n = 0 then some (zero negative)
  else if 310 < digitCount n + e then none
  else if digitCount n + e < -330 then some (zero negative)
  else nearest? negative (decimalRatio n e).1 (decimalRatio n e).2

/-- Where the decimal point stands in `n / d`, counted from before its first digit. -/
def pointPosition (n d : Nat) : Int :=
  if d ≤ n then digitCount (n / d)
  else 1 - (digitCount ((d + n - 1) / n - 1) : Int)

/-- The two neighbours of a number on the grid of multiples of `10 ^ k` that read back as the
number, the nearer one first: `v / q`, `lo / q` and `hi / q` are the number and the ends of the
interval that rounds to it, and the ends belong to it iff `closed`. -/
def gridHit? (v lo hi q : Nat) (closed : Bool) (k : Int) : Option Nat :=
  let u : Nat × Nat := decimalRatio 1 k
  let below := v * u.2 / (q * u.1)
  let inside (a : Nat) : Bool :=
    let p := a * u.1 * q
    let l := lo * u.2
    let h := hi * u.2
    (l < p || (closed && l == p)) && (p < h || (closed && p == h))
  let remainder := v * u.2 - below * u.1 * q
  let nearBelow := 2 * remainder < u.1 * q || (2 * remainder == u.1 * q && below % 2 == 0)
  match inside below, inside (below + 1) with
  | true, true => some (if nearBelow then below else below + 1)
  | true, false => some below
  | false, true => some (below + 1)
  | false, false => none

def firstHit (v lo hi q : Nat) (closed : Bool) (point : Int) : Nat → Nat → Nat × Int
  | 0, digits => (v / q, point - digits)
  | fuel + 1, digits =>
    match gridHit? v lo hi q closed (point - digits) with
    | some a => (a, point - digits)
    | none => firstHit v lo hi q closed point fuel (digits + 1)

/-- Moves the zeros at the end of the digits into the exponent. -/
def dropZeros : Nat → Nat × Int → Nat × Int
  | 0, r => r
  | fuel + 1, (a, e) => if a ≠ 0 ∧ a % 10 = 0 then dropZeros fuel (a / 10, e + 1) else (a, e)

/-- Digits and exponent of the shortest decimal that reads back as the magnitude of a number
other than zero, the nearest of those with so many digits. -/
def shortest (x : Double) : Nat × Int :=
  let e := x.exponent - 2
  let up : Nat := if 0 ≤ e then Nat.pow 2 e.toNat else 1
  let q : Nat := if 0 ≤ e then 1 else Nat.pow 2 (-e).toNat
  let low : Nat := if x.mantissa = Nat.pow 2 52 ∧ -1074 < x.exponent then 1 else 2
  let v := 4 * x.mantissa * up
  let lo := (4 * x.mantissa - low) * up
  let hi := (4 * x.mantissa + 2) * up
  dropZeros 20 (firstHit v lo hi q (x.mantissa % 2 == 0) (pointPosition v q) 20 1)

/-- How decimals are written: the exponents of ten from `plainFrom` up to below `plainBelow` have
no exponent part and at least one decimal; elsewhere the sign of the exponent is always there. -/
structure Layout where
  plainFrom : Int := -5
  plainBelow : Int := 16

def zeros (n : Nat) : String := String.ofList (List.replicate n '0')

def writeDigits (layout : Layout) (digits : List Char) (e : Int) : String :=
  let point : Int := digits.length + e
  if layout.plainFrom ≤ point - 1 ∧ point - 1 < layout.plainBelow then
    if point ≤ 0 then "0." ++ zeros (-point).toNat ++ String.ofList digits
    else if (digits.length : Int) ≤ point then
      String.ofList digits ++ zeros (point.toNat - digits.length) ++ ".0"
    else
      String.ofList (digits.take point.toNat) ++ "." ++ String.ofList (digits.drop point.toNat)
  else
    let whole := String.ofList (digits.take 1)
    let rest := digits.drop 1
    let mark := if rest.isEmpty then whole else whole ++ "." ++ String.ofList rest
    let power := point - 1
    mark ++ "e" ++ (if power < 0 then "-" else "+") ++ toString power.natAbs

def write (layout : Layout) (x : Double) : String :=
  let sign := if x.negative then "-" else ""
  if x.mantissa = 0 then sign ++ "0.0"
  else
    let s := x.shortest
    sign ++ writeDigits layout (Nat.toDigits 10 s.1) s.2

end Double

end GatedPipeline
