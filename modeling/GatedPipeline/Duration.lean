namespace GatedPipeline

structure Duration where
  nanos : Nat
deriving DecidableEq, Repr

namespace Duration

def ofMillis (n : Nat) : Duration := ⟨n * 1000000⟩

def ofMinutes (n : Nat) : Duration := ⟨n * 60 * 1000000000⟩

def millis (d : Duration) : Nat := d.nanos / 1000000

/-- The digits after the point of `n / 10 ^ places`, without zeros at the end. -/
def fraction (n places : Nat) : String :=
  let digits := (Nat.toDigits 10 (Nat.pow 10 places + n % Nat.pow 10 places)).drop 1
  let kept := (digits.reverse.dropWhile (· == '0')).reverse
  if kept.isEmpty then "" else "." ++ String.ofList kept

/-- Written in the largest unit of which there is at least one, down to nanoseconds. -/
def text (d : Duration) : String :=
  if 1000000000 ≤ d.nanos then toString (d.nanos / 1000000000) ++ fraction d.nanos 9 ++ "s"
  else if 1000000 ≤ d.nanos then toString (d.nanos / 1000000) ++ fraction d.nanos 6 ++ "ms"
  else if 1000 ≤ d.nanos then toString (d.nanos / 1000) ++ fraction d.nanos 3 ++ "µs"
  else toString d.nanos ++ "ns"

/-- The number of seconds with two decimals, rounded to the nearest, a half to the even digit. -/
def seconds (d : Duration) : String :=
  let unit := 10000000
  let q := d.nanos / unit
  let r := d.nanos % unit
  let hundredths := if 2 * r < unit then q else if unit < 2 * r then q + 1 else q + q % 2
  toString (hundredths / 100) ++ "." ++
    String.ofList ((Nat.toDigits 10 (100 + hundredths % 100)).drop 1)

end Duration

end GatedPipeline
