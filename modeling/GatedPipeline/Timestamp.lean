import GatedPipeline.Json.Basic

namespace GatedPipeline.Timestamp

def isLeap (year : Nat) : Bool := year % 4 == 0 && (year % 100 != 0 || year % 400 == 0)

def yearLength (year : Nat) : Nat := if isLeap year then 366 else 365

def monthLengths (year : Nat) : List Nat :=
  [31, if isLeap year then 29 else 28, 31, 30, 31, 30, 31, 31, 30, 31, 30, 31]

/-- Goes through periods of the given lengths: the number of the one that a day lies in, counted
from `first`, and the day in it. -/
def locate (first : Nat) : List Nat → Nat → Nat × Nat
  | [], day => (first, day)
  | l :: ls, day => if day < l then (first, day) else locate (first + 1) ls (day - l)

/-- Year, month and day, from the number of days since the beginning of 1970. -/
def date (days : Nat) : Nat × Nat × Nat :=
  let years := (List.range (days / 365 + 1)).map fun i => yearLength (1970 + i)
  let (year, day) := locate 1970 years days
  let (month, day) := locate 1 (monthLengths year) day
  (year, month, day + 1)

def digits (width n : Nat) : String :=
  let s := toString n
  String.ofList (List.replicate (width - s.length) '0') ++ s

/-- Date and time in one text, with milliseconds where they are not zero. -/
def text (millis : Nat) : String :=
  let (year, month, day) := date (millis / 86400000)
  let second := millis / 1000
  digits 4 year ++ "-" ++ digits 2 month ++ "-" ++ digits 2 day ++ "T" ++
    digits 2 (second / 3600 % 24) ++ ":" ++ digits 2 (second / 60 % 60) ++ ":" ++
    digits 2 (second % 60) ++
    (if millis % 1000 = 0 then "" else "." ++ digits 3 (millis % 1000)) ++ "Z"

def toJson (millis : Nat) : Json := .str (text millis)

end GatedPipeline.Timestamp
