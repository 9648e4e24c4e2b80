import GatedPipeline.Shell.Quoting

namespace GatedPipeline.Shell.Calendar

/-- A point of time as it is told at a place: how far its clocks are ahead, and their name. -/
structure Moment where
  seconds : Int
  ahead : Int
  zone : String
deriving DecidableEq, Repr

/-- A day of the calendar; months and days count from one. -/
structure Date where
  year : Int
  month : Nat
  day : Nat
deriving DecidableEq, Repr

/-- The date that is so many days after the first of January 1970. Years are counted from March on,
so that the leap day is the last one. -/
def Date.ofDays (days : Int) : Date :=
  let n := days + 719468
  let era := n.fdiv 146097
  let inEra := (n - era * 146097).toNat
  let year := (inEra - inEra / 1460 + inEra / 36524 - inEra / 146096) / 365
  let inYear := inEra - (365 * year + year / 4 - year / 100)
  let m := (5 * inYear + 2) / 153
  let month := if m < 10 then m + 3 else m - 9
  ⟨year + era * 400 + (if month ≤ 2 then 1 else 0), month, inYear - (153 * m + 2) / 5 + 1⟩

def isLeap (year : Int) : Bool := year % 4 == 0 && (year % 100 != 0 || year % 400 == 0)

/-- How many days of the year have gone before the date. -/
def Date.dayOfYear (d : Date) : Nat :=
  let before := [0, 31, 59, 90, 120, 151, 181, 212, 243, 273, 304, 334]
  (before[d.month - 1]?).getD 0 + d.day - 1 + if isLeap d.year && d.month > 2 then 1 else 0

namespace Moment

def local' (m : Moment) : Int := m.seconds + m.ahead

def days (m : Moment) : Int := m.local'.fdiv 86400

def secondOfDay (m : Moment) : Nat := (m.local' - m.days * 86400).toNat

def date (m : Moment) : Date := Date.ofDays m.days

def weekday (m : Moment) : Nat := ((m.days + 4) % 7).toNat

/-- The year and the number of the week as the standard counts them: a week begins on Monday and
belongs to the year in which its Thursday lies. -/
def standardWeek (m : Moment) : Int × Nat :=
  let fromMonday := (m.weekday + 6) % 7
  let thursday := Date.ofDays (m.days - (fromMonday : Nat) + 3)
  (thursday.year, thursday.dayOfYear / 7 + 1)

end Moment

def dayNames : List String :=
  ["Sunday", "Monday", "Tuesday", "Wednesday", "Thursday", "Friday", "Saturday"]

def monthNames : List String :=
  ["January", "February", "March", "April", "May", "June", "July", "August", "September", "October",
    "November", "December"]

def shortened (s : String) : String := String.ofList (s.toList.take 3)

/-- What a letter stands for: a number with its usual width and filling, or a text. -/
inductive Item where
  | number (n : Int) (width : Nat) (filling : Char)
  | text (s : String)
  | letters (format : String)

def clock (n : Nat) : Int := if n % 12 = 0 then 12 else (n % 12 : Nat)

def offsetText (ahead : Int) : String :=
  let minutes := ahead.natAbs / 60
  let two (n : Nat) : String := (if n < 10 then "0" else "") ++ toString n
  (if ahead < 0 then "-" else "+") ++ two (minutes / 60) ++ two (minutes % 60)

def item? (m : Moment) (c : Char) : Option Item :=
  let d := m.date
  let hour := m.secondOfDay / 3600
  let minute := m.secondOfDay / 60 % 60
  let day := (dayNames[m.weekday]?).getD ""
  let month := (monthNames[d.month - 1]?).getD ""
  match c with
  | 'a' => some (.text (shortened day))
  | 'A' => some (.text day)
  | 'b' => some (.text (shortened month))
  | 'h' => some (.text (shortened month))
  | 'B' => some (.text month)
  | 'c' => some (.letters "%a %b %e %H:%M:%S %Y")
  | 'C' => some (.number (d.year.fdiv 100) 2 '0')
  | 'd' => some (.number d.day 2 '0')
  | 'D' => some (.letters "%m/%d/%y")
  | 'e' => some (.number d.day 2 ' ')
  | 'F' => some (.letters "%Y-%m-%d")
  | 'g' => some (.number (m.standardWeek.1 % 100) 2 '0')
  | 'G' => some (.number m.standardWeek.1 1 '0')
  | 'H' => some (.number hour 2 '0')
  | 'I' => some (.number (clock hour) 2 '0')
  | 'j' => some (.number (d.dayOfYear + 1) 3 '0')
  | 'k' => some (.number hour 2 ' ')
  | 'l' => some (.number (clock hour) 2 ' ')
  | 'm' => some (.number d.month 2 '0')
  | 'M' => some (.number minute 2 '0')
  | 'n' => some (.text "\n")
  | 'p' => some (.text (if hour < 12 then "AM" else "PM"))
  | 'P' => some (.text (if hour < 12 then "am" else "pm"))
  | 'r' => some (.letters "%I:%M:%S %p")
  | 'R' => some (.letters "%H:%M")
  | 's' => some (.number m.seconds 1 '0')
  | 'S' => some (.number (m.secondOfDay % 60 : Nat) 2 '0')
  | 't' => some (.text "\t")
  | 'T' => some (.letters "%H:%M:%S")
  | 'u' => some (.number (if m.weekday = 0 then 7 else m.weekday) 1 '0')
  | 'U' => some (.number ((d.dayOfYear + 7 - m.weekday) / 7 : Nat) 2 '0')
  | 'V' => some (.number m.standardWeek.2 2 '0')
  | 'w' => some (.number m.weekday 1 '0')
  | 'W' => some (.number ((d.dayOfYear + 7 - (m.weekday + 6) % 7) / 7 : Nat) 2 '0')
  | 'x' => some (.letters "%m/%d/%y")
  | 'X' => some (.letters "%H:%M:%S")
  | 'y' => some (.number (d.year % 100) 2 '0')
  | 'Y' => some (.number d.year 1 '0')
  | 'z' => some (.text (offsetText m.ahead))
  | 'Z' => some (.text m.zone)
  | '%' => some (.text "%")
  | _ => none

def filled (c : Char) (width : Nat) (s : String) : String :=
  String.ofList (List.replicate (width - s.length) c) ++ s

/-- An item with the flags and the width in front of its letter. -/
def shown (flags : List Char) (width : Option Nat) (letter : Char) : Item → String
  | .number n usual filling =>
    let filling :=
      match flags.reverse.find? "_-0".toList.contains with
      | some '_' => some ' '
      | some '-' => none
      | some _ => some '0'
      | none => some filling
    let digits := toString n.natAbs
    let minus := if n < 0 then "-" else ""
    match filling with
    | some ' ' => filled ' ' (width.getD usual) (minus ++ digits)
    | some c => minus ++ filled c (width.getD usual - minus.length) digits
    | none => minus ++ digits
  | .text s =>
    let s :=
      if flags.contains '^' then Quoting.upper s
      else if flags.contains '#' then
        if letter == 'p' || letter == 'Z' then String.ofList (s.toList.map Char.toLower)
        else Quoting.upper s
      else s
    if letter == 'z' && !flags.contains '_' && !flags.contains '-' then
      String.ofList (s.toList.take 1) ++
        filled '0' (width.getD 0 - 1) (String.ofList (s.toList.drop 1))
    else filled (if flags.contains '0' then '0' else ' ') (width.getD 0) s
  | .letters s => filled (if flags.contains '0' then '0' else ' ') (width.getD 0) s

/-- The text for a moment in which letters after percent signs stand for what they tell. -/
def format (m : Moment) : Nat → List Char → List Char
  | 0, _ => []
  | _ + 1, [] => []
  | n + 1, '%' :: cs =>
    let flags := cs.takeWhile "_-0^#+".toList.contains
    let rest := cs.drop flags.length
    let digits := rest.takeWhile Char.isDigit
    let rest := rest.drop digits.length
    let rest := if rest.head? == some 'E' || rest.head? == some 'O' then rest.drop 1 else rest
    match rest with
    | [] => '%' :: cs
    | c :: rest =>
      let item :=
        match item? m c with
        | some (.letters inner) => some (Item.letters (String.ofList (format m n inner.toList)))
        | i => i
      match item with
      | some i =>
        (shown flags (String.ofList digits).toNat? c i).toList ++ format m n rest
      | none => '%' :: cs.take (cs.length - rest.length) ++ format m n rest
  | n + 1, c :: cs => c :: format m n cs

/-- A time of hours, minutes and seconds between colons, as seconds, and what follows it. -/
def offset? (s : List Char) : Option (Int × List Char) :=
  let (isBefore, s) : Bool × List Char :=
    match s with
    | '-' :: rest => (true, rest)
    | '+' :: rest => (false, rest)
    | _ => (false, s)
  let rec parts : Nat → Nat → List Char → Nat × List Char
    | 0, _, s => (0, s)
    | n + 1, unit, s =>
      let ds := s.takeWhile Char.isDigit
      let value := ((String.ofList ds).toNat?).getD 0 * unit
      match s.drop ds.length with
      | ':' :: rest =>
        let (more, rest) := parts n (unit / 60) rest
        (value + more, rest)
      | rest => (value, rest)
  if s.head?.any Char.isDigit then
    let (n, rest) := parts 3 3600 s
    some (if isBefore then -n else n, rest)
  else none

/-- A moment at the place that the name of a zone tells; offsets count to the west. -/
def atZone (zone : String) (seconds : Int) : Moment :=
  let cs := zone.toList
  let (name, rest) :=
    match cs with
    | '<' :: inside =>
      let name := inside.takeWhile (· != '>')
      (name, inside.drop (name.length + 1))
    | _ =>
      let name := cs.takeWhile Char.isAlpha
      (name, cs.drop name.length)
  match offset? rest with
  | some (west, _) => if name.length < 3 then ⟨seconds, 0, "UTC"⟩ else ⟨seconds, -west, String.ofList name⟩
  | none =>
    ⟨seconds, 0, if rest.isEmpty && name.length ≥ 3 then String.ofList name else "UTC"⟩

end GatedPipeline.Shell.Calendar
