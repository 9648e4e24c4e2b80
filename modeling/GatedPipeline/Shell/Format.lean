import GatedPipeline.Number.Decimal
import GatedPipeline.Shell.Calendar
import GatedPipeline.Shell.PlainArithmetic

namespace GatedPipeline.Shell.Format

/-- Which numbers may follow a backslash: a zero may have to stand before octal digits, and
hexadecimal ones may be known; and whether quotes can be escaped, and output be ended. -/
structure Escapes where
  zeroFirst : Bool
  octal : Bool
  hexadecimal : Bool
  quotes : Bool
  ends : Bool
  charset : Charset
deriving Repr

def Escapes.echo (k : Charset) (isStrict : Bool) : Escapes :=
  ⟨true, isStrict, !isStrict, false, true, k⟩

def Escapes.argument (k : Charset) (isStrict : Bool) : Escapes :=
  ⟨true, true, !isStrict, false, true, k⟩

def Escapes.template (k : Charset) (isStrict : Bool) : Escapes :=
  ⟨false, true, !isStrict, !isStrict, false, k⟩

/-- Reads the escape after a backslash: the text that it stands for, and the rest; none where it
ends all output. -/
def escape? (e : Escapes) : List Char → Option (List Char × List Char)
  | [] => some (['\\'], [])
  | c :: cs =>
    let hex (most : Nat) : List Char := (cs.take most).takeWhile Text.isHexDigit
    let unknown : Option (List Char × List Char) := some (['\\', c], cs)
    if c == 'c' && e.ends then none
    else if c == 'E' && !e.hexadecimal then unknown
    else if (c == '"' || c == '\'' || c == '?') && e.quotes then some ([c], cs)
    else
      match Quoting.letterEscape? c with
      | some x => some ([x], cs)
      | none =>
        if c == '0' && e.zeroFirst then
          let ds := (cs.take 3).takeWhile isOctal
          some ([byteOf (octalNumber ds)], cs.drop ds.length)
        else if isOctal c && e.octal then
          let ds := ((c :: cs).take 3).takeWhile isOctal
          some ([byteOf (octalNumber ds)], (c :: cs).drop ds.length)
        else if c == 'x' && e.hexadecimal then
          let ds := hex 2
          if ds.isEmpty then unknown
          else some ([byteOf ((Text.hexNumber? ds).getD 0)], cs.drop ds.length)
        else if (c == 'u' || c == 'U') && e.hexadecimal then
          let ds := hex (if c == 'u' then 4 else 8)
          if ds.isEmpty then unknown
          else
            let n := (Text.hexNumber? ds).getD 0
            some (e.charset.numbered (if c == 'u' then 4 else 8) n, cs.drop ds.length)
        else unknown

/-- The text without escapes, and whether one of them ends all output. -/
def unescape (e : Escapes) : Nat → List Char → List Char → List Char × Bool
  | 0, acc, s => (acc.reverse ++ s, false)
  | _ + 1, acc, [] => (acc.reverse, false)
  | n + 1, acc, '\\' :: cs =>
    match escape? e cs with
    | some (t, rest) => unescape e n (t.reverse ++ acc) rest
    | none => (acc.reverse, true)
  | n + 1, acc, c :: cs => unescape e n (c :: acc) cs

def unescaped (e : Escapes) (s : String) : String × Bool :=
  let r := unescape e (s.length + 1) [] s.toList
  (String.ofList r.1, r.2)

/-- Options of `echo`: whether a line end follows and escapes are read, and the other arguments. -/
def echoOptions (escapes newline : Bool) : List String → Bool × Bool × List String
  | [] => (newline, escapes, [])
  | a :: rest =>
    match a.toList with
    | '-' :: o :: os =>
      if (o :: os).all fun x => x == 'n' || x == 'e' || x == 'E' then
        echoOptions (((o :: os).reverse.find? (· != 'n')).elim escapes (· == 'e'))
          (newline && !(o :: os).contains 'n') rest
      else (newline, escapes, a :: rest)
    | _ => (newline, escapes, a :: rest)

def echo (k : Charset) (isStrict readsEscapes : Bool) (arguments : List String) : String :=
  let (newline, escapes, rest) :=
    if isStrict then
      match arguments with
      | "-n" :: rest => (false, true, rest)
      | _ => (true, true, arguments)
    else echoOptions readsEscapes true arguments
  let text := " ".intercalate rest
  let (text, ends) := if escapes then unescaped (.echo k isStrict) text else (text, false)
  if newline && !ends then text ++ "\n" else text

structure Directive where
  flags : List Char
  width : Nat
  precision : Option Nat
  kind : Char
deriving Repr

def Directive.has (d : Directive) (flag : Char) : Bool := d.flags.contains flag

def Directive.padded (d : Directive) (s : String) : String :=
  let fill := String.ofList (List.replicate (d.width - s.length) ' ')
  if d.has '-' then s ++ fill else fill ++ s

/-- A number with its sign or base in front; zeros between them fill the width. -/
def Directive.number (d : Directive) (front digits : String) (fillsWithZeros : Bool) : String :=
  let zeros :=
    if fillsWithZeros && d.has '0' && !d.has '-' then
      Decimal.zeros (d.width - front.length - digits.length)
    else ""
  d.padded (front ++ zeros ++ digits)

def Directive.integer (d : Directive) (n : Int) : String :=
  let isSigned := d.kind == 'd' || d.kind == 'i'
  let size : Nat := if isSigned then n.natAbs else (n % Int.pow 2 64).toNat
  let base := if d.kind == 'x' || d.kind == 'X' then 16 else if d.kind == 'o' then 8 else 10
  let ds := if size = 0 && d.precision == some 0 then "" else String.ofList (Nat.toDigits base size)
  let ds := Decimal.zeros (d.precision.getD 1 - ds.length) ++ ds
  let ds := if d.kind == 'o' && d.has '#' && !ds.startsWith "0" then "0" ++ ds else ds
  let ds := if d.kind == 'X' then String.ofList (ds.toList.map Char.toUpper) else ds
  let front :=
    if isSigned then
      if n < 0 then "-" else if d.has '+' then "+" else if d.has ' ' then " " else ""
    else if size != 0 && d.has '#' && base == 16 then (if d.kind == 'X' then "0X" else "0x")
    else ""
  d.number front ds d.precision.isNone

/-- A ratio as a hexadecimal number, of which the first digit is one bit or four. -/
def Directive.hexadecimal (d : Directive) (isShort : Bool) (front : String) (n den : Nat) : String :=
  let (text, e) :=
    if isShort then Hexadecimal.general 1 13 d.precision n den
    else Hexadecimal.general 4 15 d.precision n den
  let text := if d.has '#' && !text.contains '.' then text ++ "." else text
  let digits := text ++ "p" ++ (if e < 0 then "-" else "+") ++ toString e.natAbs
  if d.kind == 'A' then d.number (front ++ "0X") (String.ofList (digits.toList.map Char.toUpper)) true
  else d.number (front ++ "0x") digits true

def Directive.real (d : Directive) (isShort isNegative : Bool) (n den : Nat) : String :=
  let places := d.precision.getD 6
  let mark := if d.kind.isUpper then "E" else "e"
  let front := if isNegative then "-" else if d.has '+' then "+" else if d.has ' ' then " " else ""
  let digits :=
    if d.kind == 'f' || d.kind == 'F' then Decimal.fixed places n den
    else if d.kind == 'e' || d.kind == 'E' then
      let (m, e) := Decimal.scientific places n den
      m ++ Decimal.exponent mark e
    else Decimal.general places (d.has '#') mark n den
  if d.kind == 'a' || d.kind == 'A' then d.hexadecimal isShort front n den
  else d.number front digits true

/-- What has come of a format: the text, and what is wrong with arguments; whether the format itself
goes on; and what is left of the arguments. -/
structure Result where
  text : List String
  faults : List String
  status : Nat
  goesOn : Bool
  arguments : List String
  used : Bool
deriving Repr

def Result.put (r : Result) (s : String) : Result := { r with text := s :: r.text }

/-- Something is odd, but no failure. -/
def Result.warn (r : Result) (message : String) : Result :=
  { r with faults := ("warning: " ++ message) :: r.faults }

def Result.fault (r : Result) (message : String) : Result :=
  { r with faults := message :: r.faults, status := 1 }

/-- The next argument, if there is one. -/
def Result.next (r : Result) : Option String × Result :=
  match r.arguments with
  | a :: rest => (some a, { r with arguments := rest, used := true })
  | [] => (none, { r with used := true })

structure Place where
  zone : String
  now : Int
  started : Int

def beginning : Int := 1700000000

def placeOf (s : State) : Place :=
  let isTold := (s.lookup? "TZ").any (·.attributes.isExported)
  ⟨if isTold then s.setting "TZ" else "", beginning + (s.now / 1000 : Nat), beginning⟩

section

variable (k : Charset) (isStrict : Bool)

variable (place : Place)

/-- What is wrong with a number that is followed by something else. -/
def invalidNumber (a : String) (nothing : Bool) : String :=
  if isStrict then
    a ++ if nothing then ": expected numeric value" else ": not completely converted"
  else
    match a.toList with
    | '0' :: 'x' :: _ => a ++ ": invalid hex number"
    | '0' :: c :: _ => if c.isDigit then a ++ ": invalid octal number" else a ++ ": invalid number"
    | _ => a ++ ": invalid number"

def outOfRange (a : String) : String :=
  (if isStrict then "" else "warning: ") ++ a ++ ": Numerical result out of range"

def codeOf (s : List Char) : Nat :=
  match k.units s with
  | c :: _ => if Charset.isStray c then c.toNat - Charset.firstStray else c.toNat
  | [] => 0

def integerOf (isSigned : Bool) (a : String) (r : Result) : Int × Result :=
  match a.toList with
  | '\'' :: c :: cs => (codeOf k (c :: cs), r)
  | '"' :: c :: cs => (codeOf k (c :: cs), r)
  | ['\''] => (0, r)
  | ['"'] => (0, r)
  | [] => (0, r)
  | cs =>
    match leadingInteger? cs with
    | none => (0, r.fault (invalidNumber isStrict a true))
    | some (n, rest) =>
      let r := if rest.isEmpty then r else r.fault (invalidNumber isStrict a false)
      let fits := if isSigned then -(Int.pow 2 63) ≤ n && n < Int.pow 2 63
        else -(Int.pow 2 64) < n && n < Int.pow 2 64
      if fits then (n, r)
      else
        let r := r.fault (outOfRange isStrict a)
        (if isSigned then clamped n else Int.pow 2 64 - 1,
          if isStrict then r else { r with status := r.status - 1 })

def realOf (a : String) (r : Result) : (Bool × Nat × Nat) × Result :=
  let bits := if isStrict then 53 else 64
  let cs := a.toList.dropWhile isSpace
  match cs with
  | '\'' :: c :: cs => ((false, codeOf k (c :: cs), 1), r)
  | '"' :: c :: cs => ((false, codeOf k (c :: cs), 1), r)
  | [] => ((false, 0, 1), r)
  | _ =>
    let isNegative := cs.head? == some '-'
    match if isNegative || cs.head? == some '+' then cs.drop 1 else cs with
    | '0' :: x :: digits =>
      if x == 'x' || x == 'X' then
        match Hexadecimal.read? digits with
        | some (n, d, rest) =>
          let v := Decimal.rounded bits n d
          ((isNegative, v.1, v.2),
            if rest.isEmpty then r else r.fault (invalidNumber isStrict a false))
        | none => ((isNegative, 0, 1), r.fault (invalidNumber isStrict a false))
      else decimal bits cs
    | _ => decimal bits cs
where
  decimal (bits : Nat) (cs : List Char) : (Bool × Nat × Nat) × Result :=
    match Decimal.read? cs with
    | none => ((false, 0, 1), r.fault (invalidNumber isStrict a true))
    | some (isNegative, n, d, rest) =>
      let v := Decimal.rounded bits n d
      ((isNegative, v.1, v.2),
        if rest.isEmpty then r else r.fault (invalidNumber isStrict a false))

/-- A width or a precision: digits, or a star for the next argument. -/
def measure (s : List Char) (r : Result) : Option Int × List Char × Result :=
  match s with
  | '*' :: rest =>
    let (a, r) := r.next
    let (n, r) := integerOf k isStrict true (a.getD "") r
    (some n, rest, r)
  | _ =>
    let ds := s.takeWhile Char.isDigit
    ((String.ofList ds).toNat?.map Int.ofNat, s.drop ds.length, r)

def endless? (a : String) : Option String :=
  let s := String.ofList (a.toList.map Char.toLower)
  if ["inf", "+inf", "infinity", "+infinity"].contains s then some "inf"
  else if ["-inf", "-infinity"].contains s then some "-inf"
  else if ["nan", "+nan"].contains s then some "nan"
  else if s = "-nan" then some "-nan"
  else none

def shown (d : Directive) (whole : String) (r : Result) : Result :=
  let (argument, r) := r.next
  let a := argument.getD ""
  let cut (s : String) : String :=
    match d.precision with
    | some p => String.ofList (s.toList.take p)
    | none => s
  match d.kind with
  | 's' => r.put (d.padded (cut a))
  | 'c' => r.put (d.padded (String.ofList (if argument.isNone || a.isEmpty then
      (if isStrict then [] else ['\x00']) else a.toList.take 1)))
  | 'b' =>
    let (t, ends) := unescaped (.argument k isStrict) a
    { r.put (d.padded (cut t)) with goesOn := !ends, arguments := if ends then [] else r.arguments }
  | 'q' => r.put (d.padded (cut (Quoting.escaped k a)))
  | 'Q' => r.put (d.padded (Quoting.escaped k (cut a)))
  | 'n' => r
  | _ =>
    if "diouxX".toList.contains d.kind then
      let (n, r) := integerOf k isStrict (d.kind == 'd' || d.kind == 'i') a r
      r.put (d.integer n)
    else if "aAeEfFgG".toList.contains d.kind then
      match endless? a with
      | some t => r.put (d.padded t)
      | none =>
        let ((isNegative, n, den), r) := realOf k isStrict a r
        r.put (d.real isStrict isNegative n den)
    else
      { (if isStrict then { r.fault (whole ++ ": invalid directive") with status := 2 }
          else r.fault ("\x60" ++ String.singleton d.kind ++ "': invalid format character")) with
        goesOn := false }

def upToClosing : Nat → List Char → List Char
  | _, [] => []
  | depth, c :: cs =>
    if c == ')' then (if depth ≤ 1 then [] else c :: upToClosing (depth - 1) cs)
    else c :: upToClosing (if c == '(' then depth + 1 else depth) cs

def once : Nat → List Char → Result → Result
  | 0, _, r => r
  | _ + 1, [], r => r
  | n + 1, '%' :: '%' :: cs, r => once n cs (r.put "%")
  | n' + 1, '%' :: cs, r =>
    let flags := cs.takeWhile fun c => "#-+ 0'".toList.contains c
    let (width, rest, r) := measure k isStrict (cs.drop flags.length) r
    let flags := if width.any (· < 0) then '-' :: flags else flags
    let (precision, rest, r) : Option Nat × List Char × Result :=
      match rest with
      | '.' :: rest =>
        let (p, rest, r) := measure k isStrict rest r
        (if p.any (· < 0) then none else some (p.getD 0).toNat, rest, r)
      | _ => (none, rest, r)
    let rest := if isStrict then rest else rest.dropWhile fun c => "hlLjzt".toList.contains c
    let written (rest : List Char) : String :=
      String.ofList ('%' :: cs.take (cs.length - rest.length))
    match rest with
    | '(' :: inside =>
      if isStrict then
        let r := shown k isStrict ⟨flags, (width.getD 0).natAbs, precision, '?'⟩ (written inside) r
        r
      else
        let letters := upToClosing 1 inside
        match inside.drop (letters.length + 1) with
        | 'T' :: rest =>
          let (argument, r) := r.next
          let (n, r) : Int × Result :=
            match argument with
            | some a => integerOf k isStrict true a r
            | none => (-1, r)
          let seconds := if n == -1 then place.now else if n == -2 then place.started else n
          let seconds := if seconds.natAbs < 2 ^ 55 then seconds else 0
          let letters := if letters.isEmpty then "%X".toList else letters
          let text := Calendar.format (Calendar.atZone place.zone seconds)
            (letters.length + 20) letters
          let text := if text.length > 127 then [] else text
          let d : Directive := ⟨flags, (width.getD 0).natAbs, precision, 's'⟩
          once n' rest (r.put (d.padded (String.ofList
            (match precision with
              | some p => text.take p
              | none => text))))
        | rest =>
          let r := r.warn ("\x60" ++ String.singleton ((rest.head?).getD '\x00') ++
            "': invalid time format specification")
          once n' cs (r.put "%")
    | [] =>
      { (if isStrict then { r.fault "missing format character" with status := 2 }
          else r.fault ("\x60%" ++ String.ofList cs ++ "': missing format character")) with
        goesOn := false }
    | kind :: rest =>
      let allowed := isStrict && !"diouxXaAeEfFgGcsb".toList.contains kind
      let r := shown k isStrict ⟨flags, (width.getD 0).natAbs, precision,
        if allowed then '?' else kind⟩ (written rest) r
      if r.goesOn then once n' rest r else r
  | n + 1, '\\' :: cs, r =>
    match escape? (.template k isStrict) cs with
    | some (t, rest) => once n rest (r.put (String.ofList t))
    | none => r
  | n + 1, c :: cs, r => once n cs (r.put (String.singleton c))

/-- Goes through the format again as long as arguments are left and it takes some. -/
def again (template : List Char) : Nat → Result → Result
  | 0, r => r
  | n + 1, r =>
    let r := once k isStrict place (template.length + 1) template { r with used := false }
    if r.goesOn && r.used && !r.arguments.isEmpty then again template n r else r

/-- The text, the messages and the status for a format with arguments. -/
def format (template : String) (arguments : List String) : String × List String × Nat :=
  let r := again k isStrict place template.toList (arguments.length + 1) ⟨[], [], 0, true, arguments, false⟩
  (String.join r.text.reverse, r.faults.reverse, r.status)

end

end GatedPipeline.Shell.Format
