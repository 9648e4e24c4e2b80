import GatedPipeline.Shell.Charset

namespace GatedPipeline.Shell

/-- The character for a byte, which counts modulo 256. -/
def byteOf (n : Nat) : Char := Char.ofNat (n % 256)

def isOctal (c : Char) : Bool := '0' ≤ c && c ≤ '7'

def octalNumber (digits : List Char) : Nat := digits.foldl (fun n d => 8 * n + (d.toNat - 48)) 0

def octalText (n : Nat) : String :=
  let ds := Nat.toDigits 8 n
  String.ofList (List.replicate (3 - ds.length) '0' ++ ds)

/-- Space, tab, line feed, and the other characters that move the place of writing. -/
def isSpace (c : Char) : Bool := c == ' ' || (9 ≤ c.toNat && c.toNat ≤ 13)

namespace Quoting

def letterEscape? : Char → Option Char
  | 'a' => some '\x07'
  | 'b' => some '\x08'
  | 'e' => some '\x1b'
  | 'E' => some '\x1b'
  | 'f' => some '\x0c'
  | 'n' => some '\n'
  | 'r' => some '\r'
  | 't' => some '\t'
  | 'v' => some '\x0b'
  | '\\' => some '\\'
  | _ => none

/-- The text inside dollar quotes. A zero byte ends it. -/
def ansi (k : Charset) : Nat → List Char → List Char
  | 0, s => s
  | _ + 1, [] => []
  | n + 1, '\\' :: c :: cs =>
    let hex (most : Nat) : List Char := (cs.take most).takeWhile Text.isHexDigit
    let value (ds : List Char) : Nat := (Text.hexNumber? ds).getD 0
    match letterEscape? c with
    | some x => x :: ansi k n cs
    | none =>
      if c == '\'' || c == '"' || c == '?' then c :: ansi k n cs
      else if isOctal c then
        let ds := ((c :: cs).take 3).takeWhile isOctal
        if octalNumber ds % 256 = 0 then []
        else byteOf (octalNumber ds) :: ansi k n ((c :: cs).drop ds.length)
      else if c == 'x' then
        let ds := hex 2
        if ds.isEmpty then '\\' :: 'x' :: ansi k n cs
        else if value ds = 0 then []
        else byteOf (value ds) :: ansi k n (cs.drop ds.length)
      else if c == 'u' || c == 'U' then
        let ds := hex (if c == 'u' then 4 else 8)
        if ds.isEmpty then '\\' :: c :: ansi k n cs
        else if value ds = 0 then []
        else k.numbered (if c == 'u' then 4 else 8) (value ds) ++ ansi k n (cs.drop ds.length)
      else if c == 'c' then
        match cs with
        | [] => ['\\', 'c']
        | x :: rest => byteOf (if x == '?' then 127 else x.toUpper.toNat % 32) :: ansi k n rest
      else '\\' :: c :: ansi k n cs
  | n + 1, c :: cs => c :: ansi k n cs

def ansiText (k : Charset) (s : List Char) : List Char := ansi k (s.length + 1) s

/-- A word without its quotes; nothing is expanded. -/
def removedFrom : Nat → List Char → List Char
  | 0, s => s
  | _ + 1, [] => []
  | n + 1, '\\' :: '\n' :: cs => removedFrom n cs
  | n + 1, '\\' :: c :: cs => c :: removedFrom n cs
  | n + 1, '\'' :: cs =>
    cs.takeWhile (· != '\'') ++ removedFrom n ((cs.dropWhile (· != '\'')).drop 1)
  | n + 1, '"' :: cs => double n cs
  | n + 1, c :: cs => c :: removedFrom n cs
where
  double : Nat → List Char → List Char
    | 0, s => s
    | _ + 1, [] => []
    | n + 1, '"' :: cs => removedFrom n cs
    | n + 1, '\\' :: c :: cs =>
      if c == '\n' then double n cs
      else if "$\"\\\x60".toList.contains c then c :: double n cs
      else '\\' :: c :: double n cs
    | n + 1, c :: cs => c :: double n cs

def removed (w : String) : String := String.ofList (removedFrom (w.length + 1) w.toList)

def isQuoted (w : String) : Bool := w.toList.any "'\"\\".toList.contains

def upper (s : String) : String := String.ofList (s.toList.map Char.toUpper)

def single (s : String) : String :=
  let shown (c : Char) : String := if c == '\'' then "'\\''" else String.singleton c
  if s = "'" then "\\'" else "'" ++ String.join (s.toList.map shown) ++ "'"

def plain (s : String) : String :=
  let parts := (s.toList.splitBy fun a b => (a == '\'') == (b == '\'')).map fun run =>
    if run.head? == some '\'' then "\"" ++ String.ofList run ++ "\""
    else "'" ++ String.ofList run ++ "'"
  if s.isEmpty then "''" else String.join parts

def double (s : String) : String :=
  "\"" ++ String.join (s.toList.map fun c =>
    if "$\"\\\x60".toList.contains c then String.ofList ['\\', c] else String.singleton c) ++ "\""

def dollar (k : Charset) (s : String) : String :=
  let shown (c : Char) : String :=
    match c with
    | '\x1b' => "\\E"
    | '\x07' => "\\a"
    | '\x0b' => "\\v"
    | '\x08' => "\\b"
    | '\x0c' => "\\f"
    | '\n' => "\\n"
    | '\r' => "\\r"
    | '\t' => "\\t"
    | '\\' => "\\\\"
    | '\'' => "\\'"
    | _ =>
      if k.isVisible c then String.ofList (k.text [c])
      else String.join ((k.text [c]).map fun b => "\\" ++ octalText b.toNat)
  "$'" ++ String.join ((k.units s.toList).map shown) ++ "'"

/-- Characters are in a text that only dollar quotes can show. -/
def needsDollar (k : Charset) (s : String) : Bool := (k.units s.toList).any (!k.isVisible ·)

/-- The text as it is, if all of it can be seen. -/
def visible (k : Charset) (s : String) : String := if needsDollar k s then dollar k s else s

def reusable (k : Charset) (s : String) : String := if needsDollar k s then dollar k s else single s

def declared (k : Charset) (s : String) : String := if needsDollar k s then dollar k s else double s

def isDelicate (s : String) : Bool :=
  let rec go : Option Char → List Char → Bool
    | _, [] => false
    | before, c :: cs =>
      isSpace c && c.toNat < 11 || c == ' ' ||
        "'\"\\|&;()<>!\x7b\x7d*[?]^$\x60".toList.contains c ||
        (c == '~' && (before.isNone || before == some '=' || before == some ':')) ||
        (c == '#' && (before.isNone || before == some ' ')) || go (some c) cs
  go none s.toList

/-- The text as a word, in quotes where it needs them. -/
def sparing (s : String) : String :=
  if s.isEmpty then "''" else if isDelicate s then single s else s

def traced (k : Charset) (s : String) : String :=
  if (k.units s.toList).any fun c => !k.isVisible c && !isSpace c then dollar k s else sparing s

def escaped (k : Charset) (s : String) : String :=
  let rec go : Option Char → List Char → List Char
    | _, [] => []
    | before, c :: cs =>
      let isSpecial := " !\"$&'()*,;<>?[\\]^\x60\x7b|\x7d".toList.contains c ||
        (c == '#' && before.isNone) ||
        (c == '~' && (before.isNone || before == some '=' || before == some ':'))
      if isSpecial then '\\' :: c :: go (some c) cs else c :: go (some c) cs
  if s.isEmpty then "''"
  else if needsDollar k s then dollar k s
  else String.ofList (go none s.toList)

end Quoting

end GatedPipeline.Shell
