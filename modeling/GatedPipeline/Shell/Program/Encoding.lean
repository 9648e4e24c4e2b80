import GatedPipeline.Shell.Program.Basic

namespace GatedPipeline.Shell.Program

/-- The 64 characters that stand for six bits each. -/
def sixBitCharacters : List Char :=
  "ABCDEFGHIJKLMNOPQRSTUVWXYZabcdefghijklmnopqrstuvwxyz0123456789+/".toList

/-- Three bytes as four characters; equals signs stand for what is missing at the end. -/
def sixBits : List Char → List Char
  | a :: b :: c :: rest => (digits a b c).take 4 ++ sixBits rest
  | [a, b] => (digits a b '\x00').take 3 ++ ['=']
  | [a] => (digits a '\x00' '\x00').take 2 ++ ['=', '=']
  | [] => []
where
  digits (a b c : Char) : List Char :=
    let n := a.toNat * 65536 + b.toNat * 256 + c.toNat
    [n / 262144, n / 4096 % 64, n / 64 % 64, n % 64].map fun i => sixBitCharacters.getD i '='

/-- The bytes that characters stand for, and whether all of them stand for some. -/
def fromSixBits : List Nat → List Char → List Char × Bool
  | group, c :: cs =>
    match sixBitCharacters.idxOf? c with
    | some i =>
      match group with
      | [x, y, z] =>
        let (rest, isWhole) := fromSixBits [] cs
        (bytes [x, y, z, i] ++ rest, isWhole)
      | _ => fromSixBits (group ++ [i]) cs
    | none =>
      let padding := (c :: cs).takeWhile (· == '=')
      let isClosed := 2 ≤ group.length && group.length + padding.length == 4
      if isClosed then
        let (rest, isWhole) := fromSixBits [] (cs.drop (padding.length - 1))
        (bytes group ++ rest, isWhole)
      else (bytes group, false)
  | group, [] => (bytes group, group.isEmpty)
termination_by _ cs => cs.length
where
  bytes (group : List Nat) : List Char :=
    let n := (group ++ [0, 0, 0, 0]).take 4 |>.foldl (fun n i => n * 64 + i) 0
    ([n / 65536, n / 256 % 256, n % 256].map Char.ofNat).take (group.length - 1)

def wrapped (width : Nat) : Nat → List Char → String
  | 0, _ => ""
  | n + 1, cs =>
    if cs.isEmpty then ""
    else if width = 0 then String.ofList cs
    else String.ofList (cs.take width) ++ "\n" ++ wrapped width n (cs.drop width)

def base64 (args : List String) : Act Unit := do
  let words := [("decode", 'd'), ("ignore-garbage", 'i'), ("wrap", 'w')]
  withOptions ⟨"base64", "diw:", words, 1⟩ args fun o => do
    match o.rest with
    | _ :: extra :: _ => refuse "base64" ("extra operand " ++ (← shownArgument extra)) 1
    | operands =>
      let path := operands.headD "-"
      match ← readOperand path, ((o.argument? 'w').getD "76").toNat? with
      | _, none => fail "base64" ("invalid wrap size: " ++ (← shownArgument ((o.argument? 'w').getD ""))) 1
      | .error e, _ => fail "base64" ((← shownOperand path) ++ ": " ++ e) 1
      | .ok t, some width =>
        if o.has 'd' then
          let counts (c : Char) : Bool :=
            if o.has 'i' then sixBitCharacters.contains c || c == '=' else c != '\n'
          let (bytes, isWhole) := fromSixBits [] (t.toList.filter counts)
          say (String.ofList bytes)
          if !isWhole then fail "base64" "invalid input" 1
        else
          let cs := sixBits t.toList
          say (wrapped width (cs.length + 1) cs)

/-- How bytes are listed: so many together, as a number to a base or as a character, in a width. -/
structure Listing where
  size : Nat
  base : Option Nat
  width : Nat

def listing? (o : Builtin.Options) : Option Listing :=
  let letter := (o.given.filter fun g => "bcox".toList.contains g.1).getLast?.map (·.1)
  match letter, o.argument? 't' with
  | some 'b', _ => some ⟨1, some 8, 3⟩
  | some 'c', _ => some ⟨1, none, 3⟩
  | some 'x', _ => some ⟨2, some 16, 4⟩
  | some _, _ => some ⟨2, some 8, 6⟩
  | none, some "c" => some ⟨1, none, 3⟩
  | none, some "x1" => some ⟨1, some 16, 2⟩
  | none, some "o1" => some ⟨1, some 8, 3⟩
  | none, some "u1" => some ⟨1, some 10, 3⟩
  | none, some "x2" => some ⟨2, some 16, 4⟩
  | none, some "o2" => some ⟨2, some 8, 6⟩
  | none, some "u2" => some ⟨2, some 10, 5⟩
  | none, none => some ⟨2, some 8, 6⟩
  | none, some _ => none

/-- A number in digits, with something in front up to a width. -/
def digitsIn (base : Nat) (front : Char) (width n : Nat) : String :=
  let ds := Nat.toDigits base n
  String.ofList (List.replicate (width - ds.length) front ++ ds)

def shownByte (c : Char) : String :=
  match c with
  | '\x00' => "\\0"
  | '\x07' => "\\a"
  | '\x08' => "\\b"
  | '\t' => "\\t"
  | '\n' => "\\n"
  | '\x0b' => "\\v"
  | '\x0c' => "\\f"
  | '\r' => "\\r"
  | c => if Charset.bytes.isVisible c then String.singleton c else octalText c.toNat

def Listing.shown (l : Listing) : Nat → List Char → String
  | 0, _ => ""
  | n + 1, cs =>
    if cs.isEmpty then ""
    else
      let item : String :=
        match l.base with
        | none =>
          let t := String.join ((cs.take 1).map shownByte)
          String.ofList (List.replicate (l.width - t.length) ' ') ++ t
        | some base =>
          let value := (cs.take l.size).foldr (fun c n => n * 256 + c.toNat) 0
          digitsIn base (if base = 10 then ' ' else '0') l.width value
      " " ++ item ++ l.shown n (cs.drop l.size)

def od (args : List String) : Act Unit := do
  let words := [("address-radix", 'A'), ("format", 't'), ("read-bytes", 'N'), ("skip-bytes", 'j'),
    ("output-duplicates", 'v')]
  withOptions ⟨"od", "A:t:N:j:vbcox", words, 1⟩ args fun o => do
    let texts ← readAll "od" o.rest
    match listing? o with
    | none => fail "od" ("invalid type string " ++ (← shownArgument ((o.argument? 't').getD ""))) 1
    | some l =>
      let all := (String.join (texts.map (·.2))).toList
      let skipped := ((o.argument? 'j').bind String.toNat?).getD 0
      let all := all.drop skipped
      let all := ((o.argument? 'N').bind String.toNat?).elim all all.take
      let place (n : Nat) : String :=
        match o.argument? 'A' with
        | some "n" => ""
        | some "d" => digitsIn 10 '0' 7 n
        | some "x" => digitsIn 16 '0' 6 n
        | _ => digitsIn 8 '0' 7 n
      let rec go : Nat → Nat → Option (List Char) → Bool → List Char → String
        | 0, _, _, _, _ => ""
        | n + 1, start, before, isRepeating, cs =>
          let here := cs.take 16
          if here.isEmpty then if o.argument? 'A' == some "n" then "" else place start ++ "\n"
          else
            let repeats := !o.has 'v' && before == some here && 16 < cs.length
            (if repeats then (if isRepeating then "" else "*\n")
              else place start ++ l.shown 16 here ++ "\n") ++
              go n (start + here.length) (some here) repeats (cs.drop 16)
      if texts.length == (if o.rest.isEmpty then 1 else o.rest.length) || !all.isEmpty then
        say (go (all.length + 2) skipped none false all)

end GatedPipeline.Shell.Program
