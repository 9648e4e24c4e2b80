import GatedPipeline.Number.Decimal
import GatedPipeline.Shell.Program.Basic

namespace GatedPipeline.Shell.Program

def visible (c : Char) : String :=
  let n := c.toNat
  if n = 9 || n = 10 then String.singleton c
  else if n < 32 then String.ofList ['^', Char.ofNat (n + 64)]
  else if n < 127 then String.singleton c
  else if n = 127 then "^?"
  else if n < 160 then String.ofList ['M', '-', '^', Char.ofNat (n - 64)]
  else if n < 255 then String.ofList ['M', '-', Char.ofNat (n - 128)]
  else "M-^?"

def padded (width : Nat) (s : String) : String :=
  String.ofList (List.replicate (width - s.length) ' ') ++ s

/-- What `cat` makes of lines: the number that it has come to, and whether the last line was
empty. -/
structure Numbering where
  number : Nat
  afterEmpty : Bool
  atStart : Bool

def catLine (o : Builtin.Options) (n : Numbering) (line : String) : String × Numbering :=
  let ended := line.endsWith "\n"
  let body := if ended then String.ofList line.toList.dropLast else line
  let isEmpty := body.isEmpty && ended
  if o.has 's' && isEmpty && n.afterEmpty && n.atStart then ("", n)
  else
    let counts := n.atStart && (if o.has 'b' then !isEmpty else o.has 'n')
    let number := if counts then n.number + 1 else n.number
    let front := if counts then padded 6 (toString number) ++ "\t" else ""
    let shows := o.has 'v' || o.has 'A' || o.has 'e' || o.has 't'
    let tabs := o.has 'T' || o.has 'A' || o.has 't'
    let shown := String.join (body.toList.map fun c =>
      if c == '\t' then (if tabs then "^I" else "\t")
      else if shows then visible c else String.singleton c)
    let ends := o.has 'E' || o.has 'A' || o.has 'e'
    (front ++ shown ++ (if ended then (if ends then "$\n" else "\n") else ""),
      ⟨number, isEmpty, ended⟩)

def cat (args : List String) : Act Unit := do
  let words := [("number", 'n'), ("number-nonblank", 'b'), ("squeeze-blank", 's'),
    ("show-ends", 'E'), ("show-tabs", 'T'), ("show-all", 'A'), ("show-nonprinting", 'v')]
  withOptions ⟨"cat", "nbsETAvetu", words, 1⟩ args fun o => do
    let operands := if o.rest.isEmpty then ["-"] else o.rest
    let isPlain := o.given.all (·.1 == 'u')
    let shown (n : Numbering) (text : String) : String × Numbering :=
      if isPlain then (text, n)
      else
        let (ls, n) := (Act.keptLines text).foldl (fun (acc : List String × Numbering) l =>
          let (t, n) := catLine o acc.2 l
          (t :: acc.1, n)) ([], n)
        (String.join ls.reverse, n)
    let rec go : List String → Numbering → Act Unit
      | [], _ => return ()
      | path :: rest, n => do
        let source := if path = "-" then some 0 else descriptor? path
        let content ← do
          match source with
          | some d => pure ((← Act.remaining d).map (·.1))
          | none => readPath path
        match content with
        | .error e =>
          fail "cat" ((← shownOperand path) ++ ": " ++ e) 1
          go rest n
        | .ok chunks =>
          let finish : Act Unit := do
            match source with
            | some d =>
              let _ ← Act.takeAll d
            | none => return ()
          let n ← chunks.foldlM (fun n c => do
            Act.waitUntil c.time
            let (text, n) := shown n c.text
            if !(← Act.write 1 text) then fail "cat" "write error: Bad file descriptor" 1
            return n) n
          finish
          go rest n
    go operands ⟨0, false, true⟩

def headed (o : Builtin.Options) (count index : Nat) (path : String) : String :=
  if (count > 1 && !o.has 'q') || o.has 'v' then
    let shown := if path = "-" then "standard input" else path
    (if index == 0 then "" else "\n") ++ "==> " ++ shown ++ " <==\n"
  else ""

/-- A count with a sign in front and a unit behind. -/
def count? (s : String) : Option (Char × Nat) :=
  let (sign, ds) :=
    match s.toList with
    | '-' :: ds => ('-', ds)
    | '+' :: ds => ('+', ds)
    | ds => (' ', ds)
  let digits := ds.takeWhile Char.isDigit
  let factor : Option Nat :=
    match String.ofList (ds.drop digits.length) with
    | "" => some 1
    | "b" => some 512
    | "k" => some 1024
    | "K" => some 1024
    | "M" => some (1024 * 1024)
    | "kB" => some 1000
    | _ => none
  match (String.ofList digits).toNat?, factor with
  | some n, some f => some (sign, n * f)
  | _, _ => none

/-- The old way to give a count: as an option of digits. -/
def withOldCount (args : List String) : List String :=
  match args with
  | a :: rest =>
    match a.toList with
    | '-' :: c :: cs => if c.isDigit then "-n" :: String.ofList (c :: cs) :: rest else args
    | _ => args
  | [] => []

def partOf (name : String) (o : Builtin.Options) (take : Bool → Char × Nat → String → String) :
    Act Unit := do
  let operands := if o.rest.isEmpty then ["-"] else o.rest
  let byChars := ((o.given.filter fun g => g.1 == 'n' || g.1 == 'c').getLast?).any (·.1 == 'c')
  let given := (o.argument? (if byChars then 'c' else 'n')).getD "10"
  match count? given with
  | none =>
    fail name ("invalid number of " ++ (if byChars then "bytes" else "lines") ++ ": " ++
      (← shownArgument given)) 1
  | some n =>
    let rec go : Nat → List String → Act Unit
      | _, [] => return ()
      | i, path :: rest => do
        match ← readOperand path with
        | .error e =>
          if e == FileFault.isDirectory.reason then
            say (headed o operands.length i path)
            fail name ("error reading " ++ (← shownPath path) ++ ": " ++ e) 1
          else fail name ("cannot open " ++ (← shownPath path) ++ " for reading: " ++ e) 1
          go i rest
        | .ok text =>
          say (headed o operands.length i path ++ take byChars n text)
          go (i + 1) rest
    go 0 operands

def head (args : List String) : Act Unit := do
  let words := [("lines", 'n'), ("bytes", 'c'), ("quiet", 'q'), ("verbose", 'v')]
  withOptions ⟨"head", "n:c:qvz", words, 1⟩ (withOldCount args) fun o => do
    let operands := if o.rest.isEmpty then ["-"] else o.rest
    let byLines := (o.argument? 'c').isNone
    match operands, count? ((o.argument? 'n').getD "10") with
    | ["-"], some (sign, n) =>
      if byLines && sign != '-' && !o.has 'v' then lines n
      else partOf "head" o take
    | _, _ => partOf "head" o take
where
  take (byChars : Bool) (n : Char × Nat) (text : String) : String :=
    if byChars then
      let cs := text.toList
      String.ofList (if n.1 == '-' then cs.take (cs.length - n.2) else cs.take n.2)
    else
      let ls := Act.keptLines text
      String.join (if n.1 == '-' then ls.take (ls.length - n.2) else ls.take n.2)
  /-- Reads no further than it has to. -/
  lines : Nat → Act Unit
    | 0 => return ()
    | n + 1 => do
      match ← Act.takeLine 0 '\n' none with
      | .error e =>
        fail "head" ("error reading 'standard input': " ++ e) 1
      | .ok (text, isFull) =>
        say (if isFull then text ++ "\n" else text)
        if isFull then lines n

def tail (args : List String) : Act Unit := do
  let words := [("lines", 'n'), ("bytes", 'c'), ("quiet", 'q'), ("verbose", 'v')]
  withOptions ⟨"tail", "n:c:qvfz", words, 1⟩ (withOldCount args) fun o => partOf "tail" o take
where
  take (byChars : Bool) (n : Char × Nat) (text : String) : String :=
    if byChars then
      let cs := text.toList
      String.ofList (if n.1 == '+' then cs.drop (n.2 - 1) else cs.drop (cs.length - n.2))
    else
      let ls := Act.keptLines text
      String.join (if n.1 == '+' then ls.drop (n.2 - 1) else ls.drop (ls.length - n.2))

def tac (args : List String) : Act Unit := do
  withOptions ⟨"tac", "bs:r", [], 1⟩ args fun o => do
    (← readAll "tac" o.rest).forM fun t => say (String.join (Act.keptLines t.2).reverse)

def rev (args : List String) : Act Unit := do
  withOptions ⟨"rev", "", [], 1⟩ args fun o => do
    let k := (← get).programCharset
    (← readAll "rev" o.rest).forM fun t =>
      say (String.join ((Act.keptLines t.2).map fun l =>
        let cs := k.units (l.toList.filter (· != '\n'))
        String.ofList (k.text cs.reverse ++ if l.endsWith "\n" then ['\n'] else [])))

/-- The words of a text, counted. What cannot be seen makes no word. -/
def wordCount (k : Charset) (cs : List Char) : Nat :=
  (cs.foldl (fun (acc : Nat × Bool) c =>
    if k.inClass "space" c || c.toNat == 0xA0 && k == .unicode then (acc.1, false)
    else (if acc.2 then acc.1 else acc.1 + 1, true)) (0, false)).1

/-- How wide the widest line is, and how far the last one has come. -/
def lineWidth (k : Charset) (cs : List Char) : Nat × Nat :=
  cs.foldl (fun (acc : Nat × Nat) c =>
    let place :=
      if c == '\t' then acc.2 / 8 * 8 + 8
      else if c == '\n' || c == '\r' || c == '\x0c' then 0
      else if k.isVisible c then acc.2 + 1
      else acc.2
    (max acc.1 place, place)) (0, 0)

def wc (args : List String) : Act Unit := do
  let words := [("lines", 'l'), ("words", 'w'), ("bytes", 'c'), ("chars", 'm'),
    ("max-line-length", 'L')]
  withOptions ⟨"wc", "lwcmL", words, 1⟩ args fun o => do
    let o := if o.given.isEmpty then { o with given := [('l', ""), ('w', ""), ('c', "")] } else o
    let kinds := "lwmcL".toList.filter o.has
    let set := (← get).programCharset
    let counts (text : String) : List Nat :=
      let cs := text.toList
      let units := (set.units cs).filter (!Charset.isStray ·)
      kinds.map fun k =>
        match k with
        | 'l' => (cs.filter (· == '\n')).length
        | 'w' => wordCount set (set.units cs)
        | 'L' => (lineWidth set units).1
        | 'm' => units.length
        | _ => cs.length
    let s ← get
    let sizes := o.rest.map fun path =>
      (s.world.files.content? (Path.resolve s.directory path)).map String.length
    let texts ← readAll "wc" o.rest
    let total := (sizes.filterMap id).foldr (· + ·) 0
    let width :=
      if kinds.length == 1 && o.rest.length ≤ 1 then 1
      else if o.rest.isEmpty || sizes.any (·.isNone) then 7
      else (toString total).length
    let line (ns : List Nat) (name : String) : String :=
      " ".intercalate (ns.map fun n => padded width (toString n)) ++
        (if name.isEmpty then "" else " " ++ name) ++ "\n"
    texts.forM fun t => say (line (counts t.2) (if o.rest.isEmpty then "" else t.1))
    if o.rest.length > 1 then
      let joined (a : Nat × Char) (b : Nat) : Nat × Char :=
        (if a.2 == 'L' then max a.1 b else a.1 + b, a.2)
      let sums := texts.foldl (fun acc t => List.zipWith joined acc (counts t.2))
        (kinds.map fun k => (0, k))
      say (line (sums.map (·.1)) "total")

/-- A key by which lines are sorted: its first field, its last one, and how they are compared. -/
structure SortKey where
  first : Nat
  last : Option Nat
  letters : List Char

def sortKey? (s : String) : Option SortKey :=
  let part (t : String) : Option (Nat × List Char) :=
    let ds := t.toList.takeWhile Char.isDigit
    let rest := t.toList.drop ds.length
    let rest := if rest.head? == some '.' then (rest.drop 1).dropWhile Char.isDigit else rest
    ((String.ofList ds).toNat?).map (·, rest)
  match Text.splitAt ',' s with
  | [a] => (part a).map fun p => ⟨p.1, none, p.2⟩
  | [a, b] =>
    match part a, part b with
    | some p, some q => some ⟨p.1, some q.1, p.2 ++ q.2⟩
    | _, _ => none
  | _ => none

/-- The fields of a line, each with the blanks in front of it where no separator is given. -/
def sortFields (separator : Option Char) (line : String) : List String :=
  match separator with
  | some c => Text.splitAt c line
  | none =>
    (line.toList.foldr (fun c (acc : List (List Char)) =>
      match acc with
      | [] => [[c]]
      | f :: fs =>
        if !isBlank c && (f.head?).any isBlank then [c] :: f :: fs else (c :: f) :: fs) []).map
          String.ofList

/-- The number that a text begins with, as a ratio of whole numbers. -/
def leadingReal (s : String) : Int × Nat :=
  let cs := s.toList.dropWhile isSpace
  let unsigned := if cs.head? == some '-' then cs.drop 1 else cs
  let body := unsigned.takeWhile fun c => c.isDigit || c == '.'
  match Decimal.read? body with
  | some (_, n, d, _) => (if cs.head? == some '-' then -(n : Int) else n, d)
  | none => (0, 1)

def compareBy (letters : List Char) (a b : String) : Ordering :=
  if letters.contains 'n' || letters.contains 'g' then
    let x := leadingReal a
    let y := leadingReal b
    compareOfLessAndEq (x.1 * y.2) (y.1 * x.2)
  else
    let shape (s : String) : String :=
      let cs := if letters.contains 'b' then s.toList.dropWhile isBlank else s.toList
      let cs := if letters.contains 'd' then cs.filter fun c => c.isAlphanum || isBlank c else cs
      String.ofList (if letters.contains 'f' then cs.map Char.toUpper else cs)
    compareOfLessAndEq (shape a) (shape b)

def sort (args : List String) : Act Unit := do
  let words := [("reverse", 'r'), ("numeric-sort", 'n'), ("unique", 'u'), ("key", 'k'),
    ("field-separator", 't'), ("ignore-case", 'f'), ("stable", 's'), ("output", 'o'),
    ("check", 'c'), ("version-sort", 'V')]
  withOptions ⟨"sort", "rnufgbdsk:t:o:czV", words, 2⟩ args fun o => do
    let separator := (o.argument? 't').bind fun t => t.toList.head?
    let global := (o.given.map (·.1)).filter "nfgbdr".toList.contains
    let keys := (o.given.filter (·.1 == 'k')).map fun g => sortKey? g.2
    if keys.any (·.isNone) then
      fail "sort" "invalid number at field start" 2
    else
      let keys := keys.filterMap id
      let texts ← readAll "sort" o.rest
      if (← Act.status) != 0 then
        Act.setStatus 2
      let linesOf (t : String) : List String :=
        if o.has 'z' then
          let parts := Text.splitAt '\x00' t
          if parts.getLast? == some "" then parts.dropLast else parts
        else Text.lines t
      let ls := texts.flatMap fun t => linesOf t.2
      let turned (isReverse : Bool) (c : Ordering) : Ordering := if isReverse then c.swap else c
      let keyed (k : SortKey) (line : String) : String :=
        let fs := sortFields separator line
        let chosen := match k.last with
          | some l => (fs.take l).drop (k.first - 1)
          | none => fs.drop (k.first - 1)
        (match separator with
          | some c => String.singleton c
          | none => "").intercalate chosen
      let byKeys (a b : String) : Ordering :=
        if keys.isEmpty then turned (global.contains 'r') (compareBy global a b)
        else
          keys.foldl (fun acc k =>
            let letters := if k.letters.isEmpty then global else k.letters
            let order := compareBy letters (keyed k a) (keyed k b)
            acc.then (turned (letters.contains 'r') order)) .eq
      let whole (a b : String) : Ordering :=
        if o.has 's' || o.has 'u' then byKeys a b
        else (byKeys a b).then (turned (global.contains 'r') (compareOfLessAndEq a b))
      if o.has 'c' then
        let disorder := ((List.range (ls.length - 1)).find? fun i =>
          let c := whole ((ls[i]?).getD "") ((ls[i + 1]?).getD "")
          c == .gt || (o.has 'u' && c == .eq))
        match disorder with
        | some i =>
          fail "sort" ((o.rest.head?).getD "-" ++ ":" ++ toString (i + 2) ++ ": disorder: " ++
            (ls[i + 1]?).getD "") 1
        | none => return ()
      else
        let sorted := ls.mergeSort fun a b => whole a b != .gt
        let sorted :=
          if o.has 'u' then
            (sorted.foldl (fun (acc : List String) l =>
              match acc with
              | m :: _ => if byKeys m l == .eq then acc else l :: acc
              | [] => [l]) []).reverse
          else sorted
        let text := String.join (sorted.map (· ++ (if o.has 'z' then "\x00" else "\n")))
        match o.argument? 'o' with
        | some path =>
          let s ← get
          modify fun s' => { s' with world := { s'.world with
            files := s'.world.files.write (Path.resolve s.directory path) text } }
        | none => say text

def uniq (args : List String) : Act Unit := do
  let words := [("count", 'c'), ("repeated", 'd'), ("unique", 'u'), ("ignore-case", 'i')]
  withOptions ⟨"uniq", "cduif:s:w:", words, 1⟩ args fun o => do
    let texts ← readAll "uniq" (o.rest.take 1)
    let ls := texts.flatMap fun t => Text.lines t.2
    let number (c : Char) : Nat := ((o.argument? c).bind String.toNat?).getD 0
    let key (l : String) : List Char :=
      let fs := ((sortFields none l).drop (number 'f'))
      let cs := (String.join fs).toList.drop (number 's')
      let cs := if (o.argument? 'w').isSome then cs.take (number 'w') else cs
      if o.has 'i' then cs.map Char.toLower else cs
    let groups := (ls.foldl (fun (acc : List (String × Nat)) l =>
      match acc with
      | (m, n) :: rest => if key m == key l then (m, n + 1) :: rest else (l, 1) :: acc
      | [] => [(l, 1)]) []).reverse
    let chosen := groups.filter fun g =>
      (!o.has 'd' || g.2 > 1) && (!o.has 'u' || g.2 == 1)
    say (unlines (chosen.map fun g =>
      if o.has 'c' then padded 7 (toString g.2) ++ " " ++ g.1 else g.1))

def setOf : Nat → List Char → List Char
  | 0, _ => []
  | _ + 1, [] => []
  | n + 1, cs =>
    match cs with
    | '[' :: ':' :: rest =>
      let name := rest.takeWhile (· != ':')
      match rest.drop name.length with
      | ':' :: ']' :: more =>
        (((List.range 256).map Char.ofNat).filter (inClass (String.ofList name))) ++ setOf n more
      | _ => '[' :: setOf n (cs.drop 1)
    | _ =>
      let (c, rest) := one cs
      match rest with
      | '-' :: x :: more =>
        let (d, more) := one (x :: more)
        ((List.range (d.toNat + 1)).drop c.toNat).map Char.ofNat ++ setOf n more
      | _ => c :: setOf n rest
where
  one : List Char → Char × List Char
    | '\\' :: c :: cs =>
      if isOctal c then
        let ds := ((c :: cs).take 3).takeWhile isOctal
        (byteOf (octalNumber ds), (c :: cs).drop ds.length)
      else ((Quoting.letterEscape? c).getD c, cs)
    | c :: cs => (c, cs)
    | [] => ('\x00', [])
  inClass (name : String) (c : Char) : Bool := Shell.SetItem.contains .bytes c (.named name)

def tr (args : List String) : Act Unit := do
  let words :=
    [("delete", 'd'), ("squeeze-repeats", 's'), ("complement", 'c'), ("truncate-set1", 't')]
  withOptions ⟨"tr", "cCdst", words, 1⟩ args fun o => do
    let deletes := o.has 'd'
    match o.rest with
    | [] => refuse "tr" "missing operand" 1
    | _ :: _ :: extra :: _ => refuse "tr" ("extra operand " ++ (← shownArgument extra)) 1
    | [a] =>
      if !deletes && !o.has 's' then
        fail "tr" ("missing operand after " ++ (← shownArgument a)) 1
        Act.put 2 ("Two strings must be given when translating.\n" ++
          "Try 'tr --help' for more information.\n")
      else go o deletes a ""
    | [a, b] =>
      if deletes && !o.has 's' then
        fail "tr" ("extra operand " ++ (← shownArgument b)) 1
        Act.put 2 ("Only one string may be given when deleting without squeezing repeats.\n" ++
          "Try 'tr --help' for more information.\n")
      else go o deletes a b
where
  go (o : Builtin.Options) (deletes : Bool) (a b : String) : Act Unit := do
    match ← Act.takeText 0 with
    | .error e => fail "tr" ("read error: " ++ e) 1
    | .ok text =>
      let first := setOf (a.length + 1) a.toList
      let first := if o.has 'c' || o.has 'C' then
        ((List.range 256).map Char.ofNat).filter (!first.contains ·) else first
      let second := setOf (b.length + 1) b.toList
      let last := second.getLast?
      let changed (c : Char) : Char :=
        if b.isEmpty && o.rest.length < 2 then c
        else
          match first.reverse.findIdx? (· == c) with
          | some i => (second[first.length - 1 - i]?).getD (last.getD c)
          | none => c
      let cs := text.toList
      let cs := if deletes then cs.filter (!first.contains ·) else cs.map changed
      let squeezed := if o.rest.length < 2 then first else second
      let cs :=
        if o.has 's' then
          (cs.foldl (fun (acc : List Char) c =>
            if acc.head? == some c && squeezed.contains c then acc else c :: acc) []).reverse
        else cs
      say (String.ofList cs)

def ranges? (s : String) : Option (List (Nat × Option Nat)) :=
  (Text.splitAt ',' s).mapM fun part =>
    match Text.splitAt '-' part with
    | [a] => (a.toNat?).bind fun n => if n = 0 then none else some (n, some n)
    | ["", b] => (b.toNat?).map fun n => (1, some n)
    | [a, ""] => (a.toNat?).map fun n => (n, none)
    | [a, b] =>
      match a.toNat?, b.toNat? with
      | some m, some n => if m ≤ n then some (m, some n) else none
      | _, _ => none
    | _ => none

def inRanges (rs : List (Nat × Option Nat)) (n : Nat) : Bool :=
  rs.any fun r => r.1 ≤ n && r.2.all (n ≤ ·)

def cut (args : List String) : Act Unit := do
  let words := [("fields", 'f'), ("delimiter", 'd'), ("characters", 'c'), ("bytes", 'b'),
    ("only-delimited", 's'), ("complement", 'C'), ("output-delimiter", 'O')]
  withOptions ⟨"cut", "f:d:c:b:snCO:", words, 1⟩ args fun o => do
    let chars := (o.argument? 'c').or (o.argument? 'b')
    match (o.argument? 'f').or chars with
    | none => refuse "cut" "you must specify a list of bytes, characters, or fields" 1
    | some list =>
      match ranges? list with
      | none => refuse "cut" ("invalid " ++ (if chars.isSome then "byte/character position"
          else "field value") ++ " " ++ (← shownArgument list)) 1
      | some rs =>
        let delimiter := (o.argument? 'd').getD "\t"
        if delimiter.length > 1 then refuse "cut" "the delimiter must be a single character" 1
        else
          let keeps (i : Nat) : Bool := inRanges rs (i + 1) != o.has 'C'
          let line (l : String) : Option String :=
            if chars.isSome then
              some (String.ofList ((l.toList.zipIdx.filter fun p => keeps p.2).map (·.1)))
            else
              let d := (delimiter.toList.head?).getD '\x00'
              if !l.contains d then (if o.has 's' then none else some l)
              else
                let kept := ((Text.splitAt d l).zipIdx.filter fun p => keeps p.2).map (·.1)
                some (((o.argument? 'O').getD (String.singleton d)).intercalate kept)
          let texts ← readAll "cut" o.rest
          say (unlines ((texts.flatMap fun t => Text.lines t.2).filterMap line))

def tee (args : List String) : Act Unit := do
  withOptions ⟨"tee", "aip", [("append", 'a')], 1⟩ args fun o => do
    match ← Act.takeAll 0 with
    | .error e => fail "tee" ("read error: " ++ e) 1
    | .ok chunks =>
      let text := String.join (chunks.map (·.text))
      o.rest.forM fun path => do
        let s ← get
        let full := Path.resolve s.directory path
        match descriptor? full with
        | some n => Act.put n text
        | none =>
          if full = "/dev/null" || full = "/dev/zero" then return ()
          else if full = "/dev/full" then fail "tee" (path ++ ": No space left on device") 1
          else if s.world.files.isDirectory full then fail "tee" (path ++ ": Is a directory") 1
          else if !s.world.files.isDirectory (Path.parent full) then
            fail "tee" (path ++ ": No such file or directory") 1
          else
            let old := if o.has 'a' then (s.world.files.content? full).getD "" else ""
            modify fun s => { s with world := { s.world with
              files := s.world.files.write full (old ++ text) } }
      say text

def nl (args : List String) : Act Unit := do
  withOptions ⟨"nl", "b:w:s:v:n:", [], 1⟩ args fun o => do
    let texts ← readAll "nl" o.rest
    let ls := texts.flatMap fun t => Text.lines t.2
    let width := ((o.argument? 'w').bind String.toNat?).getD 6
    let separator := (o.argument? 's').getD "\t"
    let all := (o.argument? 'b') == some "a"
    let (out, _) := ls.foldl (fun (acc : List String × Nat) l =>
      if all || !l.isEmpty then
        ((padded width (toString acc.2) ++ separator ++ l) :: acc.1, acc.2 + 1)
      else (String.ofList (List.replicate (width + separator.length) ' ') :: acc.1, acc.2))
      ([], ((o.argument? 'v').bind String.toNat?).getD 1)
    say (unlines out.reverse)

def paste (args : List String) : Act Unit := do
  withOptions ⟨"paste", "d:s", [("delimiters", 'd'), ("serial", 's')], 1⟩ args fun o => do
    let texts ← readAll "paste" o.rest
    let columns := texts.map fun t => Text.lines t.2
    let delimiters := (((o.argument? 'd').getD "\t").replace "\\t" "\t").toList
    let between (i : Nat) : String :=
      if delimiters.isEmpty then "" else
        String.singleton ((delimiters[i % delimiters.length]?).getD '\t')
    let joined (fs : List String) : String :=
      String.join (fs.mapIdx fun i f => if i == 0 then f else between (i - 1) ++ f)
    if o.has 's' then say (unlines (columns.map joined))
    else
      let rows := (columns.map List.length).foldl max 0
      let row (i : Nat) : String := joined (columns.map fun column => (column[i]?).getD "")
      say (unlines ((List.range rows).map row))

def fold (args : List String) : Act Unit := do
  withOptions ⟨"fold", "w:sb", [("width", 'w')], 1⟩ args fun o => do
    let width := ((o.argument? 'w').bind String.toNat?).getD 80
    let texts ← readAll "fold" o.rest
    let rec pieces : Nat → List Char → List String
      | 0, _ => []
      | n + 1, cs =>
        if cs.length ≤ width || width = 0 then [String.ofList cs]
        else String.ofList (cs.take width) :: pieces n (cs.drop width)
    texts.forM fun t =>
      say (String.join ((Act.keptLines t.2).map fun l =>
        let cs := l.toList.filter (· != '\n')
        "\n".intercalate (pieces (cs.length + 1) cs) ++ if l.endsWith "\n" then "\n" else ""))

end GatedPipeline.Shell.Program
