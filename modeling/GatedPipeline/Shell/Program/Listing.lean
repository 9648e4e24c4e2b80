import GatedPipeline.Shell.Format
import GatedPipeline.Shell.Pattern
import GatedPipeline.Shell.Program.Basic
import GatedPipeline.Text.Version

namespace GatedPipeline.Shell.Program

namespace Listing

/-- A name as it is shown, and the room that it takes. -/
structure Item where
  text : String
  width : Nat
deriving Repr

inductive Arrangement where
  | lines
  | down
  | across
  | commas
  | details
deriving DecidableEq, Repr

def leastColumn : Nat := 3

/-- Blanks from one place on a line to another; as many tabs are among them as fit. -/
def gap (tab : Nat) : Nat → Nat → Nat → String
  | 0, _, _ => ""
  | n + 1, start, goal =>
    if goal ≤ start then ""
    else if tab != 0 && (start + 1) / tab < goal / tab then
      "\t" ++ gap tab n (start + (tab - start % tab)) goal
    else " " ++ gap tab n (start + 1) goal

/-- The widths of so many columns; `isDown` says that names go down the columns. -/
def columnWidths (isDown : Bool) (items : List Item) (count : Nat) : List Nat :=
  let rows := (items.length + count - 1) / count
  (List.range count).map fun c =>
    let own := items.mapIdx fun i item =>
      if (if isDown then i / rows else i % count) == c then
        item.width + (if c + 1 == count then 0 else 2)
      else 0
    own.foldl max leastColumn

/-- How wide the columns are when there are as many as fit. -/
def fittingWidths (isDown : Bool) (line : Nat) (items : List Item) : List Nat :=
  let most := (line + leastColumn - 1) / leastColumn
  let most := min most items.length
  let fits (n : Nat) : Option (List Nat) :=
    let ws := columnWidths isDown items n
    if n ≤ 1 || ws.foldr (· + ·) 0 < line then some ws else none
  (((List.range most).reverse).findSome? fun n => fits (n + 1)).getD [leastColumn]

def row (tab : Nat) : Nat → List Nat → List Item → String
  | place, w :: ws, item :: items =>
    item.text ++
      if items.isEmpty then ""
      else gap tab (w + 1) (place + item.width) (place + w) ++ row tab (place + w) ws items
  | _, _, _ => ""

def inColumns (isDown : Bool) (line tab : Nat) (items : List Item) : String :=
  let widths := fittingWidths isDown line items
  let count := widths.length
  let rows := (items.length + count - 1) / count
  let cell (r c : Nat) : Option Item := items[if isDown then c * rows + r else r * count + c]?
  unlines ((List.range rows).map fun r =>
    row tab 0 widths ((List.range count).filterMap (cell r)))

/-- Names after one another, with a separator and a blank between them. -/
def separated (separator : String) (line : Nat) (items : List Item) : String :=
  let rec go : Bool → Nat → List Item → String
    | _, _, [] => "\n"
    | isFirst, place, item :: rest =>
      let fits := line = 0 || place + item.width + 2 < line
      let start := if isFirst then 0 else if fits then place + 2 else 0
      (if isFirst then "" else separator ++ if fits then " " else "\n") ++ item.text ++
        go false (start + item.width) rest
  go true 0 items

def arranged (a : Arrangement) (line tab : Nat) (items : List Item) : String :=
  if items.isEmpty then ""
  else
    match a with
    | .down => if line = 0 then separated " " 0 items else inColumns true line tab items
    | .across => if line = 0 then separated " " 0 items else inColumns false line tab items
    | .commas => separated "," line items
    | _ => unlines (items.map (·.text))

/-- Names and arguments of options that have no letters. -/
def words : List (String × Char) :=
  [("all", 'a'), ("almost-all", 'A'), ("directory", 'd'), ("reverse", 'r'), ("recursive", 'R'),
    ("classify", 'F'), ("escape", 'b'), ("literal", 'N'), ("quote-name", 'Q'),
    ("hide-control-chars", 'q'), ("width", 'w'), ("tabsize", 'T'), ("ignore", 'I'),
    ("ignore-backups", 'B'), ("size", 's'), ("inode", 'i'), ("human-readable", 'h'),
    ("show-control-chars", '\x01'), ("group-directories-first", '\x02'), ("color", '\x03'),
    ("sort", '\x04'), ("format", '\x05'), ("quoting-style", '\x06'), ("file-type", '\x07'),
    ("hide", '\x08'), ("zero", '\x0e'), ("numeric-uid-gid", 'n'), ("no-group", 'G')]

def usage : Usage :=
  ⟨"ls", "aA1drRFpCxmgGhHikllLnNoqQsStuUvXZcfbBw:T:I:\x01\x02\x03::\x04:\x05:\x06:\x07\x08:\x0e",
    words, 2⟩

/-- The kind of mark that stands after a name: none, one for directories, or one for all kinds. -/
inductive Marks where
  | none
  | directories
  | kinds
  | all
deriving DecidableEq, Repr

inductive Style where
  | literal
  | shell
  | shellAlways
  | shellEscape
  | shellEscapeAlways
  | quoted
  | quotedSparingly
  | escaped
  | message
deriving DecidableEq, Repr

def styles : List (List String × Style) :=
  [(["literal"], .literal), (["shell"], .shell), (["shell-always"], .shellAlways),
    (["shell-escape"], .shellEscape), (["shell-escape-always"], .shellEscapeAlways),
    (["c"], .quoted), (["c-maybe"], .quotedSparingly), (["escape"], .escaped),
    (["locale"], .message), (["clocale"], .quoted)]

def arrangements : List (List String × Arrangement) :=
  [(["verbose", "long"], .details), (["commas"], .commas), (["horizontal", "across"], .across),
    (["vertical"], .down), (["single-column"], .lines)]

inductive Sorting where
  | nothing
  | time
  | size
  | ending
  | version
  | width
  | name
deriving DecidableEq, Repr

def sortings : List (List String × Sorting) :=
  [(["none"], .nothing), (["time"], .time), (["size"], .size), (["extension"], .ending),
    (["version"], .version), (["width"], .width)]

section

variable (o : Builtin.Options) (s : State)

def arrangement : Arrangement :=
  o.given.foldl (fun a g =>
    match g.1 with
    | 'C' => .down
    | 'x' => .across
    | 'm' => .commas
    | '1' => if a == .details then a else .lines
    | '\x0e' => if a == .details then a else .lines
    | '\x05' => (choice? g.2 arrangements).getD a
    | c => if "lgno".toList.contains c then .details else a) .lines

def sorting : Sorting :=
  o.given.foldl (fun a g =>
    match g.1 with
    | 'S' => .size
    | 'X' => .ending
    | 'v' => .version
    | 't' => .time
    | 'U' => .nothing
    | 'f' => .nothing
    | '\x04' => (choice? g.2 sortings).getD a
    | _ => a) .name

def marks : Marks :=
  o.given.foldl (fun m g =>
    match g.1 with
    | 'F' => .all
    | 'p' => .directories
    | '\x07' => .kinds
    | _ => m) .none

def style : Style :=
  let usual := ((s.environment.lookup "QUOTING_STYLE").bind (choice? · styles)).getD .literal
  o.given.foldl (fun m g =>
    match g.1 with
    | 'b' => .escaped
    | 'N' => .literal
    | 'Q' => .quoted
    | '\x06' => (choice? g.2 styles).getD m
    | _ => m) usual

/-- A name as it is written, without a mark; some more characters get a backslash. -/
def written (others : List Char) (name : String) : String :=
  let k := s.programCharset
  let isSpecial (isShown : Char → Bool) : Bool :=
    Mention.isDelicate isShown (k.units name.toList) || others.any name.toList.contains
  match style o s with
  | .literal =>
    if o.has 'q' then k.onUnits (·.map fun c => if k.isVisible c then c else '?') name else name
  | .shell =>
    if isSpecial (!"\n\r\t".toList.contains ·) then Mention.simplePath k name else name
  | .shellAlways => Mention.simplePath k name
  | .shellEscape => if isSpecial k.isVisible then Mention.path k name else name
  | .shellEscapeAlways => Mention.path k name
  | .quoted => Mention.double k others name
  | .quotedSparingly =>
    if Mention.escaped k ('"' :: others) name == name then name else Mention.double k others name
  | .escaped => Mention.escaped k others name
  | .message => Mention.argument k name

def mark (path : String) : String :=
  match Testing.kind? s path, marks o with
  | _, .none => ""
  | some .directory, _ => "/"
  | some (.file _ true), .all => "*"
  | some .program, .all => "*"
  | _, _ => ""

def item (path name : String) : Item :=
  let others :=
    (if style o s == .escaped then [' '] else []) ++
      (match marks o with
        | .all => "=>@|".toList
        | .kinds => "*=>@|".toList
        | _ => [])
  let text := written o s others name ++ mark o s path
  let k := s.programCharset
  ⟨text, ((k.units text.toList).filter k.isVisible).length⟩

/-- Which of two names comes first, given where they are. -/
def comesFirst (a b : String × String) : Bool :=
  let size (p : String) : Nat :=
    match Testing.kind? s p with
    | some (.file n _) => n
    | _ => 4096
  let ending (name : String) : String :=
    let cs := name.toList.reverse
    if cs.contains '.' then String.ofList ('.' :: (cs.takeWhile (· != '.')).reverse) else ""
  let byName := compareOfLessAndEq a.2 b.2
  let order :=
    match sorting o with
    | .size => (compareOfLessAndEq (size b.1) (size a.1)).then byName
    | .ending => (compareOfLessAndEq (ending a.2) (ending b.2)).then byName
    | .version => (Text.Version.compare a.2 b.2).then byName
    | .width =>
      (compareOfLessAndEq (item o s a.1 a.2).width (item o s b.1 b.2).width).then byName
    | _ => byName
  let isDirectory (p : String) : Bool := Testing.kind? s p == some .directory
  let order := if o.has 'r' then order.swap else order
  if o.has '\x02' && isDirectory a.1 != isDirectory b.1 then isDirectory a.1 else order != .gt

/-- The names in a directory with their paths, as they are listed. -/
def namesIn (path : String) : List (String × String) :=
  let full := Path.resolve s.directory path
  let all := o.has 'a' || o.has 'f'
  let ignored := (o.given.filter fun g => g.1 == 'I' || (g.1 == '\x08' && !all && !o.has 'A')).map
    fun g => Pattern.ofMarked .exact ⟨false, true⟩ (g.2.toList.map (·, false))
  let names := (s.world.files.list full).filter fun n =>
    (all || o.has 'A' || !n.startsWith ".") && !(o.has 'B' && n.endsWith "~") &&
      !ignored.any fun p => p.isMatch n.toList
  let names := (if all then [".", ".."] else []) ++ names
  let base := if path.endsWith "/" then path else path ++ "/"
  (names.map fun n => (base ++ n, n)).mergeSort (comesFirst o s)

def links (path : String) : Nat :=
  match Testing.kind? s path with
  | some .directory =>
    let full := Path.resolve s.directory path
    2 + ((s.world.files.list full).filter fun n => s.world.files.isDirectory (full ++ "/" ++ n)).length
  | _ => 1

/-- What is told of a file: its kind, who may use it, how many names it has, and its size. -/
def details (path : String) : String × Nat × Nat :=
  match Testing.kind? s path with
  | some .directory => ("drwxr-xr-x", links s path, 4096)
  | some (.file n true) => ("-rwxr-xr-x", 1, n)
  | some (.file n false) => ("-rw-r--r--", 1, n)
  | some .program => ("-rwxr-xr-x", 1, 0)
  | _ => ("crw-rw-rw-", 1, 0)

/-- Names with details, in columns that are as wide as they have to be. -/
def detailed (names : List (String × String)) : String :=
  let rows := names.map fun n => (details s n.1, (item o s n.1 n.2).text)
  let wide (f : Nat × Nat → Nat) : Nat := (rows.map fun r => (toString (f r.1.2)).length).foldl max 0
  let right (w n : Nat) : String :=
    let t := toString n
    String.ofList (List.replicate (w - t.length) ' ') ++ t
  let time := String.ofList (Calendar.format (Calendar.atZone "" (Format.beginning + s.now / 1000))
    40 "%b %e %H:%M".toList)
  unlines (rows.map fun r =>
    " ".intercalate ([r.1.1, right (wide (·.1)) r.1.2.1] ++
      (if o.has 'g' then [] else [if o.has 'n' then "0" else "root"]) ++
      (if o.has 'o' || o.has 'G' then [] else [if o.has 'n' then "0" else "root"]) ++
      [right (wide (·.2)) r.1.2.2, time, r.2]))

def total (names : List (String × String)) : Nat :=
  ((names.map fun n => ((details s n.1).2.2 + 4095) / 4096 * 4)).foldr (· + ·) 0

end

end Listing

def ls (args : List String) : Act Unit := do
  withOptions Listing.usage args fun o => do
    let s ← get
    let wrongNumber (c : Char) : Option String :=
      (o.argument? c).filter fun a => (a.toNat?).isNone
    let wrongWord (c : Char) (known : String → Bool) : Option String :=
      (o.argument? c).filter fun a => !known a
    match wrongNumber 'w', wrongNumber 'T' with
    | some a, _ => fail "ls" ("invalid line width: " ++ (← shownArgument a)) 2
    | none, some a => fail "ls" ("invalid tab size: " ++ (← shownArgument a)) 2
    | none, none =>
      match wrongWord '\x06' fun a => (choice? a Listing.styles).isSome,
          wrongWord '\x04' fun a => (choice? a Listing.sortings).isSome,
          wrongWord '\x05' fun a => (choice? a Listing.arrangements).isSome with
      | some a, _, _ => refuseChoice "ls" "--quoting-style" a Listing.styles 2
      | none, some a, _ => refuseChoice "ls" "--sort" a Listing.sortings 2
      | none, none, some a => refuseChoice "ls" "--format" a Listing.arrangements 2
      | none, none, none => list o s
where
  list (o : Builtin.Options) (s : State) : Act Unit := do
    let line := ((o.argument? 'w').or (s.environment.lookup "COLUMNS")).bind String.toNat?
    let tab := ((o.argument? 'T').bind String.toNat?).getD 8
    let put (names : List (String × String)) : Act Unit := do
      let items := names.map fun n => Listing.item o s n.1 n.2
      if o.has '\x0e' then say (String.join (items.map (·.text ++ "\x00")))
      else if Listing.arrangement o == .details then say (Listing.detailed o s names)
      else say (Listing.arranged (Listing.arrangement o) (line.getD 80) tab items)
    let shown (path : String) : Act Unit := do
      let names := Listing.namesIn o s path
      if Listing.arrangement o == .details then
        say ("total " ++ toString (Listing.total s names) ++ "\n")
      put names
    let rec below : Nat → Bool → String → Act Unit
      | 0, _, _ => return ()
      | n + 1, isFirst, path => do
        if !isFirst then say "\n"
        say (Listing.written o s [':'] path ++ ":\n")
        shown path
        let inner := (Listing.namesIn o s path).filter fun m =>
          m.2 != "." && m.2 != ".." && Testing.kind? s m.1 == some .directory
        inner.forM fun m => below n false m.1
    let operands := if o.rest.isEmpty then ["."] else o.rest
    let present ← operands.filterM fun path => do
      match Testing.kind? s path with
      | some _ => return true
      | none =>
        let why :=
          match s.world.files.find s.directory path with
          | .error f => f.reason
          | .ok _ => FileFault.missing.reason
        fail "ls" ("cannot access " ++ (← shownPath path) ++ ": " ++ why) 2
        return false
    let isDirectory (path : String) : Bool :=
      !o.has 'd' && Testing.kind? s path == some .directory
    let sorted := (present.map fun p => (p, p)).mergeSort (Listing.comesFirst o s)
    let files := sorted.filter fun p => !isDirectory p.1
    let directories := (sorted.filter fun p => isDirectory p.1).map (·.1)
    put files
    if o.has 'R' then
      directories.mapIdx (fun i d => (i, d)) |>.forM fun d =>
        below 100 (files.isEmpty && d.1 == 0) d.2
    else if operands.length == 1 then directories.forM shown
    else
      directories.mapIdx (fun i d => (i, d)) |>.forM fun d => do
        if !files.isEmpty || d.1 != 0 then say "\n"
        say (Listing.written o s [':'] d.2 ++ ":\n")
        shown d.2

end GatedPipeline.Shell.Program
