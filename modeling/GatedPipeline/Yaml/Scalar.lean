import GatedPipeline.Text.Bytes
import GatedPipeline.Yaml.Fault

namespace GatedPipeline.Yaml

/-- How many hexadecimal digits follow an escape letter. -/
def escapeWidth? (c : Char) : Option Nat :=
  if c == 'x' then some 2 else if c == 'u' then some 4 else if c == 'U' then some 8 else none

def escapeValue? (c : Char) : Option Char :=
  [('0', Char.ofNat 0), ('a', Char.ofNat 7), ('b', Char.ofNat 8), ('t', '\t'), ('\t', '\t'),
    ('n', '\n'), ('v', Char.ofNat 11), ('f', Char.ofNat 12), ('r', '\r'), ('e', Char.ofNat 27),
    (' ', ' '), ('"', '"'), ('/', '/'), ('\\', '\\'), ('N', Char.ofNat 0x85),
    ('_', Char.ofNat 0xA0), ('L', Char.ofNat 0x2028), ('P', Char.ofNat 0x2029)].lookup c

/-- The character written by an escape whose backslash stands at the cursor, in a scalar that starts
at `start`. -/
def readEscape (start : Place) (c : Cursor) : Scan (Char × Cursor) :=
  match c.peekAt? 1 with
  | none => .fails .unknownEscape c.place .escape start
  | some letter =>
    match escapeValue? letter, escapeWidth? letter with
    | some x, _ => .ok (x, c.skip 2)
    | none, none => .fails .unknownEscape c.place .escape start
    | none, some width =>
      let c' := c.skip 2
      let digits := c'.rest.take width
      match Text.hexNumber? digits with
      | none => .fails .noHexNumber c'.place .escape start
      | some n =>
        if digits.length < width then .fails .noHexNumber c'.place .escape start
        else if (0xD800 ≤ n ∧ n ≤ 0xDFFF) ∨ 0x10FFFF < n then
          .fails .noCharacterCode c'.place .escape start
        else .ok (Char.ofNat n, c'.skip width)

/-- The gap between two runs of a scalar that spans lines: blanks inside a line, or the first line
break and the further ones. A single break folds into a space. -/
structure Gap where
  blanks : List Char
  first : List Char
  more : List Char
  broken : Bool

def Gap.none : Gap := ⟨[], [], [], false⟩

def Gap.folded (g : Gap) : List Char :=
  if g.broken then
    if g.first == ['\n'] then (if g.more.isEmpty then [' '] else g.more) else g.first ++ g.more
  else g.blanks

/-- Goes over blanks and line breaks; blanks at the start of a line are not kept. -/
def readGap : Nat → Gap → Cursor → Gap × Cursor
  | 0, g, c => (g, c)
  | fuel + 1, g, c =>
    if c.atBlank then
      let kept := if g.broken then g.blanks else g.blanks ++ c.rest.take 1
      readGap fuel { g with blanks := kept } (c.skip 1)
    else if c.atBreak then
      let g' : Gap :=
        if g.broken then { g with more := g.more ++ c.breakText }
        else ⟨[], c.breakText, g.more, true⟩
      readGap fuel g' c.skipBreak
    else (g, c)

/-- A run of characters inside quotes up to a gap or the closing quote. The flag tells that the
run ended in an escaped line break. -/
def readQuotedRun (single : Bool) (start : Place) :
    Nat → List Char → Cursor → Scan (List Char × Bool × Cursor)
  | 0, acc, c => .ok (acc.reverse, false, c)
  | fuel + 1, acc, c =>
    match c.rest with
    | [] => .ok (acc.reverse, false, c)
    | x :: r =>
      if isBlank x || isBreak x then .ok (acc.reverse, false, c)
      else if single && x == '\'' then
        if r.head? == some '\'' then readQuotedRun single start fuel ('\'' :: acc) (c.skip 2)
        else .ok (acc.reverse, false, c)
      else if !single && x == '"' then .ok (acc.reverse, false, c)
      else if !single && x == '\\' then
        if (c.skip 1).atBreak then .ok (acc.reverse, true, (c.skip 1).skipBreak)
        else
          (readEscape start c).bind fun (e, c') => readQuotedRun single start fuel (e :: acc) c'
      else readQuotedRun single start fuel (x :: acc) (c.skip 1)

/-- The rest of a quoted scalar, gathered in `acc`, and the place behind its closing quote. -/
def readQuoted (single : Bool) (start : Place) : Nat → List Char → Cursor → Scan (String × Cursor)
  | 0, _, c => .fails .endOfText c.place .quotedScalar start
  | fuel + 1, acc, c =>
    if c.atDocumentMark then .fails .documentMark c.place .quotedScalar start
    else if c.atEnd then .fails .endOfText c.place .quotedScalar start
    else
      (readQuotedRun single start (c.rest.length + 1) [] c).bind fun (run, escaped, c') =>
        if c'.looksAt (if single then '\'' else '"') then
          .ok (String.ofList (acc ++ run), c'.skip 1)
        else
          let g := readGap (c'.rest.length + 1) { Gap.none with broken := escaped } c'
          readQuoted single start fuel (acc ++ run ++ g.1.folded) g.2

/-- Indentation and line breaks before a line of a block scalar: gives the breaks, the largest
column seen, and the place. A tab where indentation is expected is an error. -/
def readBlockBreaks (start : Place) (indent : Nat) :
    Nat → List Char → Nat → Cursor → Scan (List Char × Nat × Cursor)
  | 0, breaks, widest, c => .ok (breaks, widest, c)
  | fuel + 1, breaks, widest, c =>
    let room := if indent = 0 then c.rest.length else indent - c.column
    let spaces := (c.rest.take room).takeWhile (· == ' ')
    let c' := c.skip spaces.length
    let widest := max widest c'.column
    if (indent = 0 ∨ c'.column < indent) ∧ c'.looksAt '\t' then
      .fails .tabIndentation c'.place .blockScalar start
    else if c'.atBreak then
      readBlockBreaks start indent fuel (breaks ++ c'.breakText) widest c'.skipBreak
    else .ok (breaks, widest, c')

/-- The lines of a block scalar from the cursor on. `pending` is the break after the line before,
`breaks` are the empty lines after it, `blankBefore` tells that it started with a blank. -/
def readBlockLines (literal : Bool) (start : Place) (indent : Nat) :
    Nat → List Char → List Char → List Char → Bool → Cursor →
      Scan (List Char × List Char × List Char × Cursor)
  | 0, acc, pending, breaks, _, c => .ok (acc, pending, breaks, c)
  | fuel + 1, acc, pending, breaks, blankBefore, c =>
    if c.column == indent && !c.atEnd then
      let blankHere := c.atBlank
      let joint :=
        if !literal && pending.head? == some '\n' && !blankBefore && !blankHere then
          (if breaks.isEmpty then [' '] else []) ++ breaks
        else pending ++ breaks
      let line := c.span (!isBreak ·)
      let ending := line.2.breakText
      (readBlockBreaks start indent (c.rest.length + 1) [] 0 line.2.skipBreak).bind
        fun (breaks', _, c') =>
          readBlockLines literal start indent fuel (acc ++ joint ++ line.1) ending breaks'
            blankHere c'
    else .ok (acc, pending, breaks, c)

inductive Chomping where
  | strip
  | clip
  | keep
deriving DecidableEq, Repr

/-- The indicators behind `|` or `>`: chomping and indentation, in either order. -/
def readBlockHeader (start : Place) (c : Cursor) : Scan (Chomping × Option Nat × Cursor) :=
  let chomping? (c : Cursor) : Option Chomping :=
    if c.looksAt '+' then some .keep else if c.looksAt '-' then some .strip else none
  let digit (c : Cursor) : Scan (Option Nat × Cursor) :=
    match c.peek?.filter Char.isDigit with
    | none => .ok (none, c)
    | some '0' => .fails .zeroIndentation c.place .blockScalar start
    | some x => .ok (some (x.toNat - 48), c.skip 1)
  match chomping? c with
  | some chomping => (digit (c.skip 1)).map fun (n, c) => (chomping, n, c)
  | none =>
    (digit c).map fun (n, c') =>
      match n, chomping? c' with
      | some n, some chomping => (chomping, some n, c'.skip 1)
      | n, _ => (.clip, n, c')

/-- A block scalar whose indicator stands at the cursor, inside the indentation `outer`. -/
def readBlock (literal : Bool) (outer : Int) (c : Cursor) : Scan (String × Cursor) := do
  let start := c.place
  let (chomping, increment, c) ← readBlockHeader start (c.skip 1)
  let c := c.skipBlanks.skipComment
  if !c.atBreakOrEnd then .fails .noCommentOrBreak c.place .blockScalar start
  else
    let c := c.skipBreak
    let given := increment.map fun n => (max outer 0).toNat + n
    let (breaks, widest, c') ← readBlockBreaks start (given.getD 0) (c.rest.length + 1) [] 0 c
    let indent := given.getD (max (max widest (outer + 1).toNat) 1)
    let (text, ending, breaks, c'') ←
      readBlockLines literal start indent (c'.rest.length + 1) [] [] breaks false c'
    let tail :=
      match chomping with
      | .strip => []
      | .clip => ending
      | .keep => ending ++ breaks
    .ok (String.ofList (text ++ tail), c'')

def isFlowIndicator (c : Char) : Bool :=
  c == ',' || c == '[' || c == ']' || c == '{' || c == '}'

/-- A run of plain characters up to a gap or an indicator that ends the scalar; in flow context a
colon before an indicator is an error. -/
def readPlainRun (inFlow : Bool) (start : Place) :
    Nat → List Char → Cursor → Scan (List Char × Bool × Cursor)
  | 0, acc, c => .ok (acc.reverse, false, c)
  | fuel + 1, acc, c =>
    match c.rest with
    | [] => .ok (acc.reverse, false, c)
    | x :: _ =>
      if isBlank x || isBreak x then .ok (acc.reverse, false, c)
      else if inFlow && x == ':' && (c.peekAt? 1).any (fun y => isFlowIndicator y || y == '?') then
        .fails .colonInPlain c.place .plainScalar start
      else if (x == ':' && c.gapAt 1) || (inFlow && isFlowIndicator x) then
        .ok (acc.reverse, true, c)
      else readPlainRun inFlow start fuel (x :: acc) (c.skip 1)

/-- Like `readGap`; a tab before the indentation of a continued line is an error. -/
def readPlainGap (start : Place) (indent : Int) : Nat → Gap → Cursor → Scan (Gap × Cursor)
  | 0, g, c => .ok (g, c)
  | fuel + 1, g, c =>
    if c.atBlank then
      if g.broken ∧ (c.column : Int) < indent ∧ c.looksAt '\t' then
        .fails .tabInPlain c.place .plainScalar start
      else
        let kept := if g.broken then g.blanks else g.blanks ++ c.rest.take 1
        readPlainGap start indent fuel { g with blanks := kept } (c.skip 1)
    else if c.atBreak then
      let g' : Gap :=
        if g.broken then { g with more := g.more ++ c.breakText }
        else ⟨[], c.breakText, g.more, true⟩
      readPlainGap start indent fuel g' c.skipBreak
    else .ok (g, c)

/-- A plain scalar: its text, whether a line break follows it, and the place behind it. -/
def readPlain (inFlow : Bool) (start : Place) (indent : Int) :
    Nat → List Char → Gap → Cursor → Scan (String × Bool × Cursor)
  | 0, acc, gap, c => .ok (String.ofList acc, gap.broken, c)
  | fuel + 1, acc, gap, c =>
    if c.atDocumentMark || c.looksAt '#' then .ok (String.ofList acc, gap.broken, c)
    else do
      let (run, ended, c') ← readPlainRun inFlow start (c.rest.length + 1) [] c
      let acc' := if run.isEmpty then acc else acc ++ gap.folded ++ run
      let gap' := if run.isEmpty then gap else Gap.none
      if ended || !(c'.atBlank || c'.atBreak) then .ok (String.ofList acc', gap'.broken, c')
      else do
        let (gap'', c'') ← readPlainGap start indent (c'.rest.length + 1) gap' c'
        if !inFlow && (c''.column : Int) < indent then
          .ok (String.ofList acc', gap''.broken, c'')
        else readPlain inFlow start indent fuel acc' gap'' c''

end GatedPipeline.Yaml
