import GatedPipeline.Shell.Lexer
import GatedPipeline.Shell.Pattern

namespace GatedPipeline.Shell

inductive Regex where
  | char (c : Char)
  | any
  | set (isNegated : Bool) (items : List SetItem)
  | lineStart
  | lineEnd
  | wordEdge (isEdge : Bool)
  | wordStart
  | wordEnd
  | group (number : Nat) (r : Regex)
  | same (number : Nat)
  | sequence (rs : List Regex)
  | choice (rs : List Regex)
  | times (r : Regex) (least : Nat) (most : Option Nat)
deriving Repr, Inhabited

namespace Regex

/-- How far a match has come: what is left of the text, the character before it, and what groups
have matched, each by what was left at its beginning and at its end. -/
structure Progress where
  rest : List Char
  before : Option Char
  groups : List (Nat × Nat × Nat)
deriving Repr

/-- What stays the same while a text is matched. -/
structure Subject where
  text : List Char
  comparison : Comparison
deriving Repr

/-- Of the ways that leave the same the first one is kept. -/
def distinct (ps : List Progress) : List Progress :=
  (ps.foldl (fun (acc : List (Nat × Progress)) p =>
    let n := p.rest.length
    if acc.any (·.1 == n) then acc else (n, p) :: acc) []).reverse.map (·.2)

def step (p : Progress) : Option (Char × Progress) :=
  match p.rest with
  | c :: cs => some (c, { p with rest := cs, before := some c })
  | [] => none

/-- The part of the text between two lengths of what is left. -/
def between (s : Subject) (first last : Nat) : List Char :=
  (s.text.drop (s.text.length - first)).take (first - last)

def atEdge (p : Progress) : Bool := p.before.any inName != p.rest.head?.any inName

def repeated (m : Progress → List Progress) : Nat → Nat → Option Nat → Progress → List Progress
  | 0, _, _, p => [p]
  | n + 1, least, most, p =>
    if most == some 0 then [p]
    else
      let further := (m p).flatMap fun q =>
        if q.rest.length == p.rest.length && least == 0 then []
        else repeated m n (least - 1) (most.map (· - 1)) q
      distinct (if least == 0 then further ++ [p] else further)

mutual

/-- The ways in which an expression can match from a place on. -/
def ways (s : Subject) : Regex → Progress → List Progress
  | .char c, p =>
    match step p with
    | some (x, q) => if s.comparison.isSame c x then [q] else []
    | none => []
  | .any, p =>
    match step p with
    | some (x, q) => if Charset.isStray x then [] else [q]
    | none => []
  | .set isNegated items, p =>
    match step p with
    | some (x, q) => if Glob.inSet s.comparison items x != isNegated && !Charset.isStray x then [q] else []
    | none => []
  | .lineStart, p => if p.before.isNone then [p] else []
  | .lineEnd, p => if p.rest.isEmpty then [p] else []
  | .wordEdge isEdge, p => if atEdge p == isEdge then [p] else []
  | .wordStart, p => if atEdge p && p.rest.head?.any inName then [p] else []
  | .wordEnd, p => if atEdge p && p.before.any inName then [p] else []
  | .group number r, p =>
    (ways s r p).map fun q =>
      { q with groups := (number, p.rest.length, q.rest.length) :: q.groups.filter (·.1 != number) }
  | .same number, p =>
    match p.groups.lookup number with
    | some (first, last) =>
      let t := between s first last
      match p.rest.drop t.length with
      | rest =>
        if p.rest.take t.length == t then
          [{ p with rest := rest, before := (t.getLast?).or p.before }]
        else []
    | none => []
  | .sequence rs, p => waysAll s rs p
  | .choice rs, p => distinct (waysAny s rs p)
  | .times r least most, p =>
    repeated (ways s r) (p.rest.length + least + 1) least most p

def waysAll (s : Subject) : List Regex → Progress → List Progress
  | [], p => [p]
  | r :: rs, p => distinct ((ways s r p).flatMap (waysAll s rs))

def waysAny (s : Subject) : List Regex → Progress → List Progress
  | [], _ => []
  | r :: rs, p => ways s r p ++ waysAny s rs p

end

/-- What is left of the text where a match begins, and how it ends. -/
structure Match where
  start : Nat
  finish : Nat
  groups : List (Nat × Nat × Nat)
deriving Repr

/-- Of all matches that begin first the longest one is found. -/
def search (s : Subject) (r : Regex) : Option Char → List Char → Option Match
  | before, rest =>
    let longest := (ways s r ⟨rest, before, []⟩).foldl (fun (best : Option Progress) p =>
      match best with
      | none => some p
      | some b => if p.rest.length < b.rest.length then some p else best) none
    match longest with
    | some p => some ⟨rest.length, p.rest.length, p.groups⟩
    | none =>
      match rest with
      | c :: cs => search s r (some c) cs
      | [] => none
termination_by _ rest => rest.length

/-- The text of a match, and of each group as far as it has matched. -/
def texts (s : Subject) (m : Match) (count : Nat) : List (List Char) :=
  between s m.start m.finish :: (List.range count).map fun i =>
    match m.groups.lookup (i + 1) with
    | some (first, last) => between s first last
    | none => []

inductive Fault where
  | openGroup
  | closedGroup
  | nothingRepeated
  | openCount
  | badCount
  | tooMany
  | openBracket
  | badRange
  | unknownClass
  | unknownSign
  | noSuchGroup
  | loneBackslash
  | nothingInside
  | outsideColons
deriving DecidableEq, Repr

def Fault.message : Fault → String
  | .openGroup => "Unmatched ( or \\("
  | .closedGroup => "Unmatched ) or \\)"
  | .nothingRepeated => "Invalid preceding regular expression"
  | .openCount => "Unmatched \\\x7b"
  | .badCount => "Invalid content of \\\x7b\\\x7d"
  | .tooMany => "Regular expression too big"
  | .openBracket => "Unmatched [, [^, [:, [., or [="
  | .badRange => "Invalid range end"
  | .unknownClass => "Invalid character class name"
  | .unknownSign => "Invalid collation character"
  | .noSuchGroup => "Invalid back reference"
  | .loneBackslash => "Trailing backslash"
  | .nothingInside => "Invalid regular expression"
  | .outsideColons => "character class syntax is [[:space:]], not [:space:]"

/-- What is made of a sign for repetition where there is nothing to repeat. -/
inductive Leading where
  | fault
  | ignored
  | literal
deriving DecidableEq, Repr

structure Rules where
  allowsClosing : Bool
  leading : Leading
  allowsBraces : Bool
  repeatsAgain : Bool
  allowsEmpty : Bool
  mindsColons : Bool
deriving DecidableEq, Repr

namespace Rules

def extended : Rules := ⟨true, .fault, false, true, false, false⟩

def strict : Rules := ⟨false, .fault, false, true, false, true⟩

def lenient : Rules := ⟨true, .ignored, true, true, false, true⟩

/-- Those for basic expressions, in the same two kinds, and where an expression is a value. -/
def strictBasic : Rules := ⟨false, .literal, false, false, false, true⟩

def lenientBasic : Rules := ⟨false, .literal, false, true, false, true⟩

def valueBasic : Rules := ⟨false, .literal, false, true, true, false⟩

end Rules

namespace Reader

/-- What has been read: an expression, how many groups have been opened, which of them are closed,
and the rest. -/
structure Reading where
  expression : Regex
  count : Nat
  closed : List Nat
  rest : List Marked

def mostTimes : Nat := 32767

/-- A number before a comma or a brace: none if there are no digits. -/
def number? (s : List Marked) : Except Fault (Option Nat × List Marked) :=
  let inside := s.takeWhile fun m => m != (',', false) && m != ('}', false)
  let rest := s.drop inside.length
  if rest.isEmpty then .error .openCount
  else if inside.isEmpty then .ok (none, rest)
  else if inside.all fun m => m.1.isDigit && !m.2 then
    .ok ((String.ofList (inside.map (·.1))).toNat?, rest)
  else .error .badCount

/-- The bounds in braces, and what follows them. -/
def bounds? (s : List Marked) : Except Fault (Nat × Option Nat × List Marked) := do
  let (first, rest) ← number? s
  match rest with
  | ('}', _) :: rest =>
    match first with
    | some n => if mostTimes < n then .error .tooMany else .ok (n, some n, rest)
    | none => .error .badCount
  | _ =>
    let (last, rest) ← number? (rest.drop 1)
    let least := first.getD 0
    match rest with
    | ('}', _) :: rest =>
      if last.any (· < least) then .error .badCount
      else if mostTimes < last.getD least then .error .tooMany
      else .ok (least, last, rest)
    | _ => .error .badCount

def quantified (rules : Rules) : Nat → Regex → List Marked → Except Fault (Regex × List Marked)
  | 0, r, s => .ok (r, s)
  | n + 1, r, s =>
    let again (r : Regex) (rest : List Marked) : Except Fault (Regex × List Marked) :=
      let repeats := rest.head?.any fun m => m == ('*', false) || m == ('{', false)
      if repeats && !rules.repeatsAgain then .error .nothingRepeated
      else quantified rules n r rest
    match s with
    | ('*', false) :: rest => again (.times r 0 none) rest
    | ('+', false) :: rest => again (.times r 1 none) rest
    | ('?', false) :: rest => again (.times r 0 (some 1)) rest
    | ('{', false) :: rest =>
      match bounds? rest with
      | .ok (least, most, rest) => again (.times r least most) rest
      | .error f =>
        if rules.allowsBraces && !isOrdered rest then .ok (r, s) else .error f
    | _ => .ok (r, s)
where
  /-- There are counts in the braces, though they make no sense. -/
  isOrdered (rest : List Marked) : Bool :=
    let inside := rest.takeWhile (· != ('}', false))
    inside.length < rest.length && inside.any (·.1.isDigit) &&
      inside.all fun m => m.1.isDigit || m.1 == ','

def escaped (c : Char) : Regex :=
  match c with
  | 'w' => .set false [.named "word"]
  | 'W' => .set true [.named "word"]
  | 's' => .set false [.named "space"]
  | 'S' => .set true [.named "space"]
  | 'b' => .wordEdge true
  | 'B' => .wordEdge false
  | '<' => .wordStart
  | '>' => .wordEnd
  | '\x60' => .lineStart
  | '\'' => .lineEnd
  | _ => if c.isDigit && c != '0' then .same (c.toNat - 48) else .char c

def isAnchor : Regex → Bool
  | .lineStart => true
  | .lineEnd => true
  | .wordEdge _ => true
  | .wordStart => true
  | .wordEnd => true
  | _ => false

def classNames : List String :=
  ["alpha", "digit", "alnum", "upper", "lower", "space", "blank", "punct", "print", "graph", "cntrl",
    "xdigit"]

/-- An element of a bracket that is named between signs, and the rest. -/
def symbol? (kind : Char) (s : List Marked) : Except Fault (SetItem × List Marked) :=
  let rec upTo : List Char → List Marked → Option (List Char × List Marked)
    | acc, (c, _) :: (d, p) :: rest =>
      if c == kind && d == ']' && !p then some (acc.reverse, rest)
      else upTo (c :: acc) ((d, p) :: rest)
    | _, _ => none
  match upTo [] s with
  | none => .error .openBracket
  | some (name, rest) =>
    if kind == ':' then
      let name := String.ofList name
      if classNames.contains name then .ok (.named name, rest) else .error .unknownClass
    else
      match name with
      | [c] => .ok (.range c c, rest)
      | _ => .error .unknownSign

/-- An element of a bracket: what it stands for, whether a range may begin with it, and the rest. -/
def element? (s : List Marked) : Except Fault (SetItem × Bool × List Marked) :=
  match s with
  | [] => .error .openBracket
  | (c, quoted) :: rest =>
    match rest with
    | (kind, false) :: inside =>
      if c == '[' && !quoted && ":.=".toList.contains kind then do
        let (item, rest) ← symbol? kind inside
        .ok (item, kind == '.', rest)
      else .ok (.range c c, true, rest)
    | _ => .ok (.range c c, true, rest)

/-- The items of a bracket up to where it is closed. -/
def items (rules : Rules) (isFirst : Bool) : Nat → List Marked → Except Fault (List SetItem × List Marked)
  | 0, _ => .error .openBracket
  | n + 1, s => do
    if s.head? == some (']', false) && !isFirst then .ok ([], s.drop 1)
    else if s.head? == some ('-', false) && !isFirst && (s[1]?).any (· != (']', false)) then
      .error .badRange
    else
      let (item, begins, rest) ← element? s
      let more (item : SetItem) (rest : List Marked) :
          Except Fault (List SetItem × List Marked) := do
        let (others, rest) ← items rules false n rest
        .ok (item :: others, rest)
      match begins, rest with
      | true, ('-', false) :: after =>
        if after.isEmpty then .error .openBracket
        else if after.head? == some (']', false) then more item rest
        else
          let (last, ends, rest) ← element? after
          match item, last, ends with
          | .range low _, .range high _, true =>
            if high < low && !rules.allowsEmpty then .error .badRange
            else more (.range low high) rest
          | _, _, _ => .error .badRange
      | _, _ => more item rest

def isColons (inside : List Marked) : Bool :=
  let name := inside.takeWhile (· != (']', false))
  name.head? == some (':', false) && name.length > 2 && name.getLast? == some (':', false)

/-- Reads alternatives up to a closing parenthesis that is theirs, or to the end. At the beginning
of an alternative, and after a place, there is nothing to repeat. -/
def alternatives (rules : Rules) (isNested : Bool) : Nat → Nat → List Nat → List (List Regex) →
    List Regex → Bool → List Marked → Except Fault Reading
  | 0, _, _, _, _, _, _ => .error .tooMany
  | n + 1, count, closed, done, acc, isStart, s =>
    let finish (rest : List Marked) : Except Fault Reading :=
      match done with
      | [] => .ok ⟨.sequence acc.reverse, count, closed, rest⟩
      | _ => .ok ⟨.choice ((acc.reverse :: done).reverse.map .sequence), count, closed, rest⟩
    let add (r : Regex) (count : Nat) (closed : List Nat) (rest : List Marked) :
        Except Fault Reading := do
      if isAnchor r then alternatives rules isNested n count closed done (r :: acc) true rest
      else
        let (r, rest) ← quantified rules (rest.length + 1) r rest
        alternatives rules isNested n count closed done (r :: acc) false rest
    match s with
    | [] => finish []
    | (c, quoted) :: rest =>
      if quoted then add (.char c) count closed rest
      else
        match c with
        | ')' =>
          if isNested then finish s
          else if rules.allowsClosing then add (.char c) count closed rest
          else .error .closedGroup
        | '|' => alternatives rules isNested n count closed (acc.reverse :: done) [] true rest
        | '(' => do
          let inner ← alternatives rules true n (count + 1) closed [] [] true rest
          match inner.rest with
          | (')', false) :: rest =>
            add (.group (count + 1) inner.expression) inner.count ((count + 1) :: inner.closed) rest
          | _ => .error .openGroup
        | '[' => do
          let (isNegated, inside) :=
            match rest with
            | ('^', false) :: inside => (true, inside)
            | _ => (false, rest)
          if inside.isEmpty then throw .nothingInside
          if rules.mindsColons && isColons inside then throw .outsideColons
          let (is, rest) ← items rules true (rest.length + 1) inside
          add (.set isNegated is) count closed rest
        | '.' => add .any count closed rest
        | '^' => add .lineStart count closed rest
        | '$' => add .lineEnd count closed rest
        | '\\' =>
          match rest with
          | (x, _) :: rest =>
            match escaped x with
            | .same k =>
              if closed.contains k then add (.same k) count closed rest else .error .noSuchGroup
            | r => add r count closed rest
          | [] => .error .loneBackslash
        | _ =>
          if isStart && "*+?\x7b".toList.contains c then
            match rules.leading, c with
            | .fault, _ => .error .nothingRepeated
            | .ignored, '{' => add (.char c) count closed rest
            | .ignored, _ => alternatives rules isNested n count closed done acc true rest
            | .literal, '{' =>
              if rules.repeatsAgain then add (.char c) count closed rest
              else .error .nothingRepeated
            | .literal, _ => add (.char c) count closed rest
          else add (.char c) count closed rest

end Reader

/-- Reads an expression, and counts its groups. Quoted characters stand for themselves. -/
def read (rules : Rules) (s : List Marked) : Except Fault (Regex × Nat) := do
  let r ← Reader.alternatives rules false (s.length + 2) 0 [] [] [] true s
  .ok (r.expression, r.count)

/-- The inside of a bracket with what closes it, and what follows. -/
def bracket (s : List Char) : List Char × List Char :=
  let front := s.takeWhile (· == '^')
  let rest := s.drop front.length
  let first := rest.takeWhile (· == ']')
  let rest := rest.drop first.length
  let body := rest.takeWhile (· != ']')
  (s.take (front.length + first.length + body.length + 1),
    s.drop (front.length + first.length + body.length + 1))

theorem length_bracket_le (s : List Char) : (bracket s).2.length ≤ s.length := by
  simp [bracket]

/-- A basic expression as an extended one: there, what is special without a backslash here needs
one, and the other way round. -/
def ofBasic (isFirst : Bool) : List Char → List Marked
  | [] => []
  | '\\' :: c :: cs =>
    if c == '(' || c == '|' then (c, false) :: ofBasic true cs
    else if ")\x7b\x7d+?".toList.contains c then (c, false) :: ofBasic false cs
    else if "wWsSbB<>\x60'".toList.contains c || (c.isDigit && c != '0') then
      ('\\', false) :: (c, false) :: ofBasic false cs
    else if c == 'n' then ('\n', true) :: ofBasic false cs
    else (c, true) :: ofBasic false cs
  | '[' :: cs =>
    let inside := bracket cs
    ('[', false) :: inside.1.map (·, false) ++ ofBasic false inside.2
  | '*' :: cs => ('*', isFirst) :: ofBasic false cs
  | '^' :: cs => ('^', !isFirst) :: ofBasic isFirst cs
  | '$' :: cs =>
    let next := String.ofList (cs.take 2)
    let isLast := cs.isEmpty || next = "\\)" || next = "\\|"
    ('$', !isLast) :: ofBasic false cs
  | c :: cs =>
    if "()|+?\x7b\x7d".toList.contains c then (c, true) :: ofBasic false cs
    else (c, false) :: ofBasic false cs
termination_by s => s.length
decreasing_by
  all_goals simp only [List.length_cons]
  all_goals first
    | omega
    | exact Nat.lt_succ_of_le (Nat.le_succ_of_le (length_bracket_le _))
    | exact Nat.lt_succ_of_le (length_bracket_le _)

def find? (r : Regex) (k : Comparison) (text : List Char) : Option Match :=
  search ⟨text, k⟩ r none text

end Regex

end GatedPipeline.Shell
