import GatedPipeline.Shell.Charset
import GatedPipeline.Text.Affix

namespace GatedPipeline.Shell

/-- A character and whether it is quoted; quoted ones stand for themselves in patterns. -/
abbrev Marked := Char × Bool

inductive SetItem where
  | range (low high : Char)
  | named (name : String)
deriving DecidableEq, Repr

/-- What can be said in patterns: groups, and that a bracket excludes characters, by a caret. -/
structure Glob.Grammar where
  hasGroups : Bool
  caretNegates : Bool
deriving DecidableEq, Repr

/-- How often the alternatives of a group are taken; `never` matches what none of them matches. -/
inductive Repeat where
  | once
  | optional
  | anyTimes
  | atLeastOnce
  | never
deriving DecidableEq, Repr

inductive Glob where
  | char (c : Char)
  | single
  | several
  | set (isNegated : Bool) (items : List SetItem)
  | group (times : Repeat) (alternatives : List (List Glob))
deriving Repr, Inhabited

structure Comparison where
  ignoresCase : Bool
  charset : Charset
deriving DecidableEq, Repr

namespace Comparison

def exact : Comparison := ⟨false, .bytes⟩

def isSame (k : Comparison) (a b : Char) : Bool :=
  a == b || (k.ignoresCase && k.charset.toLower a == k.charset.toLower b)

end Comparison

def SetItem.contains (k : Charset) (c : Char) : SetItem → Bool
  | .range low high => low ≤ c && c ≤ high
  | .named name => k.inClass name c

namespace Glob

/-- All endings of a text, from the text itself to the empty one. -/
def suffixes : List Char → List (List Char)
  | [] => [[]]
  | c :: cs => (c :: cs) :: suffixes cs

/-- Of equally long rests one is kept. -/
def distinct (rests : List (List Char)) : List (List Char) :=
  (rests.foldl (fun (acc : List (Nat × List Char)) r =>
    let n := r.length
    if acc.any (·.1 == n) then acc else (n, r) :: acc) []).reverse.map (·.2)

/-- Takes a step again and again until nothing new is reached. -/
def closure (step : List Char → List (List Char)) :
    Nat → List (List Char) → List (List Char) → List (List Char)
  | 0, found, _ => found
  | _ + 1, found, [] => found
  | n + 1, found, edge =>
    let next := distinct ((edge.flatMap step).filter fun r => !found.any (·.length == r.length))
    closure step n (found ++ next) next

def inSet (k : Comparison) (items : List SetItem) (c : Char) : Bool :=
  items.any fun i => i.contains k.charset c ||
    (k.ignoresCase && (i.contains k.charset (k.charset.toLower c) ||
      i.contains k.charset (k.charset.toUpper c)))

mutual

def rests (k : Comparison) : Glob → List Char → List (List Char)
  | .char c, s =>
    match s with
    | x :: xs => if k.isSame c x then [xs] else []
    | [] => []
  | .single, s => if s.isEmpty then [] else [s.drop 1]
  | .several, s => suffixes s
  | .set isNegated items, s =>
    match s with
    | x :: xs => if inSet k items x != isNegated then [xs] else []
    | [] => []
  | .group times alternatives, s =>
    let once := restsAny k alternatives
    match times with
    | .once => distinct (once s)
    | .optional => distinct (s :: once s)
    | .anyTimes => closure once (s.length + 1) [s] [s]
    | .atLeastOnce =>
      let first := distinct (once s)
      closure once (s.length + 1) first first
    | .never =>
      let excluded := once s
      (suffixes s).filter fun r => !excluded.any (·.length == r.length)

def restsAll (k : Comparison) : List Glob → List Char → List (List Char)
  | [], s => [s]
  | p :: ps, s => distinct ((rests k p s).flatMap (restsAll k ps))

def restsAny (k : Comparison) : List (List Glob) → List Char → List (List Char)
  | [], _ => []
  | ps :: more, s => restsAll k ps s ++ restsAny k more s

end

/-- The beginning of a text that has no star in it is compared from the front, so that only what
follows is searched. -/
def matchesAll (k : Comparison) : List Glob → List Char → Bool
  | [], s => s.isEmpty
  | .char c :: ps, s =>
    match s with
    | x :: xs => k.isSame c x && matchesAll k ps xs
    | [] => false
  | .several :: [], _ => true
  | p :: ps, s => (rests k p s).any (matchesAll k ps)

/-- The item of a bracket that a name between colons, dots or equals signs stands for. -/
def named? : List Marked → Option (SetItem × List Marked)
  | (kind, false) :: rest =>
    let inside := rest.takeWhile fun m => m.1 != kind
    match rest.drop inside.length with
    | (_, _) :: (']', false) :: rest =>
      let name := String.ofList (inside.map (·.1))
      if kind == ':' then some (.named name, rest)
      else if kind == '.' || kind == '=' then
        match inside with
        | [m] => some (.range m.1 m.1, rest)
        | _ => none
      else none
    | _ => none
  | _ => none

/-- The items of a bracket up to where it is closed. -/
def items : Nat → Bool → List Marked → Option (List SetItem × List Marked)
  | 0, _, _ => none
  | _ + 1, _, [] => none
  | n + 1, isFirst, (c, quoted) :: rest =>
    let single (low : Char) (rest : List Marked) : Option (List SetItem × List Marked) :=
      match rest with
      | ('-', false) :: (high, q) :: more =>
        if high == ']' && !q then
          (items n false rest).map fun r => (.range low low :: r.1, r.2)
        else (items n false more).map fun r => (.range low high :: r.1, r.2)
      | _ => (items n false rest).map fun r => (.range low low :: r.1, r.2)
    if c == ']' && !quoted && !isFirst then some ([], rest)
    else if c == '[' && !quoted then
      match named? rest with
      | some (i, more) => (items n false more).map fun r => (i :: r.1, r.2)
      | none => single c rest
    else single c rest

/-- The alternatives of a group up to its closing parenthesis, each of them as it is written. -/
def alternatives : Nat → List Marked → List Marked → Option (List (List Marked) × List Marked)
  | _, _, [] => none
  | depth, acc, (c, quoted) :: rest =>
    if quoted then alternatives depth ((c, quoted) :: acc) rest
    else if c == ')' then
      match depth with
      | 0 => some ([acc.reverse], rest)
      | d + 1 => alternatives d ((c, quoted) :: acc) rest
    else if c == '|' && depth == 0 then
      (alternatives 0 [] rest).map fun r => (acc.reverse :: r.1, r.2)
    else alternatives (if c == '(' then depth + 1 else depth) ((c, quoted) :: acc) rest

def repeat? : Char → Option Repeat
  | '?' => some .optional
  | '*' => some .anyTimes
  | '+' => some .atLeastOnce
  | '@' => some .once
  | '!' => some .never
  | _ => none

def read (g : Grammar) : Nat → List Marked → List Glob
  | 0, _ => []
  | _ + 1, [] => []
  | n + 1, (c, quoted) :: rest =>
    let group : Option (List Glob) :=
      match rest with
      | ('(', false) :: inside =>
        if g.hasGroups && !quoted then
          match repeat? c, alternatives 0 [] inside with
          | some times, some (parts, rest) =>
            some (.group times (parts.map (read g n)) :: read g n rest)
          | _, _ => none
        else none
      | _ => none
    match group with
    | some ps => ps
    | none =>
      if quoted then .char c :: read g n rest
      else if c == '?' then .single :: read g n rest
      else if c == '*' then .several :: read g n (rest.dropWhile (· == ('*', false)))
      else if c == '[' then
        let (isNegated, inside) :=
          match rest with
          | ('!', false) :: inside => (true, inside)
          | ('^', false) :: inside => if g.caretNegates then (true, inside) else (false, rest)
          | _ => (false, rest)
        match items (rest.length + 1) true inside with
        | some (is, rest) => .set isNegated is :: read g n rest
        | none => .char c :: read g n rest
      else .char c :: read g n rest

/-- A backslash that comes from a value takes the meaning from the character after it. -/
def settled : List Marked → List Marked
  | ('\\', false) :: m :: rest => (m.1, true) :: settled rest
  | m :: rest => m :: settled rest
  | [] => []

def ofMarked (g : Grammar) (s : List Marked) : List Glob := read g (s.length + 1) (settled s)

end Glob

/-- A pattern of bytes, and the same one of characters where its bytes make up some. -/
structure Pattern where
  comparison : Comparison
  parts : List Glob
  wide : Option (List Glob)
deriving Repr

namespace Pattern

def ofMarked (k : Comparison) (g : Glob.Grammar) (m : List Marked) : Pattern :=
  let units := Charset.join (fun x => some x.1) (fun c x => (c, x.2)) m
  ⟨k, Glob.ofMarked g m,
    if k.charset == .bytes || units.any (Charset.isStray ·.1) then none
    else some (Glob.ofMarked g units)⟩

/-- A pattern as it is applied to a text: to its bytes where it is not made of characters. -/
structure Applied where
  comparison : Comparison
  parts : List Glob
  text : List Char

def apply (p : Pattern) (s : List Char) : Applied :=
  let bytes : Applied := ⟨{ p.comparison with charset := .bytes }, p.parts, s⟩
  match p.wide with
  | none => bytes
  | some parts =>
    let units := Charset.unicode.units s
    if units.any Charset.isStray then bytes else ⟨p.comparison, parts, units⟩

namespace Applied

def isMatch (a : Applied) (s : List Char) : Bool := Glob.matchesAll a.comparison a.parts s

def rests (a : Applied) (s : List Char) : List (List Char) :=
  (Glob.restsAll a.comparison a.parts s).mergeSort fun x y => y.length ≤ x.length

def written (a : Applied) (s : List Char) : List Char := a.comparison.charset.text s

/-- The text with the longest match from its first place on replaced, or all such matches. An
empty pattern matches nowhere. -/
def replace (a : Applied) (isEverywhere : Bool) (replacement : List Char → List Char) :
    Nat → List Char → List Char
  | 0, s => a.written s
  | n + 1, s =>
    match (a.rests s).getLast? with
    | some r =>
      if r.length < s.length then
        let found := a.written (s.take (s.length - r.length))
        replacement found ++
          (if isEverywhere then replace a isEverywhere replacement n r else a.written r)
      else
        match s with
        | c :: cs => a.written [c] ++ replace a isEverywhere replacement n cs
        | [] => []
    | none =>
      match s with
      | c :: cs => a.written [c] ++ replace a isEverywhere replacement n cs
      | [] => []

end Applied

def isMatch (p : Pattern) (s : List Char) : Bool :=
  let a := p.apply s
  a.isMatch a.text

/-- The text without the shortest, or the longest, beginning that matches; none if none does. -/
def withoutStart? (isLongest : Bool) (p : Pattern) (s : List Char) : Option (List Char) :=
  let a := p.apply s
  let rs := a.rests a.text
  (if isLongest then rs.getLast? else rs.head?).map a.written

/-- The text without the shortest, or the longest, end that matches; none if none does. -/
def withoutEnd? (isLongest : Bool) (p : Pattern) (s : List Char) : Option (List Char) :=
  let a := p.apply s
  let fitting := (Glob.suffixes a.text).filter a.isMatch
  (if isLongest then fitting.head? else fitting.getLast?).map fun t =>
    a.written (a.text.take (a.text.length - t.length))

/-- The text with what matches replaced; a text that is empty may match as a whole. -/
def replaced (p : Pattern) (isEverywhere : Bool) (replacement : List Char → List Char)
    (s : List Char) : List Char :=
  let a := p.apply s
  if s.isEmpty && !p.parts.isEmpty && a.isMatch [] then replacement []
  else a.replace isEverywhere replacement (s.length + 1) a.text

end Pattern

def isPattern (hasGroups : Bool) (s : List Marked) : Bool :=
  let s := Glob.settled s
  let cs := s.filter (!·.2)
  cs.any fun m => m.1 == '*' || m.1 == '?' ||
    (m.1 == '[' && s.any (·.1 == ']')) || (hasGroups && m.1 == '(' )

end GatedPipeline.Shell
