import GatedPipeline.Shell.Format
import GatedPipeline.Shell.Program.Basic

namespace GatedPipeline.Shell.Program

namespace Sequence

/-- A number as an argument gives it: a ratio with a sign, or one without end. -/
structure Bound where
  isNegative : Bool
  isEndless : Bool
  numerator : Nat
  denominator : Nat
  /-- How many places it asks for; none where that cannot be told. -/
  places : Option Nat
  width : Int
deriving Repr

inductive Fault where
  | notNumber (argument : String)
  | noNumber (argument : String)
  | zeroStep (argument : String)
  | twoFormats
  | badFormat (format what : String)

def Fault.message (k : Charset) : Fault → String
  | .notNumber a =>
    "invalid " ++ Mention.argument k "not-a-number" ++ " argument: " ++ Mention.argument k a
  | .noNumber a => "invalid floating point argument: " ++ Mention.argument k a
  | .zeroStep a => "invalid Zero increment value: " ++ Mention.argument k a
  | .twoFormats => "format string may not be specified when printing equal width strings"
  | .badFormat f what => "format " ++ Mention.argument k f ++ " " ++ what

/-- Whether the fault is in how a program is called. -/
def Fault.isMisuse : Fault → Bool
  | .badFormat .. => false
  | _ => true

/-- How many places and characters a decimal number has, as it is written. -/
def measured (text : List Char) : Nat × Int :=
  let isMark (c : Char) : Bool := c == 'e' || c == 'E'
  let mantissa := text.takeWhile (!isMark ·)
  let whole := mantissa.takeWhile (· != '.')
  let places := (mantissa.drop (whole.length + 1)).length
  let hasPoint := mantissa.contains '.'
  let width : Int := mantissa.length
  let width :=
    if !hasPoint then width
    else if places = 0 then width - 1
    else if (whole.getLast?).any Char.isDigit then width
    else width + 1
  match text.dropWhile (!isMark ·) with
  | [] => (places, width)
  | _ :: power =>
    let power := if power.head? == some '+' then power.drop 1 else power
    let e := ((String.ofList power).toInt?).getD 0
    if e < 0 then
      let undone : Int := if !hasPoint || places = 0 then 1 else 0
      (places + e.natAbs, width + undone + e.natAbs)
    else (places - e.natAbs, width + e.natAbs)

def Bound.read (argument : String) : Except Fault Bound := do
  let text := (argument.toList.dropWhile isSpace)
  let text := if text.head? == some '+' then text.drop 1 else text
  let isNegative := text.head? == some '-'
  let size := if isNegative then text.drop 1 else text
  let lower := String.ofList (size.map Char.toLower)
  if lower = "inf" || lower = "infinity" then
    return ⟨isNegative, true, 0, 1, some 0, 0⟩
  if lower = "nan" then throw (.notNumber argument)
  match size with
  | '0' :: x :: digits =>
    if x == 'x' || x == 'X' then
      match Hexadecimal.read? digits with
      | some (n, d, []) =>
        let isWhole := !digits.contains '.' && !digits.contains 'p'
        return ⟨isNegative, false, n, d, if isWhole then some 0 else none, 0⟩
      | _ => throw (.noNumber argument)
  | _ => pure ()
  match Decimal.read? text with
  | some (_, n, d, []) =>
    let m := measured text
    return ⟨isNegative, false, n, d, some m.1, m.2⟩
  | _ => throw (.noNumber argument)

def Bound.parts (b : Bound) (count : Nat) : Int :=
  let size : Int := ((b.numerator * (count / b.denominator) : Nat) : Int)
  if b.isNegative then -size else size

structure Template where
  before : List Char
  directive : Format.Directive
  after : List Char
deriving Repr

def Template.read (format : String) : Except Fault Template := do
  let rec front : List Char → List Char → List Char × List Char
    | acc, '%' :: '%' :: cs => front ('%' :: acc) cs
    | acc, '%' :: cs => (acc.reverse, '%' :: cs)
    | acc, c :: cs => front (c :: acc) cs
    | acc, [] => (acc.reverse, [])
  let rec rest : List Char → Option (List Char)
    | '%' :: '%' :: cs => (rest cs).map ('%' :: ·)
    | '%' :: _ => none
    | c :: cs => (rest cs).map (c :: ·)
    | [] => some []
  let (before, after) := front [] format.toList
  match after with
  | [] => throw (.badFormat format "has no % directive")
  | _ :: cs =>
    let flags := cs.takeWhile "-+#0 '".toList.contains
    let cs := cs.drop flags.length
    let width := cs.takeWhile Char.isDigit
    let cs := cs.drop width.length
    let (precision, cs) : Option Nat × List Char :=
      match cs with
      | '.' :: cs =>
        let digits := String.ofList (cs.takeWhile Char.isDigit)
        (some ((digits.toNat?).getD 0), cs.dropWhile Char.isDigit)
      | _ => (none, cs)
    let cs := if cs.head? == some 'L' then cs.drop 1 else cs
    match cs with
    | [] => throw (.badFormat format "ends in %")
    | k :: cs =>
      if !"efgaEFGA".toList.contains k then
        throw (.badFormat format ("has unknown %" ++ String.singleton k ++ " directive"))
      let width := ((String.ofList width).toNat?).getD 0
      match rest cs with
      | some after => return ⟨before, ⟨flags, width, precision, k⟩, after⟩
      | none => throw (.badFormat format "has too many % directives")

structure Plan where
  first : Bound
  step : Bound
  last : Bound
  template : Template
deriving Repr

/-- How numbers are shown that say for themselves how exact they are. -/
def usual (first step last : Bound) (hasEqualWidths : Bool) : Template :=
  let places := first.places.bind fun a => step.places.map (max a)
  match places, last.places with
  | some p, some q =>
    if hasEqualWidths then
      let a := (first.places).getD 0
      let point (r : Nat) : Int := if r = 0 && p != 0 then 1 else 0
      let firstWidth : Int := first.width + ((p : Int) - a) + point a
      let undone : Int := if q != 0 && p = 0 then 1 else 0
      let lastWidth : Int := last.width + ((p : Int) - q) - undone + point q
      ⟨[], ⟨['0'], (max firstWidth lastWidth).toNat, some p, 'f'⟩, []⟩
    else ⟨[], ⟨[], 0, some p, 'f'⟩, []⟩
  | _, _ => ⟨[], ⟨[], 0, none, 'g'⟩, []⟩

def Plan.read (o : Builtin.Options) (numbers : List String) : Except Fault Plan := do
  let template ← (o.argument? 'f').mapM Template.read
  if template.isSome && o.has 'w' then throw .twoFormats
  let one : Bound := ⟨false, false, 1, 1, some 0, 1⟩
  let (first, step, last) ←
    match numbers with
    | [first, step, last] => do
      let first ← Bound.read first
      let s ← Bound.read step
      if s.numerator = 0 && !s.isEndless then throw (.zeroStep step)
      pure (first, s, ← Bound.read last)
    | [first, last] => do pure (← Bound.read first, one, ← Bound.read last)
    | _ => do pure (one, one, ← Bound.read (numbers.headD ""))
  return ⟨first, step, last, template.getD (usual first step last (o.has 'w'))⟩

namespace Plan

variable (p : Plan)

/-- Into how many parts a whole is cut, so that all numbers are made of such parts. -/
def parts : Nat := p.first.denominator * p.step.denominator * p.last.denominator

def increment : Int := p.step.parts p.parts

def value (i : Nat) : Int := p.first.parts p.parts + i * p.increment

/-- Whether a number lies behind the last one, which is not endless. -/
def isPast (n : Int) : Bool :=
  if p.step.isNegative then n < p.last.parts p.parts
  else p.last.parts p.parts < n

def number (i : Nat) : String :=
  let d := p.template.directive
  if p.first.isEndless then d.padded (if p.first.isNegative then "-inf" else "inf")
  else
    let n := p.value i
    d.real false (n < 0 || (i = 0 && p.first.isNegative)) n.natAbs p.parts

def shown (i : Nat) : String :=
  String.ofList p.template.before ++ p.number i ++ String.ofList p.template.after

/-- How many numbers there are; none if they never end. A number behind the last one counts if it
is shown as the last one, and the one before it is not. -/
def count : Option Nat :=
  let isBackwards := p.step.isNegative
  let endless : Option Nat :=
    if p.first.isEndless then
      if p.last.isEndless && p.first.isNegative == p.last.isNegative then none
      else if p.first.isNegative != isBackwards then none
      else some 0
    else if p.last.isNegative == isBackwards then none
    else some 0
  if p.first.isEndless || p.last.isEndless then
    if p.step.isEndless then some 1 else endless
  else if p.isPast (p.value 0) then some 0
  else if p.step.isEndless then some 1
  else
    let n := (p.last.parts p.parts - p.value 0).natAbs / p.increment.natAbs + 1
    let isLast :=
      match Bound.read (p.number n) with
      | .ok b => b.parts (b.denominator * p.last.denominator) ==
          p.last.parts (b.denominator * p.last.denominator)
      | .error _ => false
    some (if isLast && p.number n != p.number (n - 1) then n + 1 else n)

end Plan

/-- Cuts options off, up to the first number. -/
def options : List String → List String × List String
  | [] => ([], [])
  | a :: rest =>
    match a.toList with
    | '-' :: c :: _ =>
      if c.isDigit || c == '.' then ([], a :: rest)
      else if a = "--" then ([], rest)
      else if a = "-s" || a = "-f" || a = "--separator" || a = "--format" then
        match rest with
        | v :: rest =>
          let r := options rest
          (a :: v :: r.1, r.2)
        | [] => ([a], [])
      else
        let r := options rest
        (a :: r.1, r.2)
    | _ => ([], a :: rest)

end Sequence

/-- How many numbers are shown of those that never end. -/
def manyNumbers : Nat := 40000

def seq (args : List String) : Act Unit := do
  let (options, numbers) := Sequence.options args
  let words := [("separator", 's'), ("format", 'f'), ("equal-width", 'w')]
  withOptions ⟨"seq", "s:f:w", words, 1⟩ options fun o => do
    match numbers with
    | [] => refuse "seq" "missing operand" 1
    | _ :: _ :: _ :: extra :: _ => refuse "seq" ("extra operand " ++ (← shownArgument extra)) 1
    | _ =>
      match Sequence.Plan.read o numbers with
      | .error e =>
        let message := e.message (← get).programCharset
        if e.isMisuse then refuse "seq" message 1 else fail "seq" message 1
      | .ok plan =>
        let separator := (o.argument? 's').getD "\n"
        match plan.count with
        | some 0 => return ()
        | some n =>
          say (separator.intercalate ((List.range n).map plan.shown) ++ "\n")
        | none =>
          if ← Act.write 1 (String.join
              ((List.range manyNumbers).map fun i => plan.shown i ++ separator)) then
            throw (.killed 13)
          else fail "seq" "write error: Bad file descriptor" 1

end GatedPipeline.Shell.Program
