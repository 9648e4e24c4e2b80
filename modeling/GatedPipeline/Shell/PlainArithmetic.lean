import GatedPipeline.Shell.Arithmetic

namespace GatedPipeline.Shell

/-- The whole number that a text begins with, in one of the usual bases, and what follows it. None
if no digit is there. -/
def leadingInteger? (s : List Char) : Option (Int × List Char) :=
  let s := s.dropWhile isSpace
  let (isNegative, s) :=
    match s with
    | '-' :: cs => (true, cs)
    | '+' :: cs => (false, cs)
    | _ => (false, s)
  let digits (base : Nat) (s : List Char) : List Char :=
    s.takeWhile fun c => (Text.hexValue? c).any (· < base)
  let (base, s) :=
    match s with
    | '0' :: x :: cs =>
      if (x == 'x' || x == 'X') && !(digits 16 cs).isEmpty then (16, cs)
      else (8, s)
    | '0' :: _ => (8, s)
    | _ => (10, s)
  let ds := digits base s
  if ds.isEmpty then none
  else
    let n : Int := (ds.foldl (fun n c => n * base + (Text.hexValue? c).getD 0) 0 : Nat)
    some (if isNegative then -n else n, s.drop ds.length)

def clamped (n : Int) : Int := max (-(Int.pow 2 63)) (min (Int.pow 2 63 - 1) n)

/-- The whole number that a text begins with, as far as 64 bits go. -/
def leadingNumber? (s : List Char) : Option (Int × List Char) :=
  (leadingInteger? s).map fun r => (clamped r.1, r.2)

namespace PlainArithmetic

open Arithmetic (Lexeme calculate? truth)

/-- How far an expression has been read. A muted part is read without being evaluated. -/
structure Reading where
  text : String
  rest : List Char
  lexeme : Lexeme
  name : String
  value : Int
  isMuted : Bool

abbrev Calc := StateT Reading Act

def fault (why : String) : Calc α := do
  let r ← get
  liftM (m := Act) (Act.abandon ("arithmetic expression: " ++ why ++ ": \"" ++ r.text ++ "\""))

def operators : List String :=
  ["<<=", ">>=", "&&", "||", "<<", ">>", "<=", ">=", "==", "!=", "*=", "/=", "%=", "+=", "-=", "&=",
    "^=", "|=", "=", "<", ">", "+", "-", "*", "/", "%", "!", "~", "&", "|", "^", "(", ")", "?", ":"]

def updates : List String := ["<<=", ">>=", "*=", "/=", "%=", "+=", "-=", "&=", "^=", "|="]

def next : Calc Unit := do
  let r ← get
  let s := r.rest.dropWhile fun c => isBlank c || c == '\n'
  match s with
  | [] => set { r with rest := [], lexeme := .finish }
  | c :: _ =>
    if c.isDigit then
      match leadingNumber? s with
      | some (n, rest) => set { r with rest := rest, lexeme := .number, value := n }
      | none => set { r with rest := s, lexeme := .op "" }
    else if startsName c then
      let name := s.takeWhile inName
      set { r with
        rest := s.drop name.length, lexeme := .name, name := String.ofList name }
    else
      match operators.find? fun o => o.toList.isPrefixOf s with
      | some o =>
        let lexeme :=
          if updates.contains o then .update (String.ofList o.toList.dropLast) else .op o
        set { r with rest := s.drop o.length, lexeme := lexeme }
      | none => set { r with rest := s, lexeme := .op "" }

def isOp (o : String) : Calc Bool := do return (← get).lexeme == .op o

def lookup (name : String) : Calc Int := do
  if (← get).isMuted then return 0
  let text := ((← liftM (m := Act) (Assigning.value? name)).bind Value.plain?).getD ""
  if text.isEmpty then return 0
  match leadingNumber? text.toList with
  | some (n, rest) =>
    if rest.all isSpace then return n
    else liftM (m := Act) (Act.abandon ("Illegal number: " ++ text))
  | none => liftM (m := Act) (Act.abandon ("Illegal number: " ++ text))

def store (name : String) (value : Int) : Calc Unit := do
  if !(← get).isMuted then
    let _ ← liftM (m := Act) (Assigning.setPlain name (toString value))

def muted (isMuted : Bool) (c : Calc α) : Calc α := do
  let before := (← get).isMuted
  modify fun r => { r with isMuted := before || isMuted }
  let x ← c
  modify fun r => { r with isMuted := before }
  return x

def applied (o : String) (a b : Int) : Calc Int := do
  match calculate? o a b with
  | some v => return v
  | none => if (← get).isMuted then return 0 else fault "division by zero"

def ranks : List (List String) :=
  [["||"], ["&&"], ["|"], ["^"], ["&"], ["==", "!="], ["<", ">", "<=", ">="], ["<<", ">>"],
    ["+", "-"], ["*", "/", "%"]]

mutual

def assignment : Nat → Calc Int
  | 0 => fault "expecting primary"
  | n + 1 => do
    let r ← get
    match r.lexeme with
    | .name =>
      next
      match (← get).lexeme with
      | .op "=" =>
        next
        let v ← assignment n
        store r.name v
        return v
      | .update o =>
        next
        let b ← assignment n
        let v ← applied o (← lookup r.name) b
        store r.name v
        return v
      | _ =>
        set r
        choice n
    | _ => choice n

def choice : Nat → Calc Int
  | 0 => fault "expecting primary"
  | n + 1 => do
    let test ← binary n 0
    if ← isOp "?" then
      next
      let yes ← muted (test == 0) (assignment n)
      if !(← isOp ":") then fault "expecting ':'"
      next
      let no ← muted (test != 0) (choice n)
      return if test != 0 then yes else no
    else return test

def binary : Nat → Nat → Calc Int
  | 0, _ => fault "expecting primary"
  | n + 1, rank => do
    match ranks[rank]? with
    | none => unary n
    | some _ => binaryRest n rank (← binary n (rank + 1))

def binaryRest : Nat → Nat → Int → Calc Int
  | 0, _, _ => fault "expecting primary"
  | n + 1, rank, a => do
    match (← get).lexeme with
    | .op o =>
      if ((ranks[rank]?).getD []).contains o then
        next
        let b ← muted ((o == "||" && a != 0) || (o == "&&" && a == 0)) (binary n (rank + 1))
        let result ←
          if o == "||" then pure (truth (a != 0 || b != 0))
          else if o == "&&" then pure (truth (a != 0 && b != 0))
          else applied o a b
        binaryRest n rank result
      else return a
    | _ => return a

def unary : Nat → Calc Int
  | 0 => fault "expecting primary"
  | n + 1 => do
    let r ← get
    let operand : Calc Int := do
      next
      unary n
    match r.lexeme with
    | .op "(" =>
      next
      let v ← assignment n
      if !(← isOp ")") then fault "expecting ')'"
      next
      return v
    | .op "+" => operand
    | .op "-" => return wrapped (-(← operand))
    | .op "!" => return truth ((← operand) == 0)
    | .op "~" => return -(← operand) - 1
    | .number =>
      next
      return r.value
    | .name =>
      next
      lookup r.name
    | _ => fault "expecting primary"

end

def evaluate (text : String) : Act Int :=
  let whole : Calc Int := do
    next
    let v ← assignment (30 * (text.length + 2))
    if (← get).lexeme != .finish then fault "expecting EOF"
    return v
  Prod.fst <$> whole.run ⟨text, text.toList, .finish, "", 0, false⟩

end PlainArithmetic

def evaluateArithmetic (caller text : String) : Act Int := do
  if (← get).isStrict then PlainArithmetic.evaluate text
  else Arithmetic.evaluate 1023 caller text

end GatedPipeline.Shell
