import GatedPipeline.Shell.Lexer
import GatedPipeline.Shell.Assigning

namespace GatedPipeline.Shell

/-- A number in 64 bits with a sign. -/
def wrapped (n : Int) : Int := Int.bmod n (Nat.pow 2 64)

namespace Arithmetic

inductive Lexeme where
  | finish
  | number
  | name
  | op (text : String)
  | update (operator : String)
deriving DecidableEq, Repr

structure Reading where
  text : List Char
  rest : List Char
  place : List Char
  lexeme : Lexeme
  previous : Lexeme
  name : String
  subscript : Option String
  value : Int
  /-- Nothing is changed where the result does not count. -/
  isMuted : Bool
  caller : String
deriving Repr

/-- Evaluating while reading: an expression is evaluated as far as it has been read. -/
abbrev Calc := StateT Reading Act

def fault (why : String) : Calc α := do
  let r ← get
  let text := String.ofList (r.text.dropWhile isBlank)
  liftM (m := Act) (Act.fault (r.caller ++ text ++ ": " ++ why ++ " (error token is \"" ++
    String.ofList r.place ++ "\")") 1)
  throw .discarding

def digit? (base : Nat) (c : Char) : Option Nat :=
  let value :=
    if c.isDigit then some (c.toNat - 48)
    else if c.isLower then some (c.toNat - 87)
    else if c.isUpper then some (if base ≤ 36 then c.toNat - 55 else c.toNat - 29)
    else if c == '@' then some 62
    else if c == '_' then some 63
    else none
  value.bind fun v => if v < base then some v else none

/-- The number that digits stand for, with what is wrong if they do not stand for one. -/
def number (ds : List Char) : Except String Int :=
  let inBase (base : Nat) (ds : List Char) : Except String Int :=
    ds.foldl (fun r c =>
      match r with
      | .error e => .error e
      | .ok n =>
        match digit? base c with
        | some d => .ok (wrapped (n * base + d))
        | none =>
          if c == '#' then .error "invalid number" else .error "value too great for base") (.ok 0)
  match ds with
  | '0' :: 'x' :: rest => inBase 16 rest
  | '0' :: 'X' :: rest => inBase 16 rest
  | '0' :: rest => if rest.contains '#' then .error "invalid number" else inBase 8 rest
  | _ =>
    let front := ds.takeWhile (· != '#')
    match ds.drop front.length with
    | [] => inBase 10 ds
    | _ :: rest =>
      match inBase 10 front with
      | .error e => .error e
      | .ok base =>
        if base < 2 || base > 64 then .error "invalid arithmetic base"
        else if rest.isEmpty then .error "invalid integer constant"
        else inBase base.toNat rest

def singles : List Char := "=<>+-*/%!()&|^~?:,".toList

/-- What evaluates a whole text: the value of a variable, or a subscript. -/
abbrev Inner := String → String → Act Int

section

variable (inner : Inner)

/-- The value of a variable or of an element of one, which is evaluated in turn. -/
def valueOf (name : String) (subscript : Option String) : Calc Int := do
  let r ← get
  if r.isMuted then return 0
  let v ← liftM (m := Act) (do
    let value ← Assigning.element? (inner r.caller) name subscript
    if value.isNone && (← get).hasOption "nounset" then Assigning.unbound name
    return value)
  match v with
  | none => return 0
  | some t => if t.isEmpty then return 0 else liftM (m := Act) (inner r.caller t)

def assign (name : String) (subscript : Option String) (value : Int) : Calc Unit := do
  let r ← get
  if !r.isMuted then
    liftM (m := Act)
      (Assigning.assignElement (inner r.caller) name subscript false (toString value))

/-- Reads the next lexeme. After a name it looks at the one after that. -/
def advance : Nat → Calc Unit
  | 0 => return ()
  | n + 1 => do
    let r ← get
    let s := r.rest.dropWhile isSpace
    let become (lexeme : Lexeme) (rest : List Char) : Calc Unit :=
      modify fun r => { r with rest := rest, previous := r.lexeme, lexeme := lexeme }
    match s with
    | [] => set { r with rest := [], previous := r.lexeme, lexeme := .finish }
    | c :: cs =>
      set { r with rest := s, place := s }
      if startsName c then
        let name := s.takeWhile inName
        let rest := s.drop name.length
        let (subscript, rest) ← do
          match rest with
          | '[' :: inside =>
            match Assignment.subscript? 0 inside with
            | some (t, rest) => pure (some (String.ofList t), rest)
            | none => fault "bad array subscript"
          | _ => pure (none, rest)
        let before ← get
        set { before with rest := rest, lexeme := .name, isMuted := true }
        advance n
        let ahead := (← get).lexeme
        let isStep := before.previous == .op "++x" || before.previous == .op "--x" ||
          before.lexeme == .op "++x" || before.lexeme == .op "--x"
        set { before with rest := rest }
        let value ← if isStep || ahead != .op "=" then valueOf inner (String.ofList name) subscript
          else pure 0
        modify fun r => { r with
          rest := rest, name := String.ofList name, subscript := subscript, value := value
          previous := r.lexeme, lexeme := .name }
      else if c.isDigit then
        let ds := s.takeWhile fun x => x.isAlphanum || x == '#' || x == '@' || x == '_'
        match number ds with
        | .ok v =>
          modify fun r => { r with value := v }
          become .number (s.drop ds.length)
        | .error e =>
          /- Nothing is shown of what comes after the number. -/
          modify fun r => { r with
            text := r.text.take (r.text.length - s.length + ds.length), place := ds }
          fault e
      else
        let two := String.ofList (s.take 2)
        let isStep := two = "++" || two = "--"
        if String.ofList (s.take 3) = "<<=" || String.ofList (s.take 3) = ">>=" then
          become (.update two) (s.drop 3)
        else if ["==", "!=", ">=", "<=", "<<", ">>", "&&", "||", "**"].contains two then
          become (.op two) (s.drop 2)
        else if isStep && r.lexeme == .name then
          become (.op (if c == '+' then "x++" else "x--")) (s.drop 2)
        else if isStep && r.lexeme == .number &&
            (r.previous == .op "++x" || r.previous == .op "--x") then
          fault (two ++ ": assignment requires lvalue")
        else if isStep && ((s.drop 2).dropWhile isSpace).head?.any startsName then
          become (.op (two ++ "x")) (s.drop 2)
        else if cs.head? == some '=' && "*/%+-&^|".toList.contains c then
          become (.update (String.singleton c)) (s.drop 2)
        else if singles.contains c then become (.op (String.singleton c)) cs
        else
          match r.lexeme with
          | .number => fault "syntax error: invalid arithmetic operator"
          | .name => fault "syntax error: invalid arithmetic operator"
          | _ => fault "syntax error: operand expected"

def next : Calc Unit := do advance inner ((← get).rest.length + 1)

def isOp (o : String) : Calc Bool := do return (← get).lexeme == .op o

def ranks : List (List String) :=
  [["||"], ["&&"], ["|"], ["^"], ["&"], ["==", "!="], ["<", ">", "<=", ">="], ["<<", ">>"],
    ["+", "-"], ["*", "/", "%"]]

def truth (b : Bool) : Int := if b then 1 else 0

/-- The bits of a number without a sign. -/
def bits (n : Int) : Nat := (n % Int.pow 2 64).toNat

/-- A quotient or a remainder by zero is none. -/
def calculate? (operator : String) (a b : Int) : Option Int :=
  let shift : Nat := bits b % 64
  match operator with
  | "|" => some (wrapped (bits a ||| bits b : Nat))
  | "^" => some (wrapped (bits a ^^^ bits b : Nat))
  | "&" => some (wrapped (bits a &&& bits b : Nat))
  | "==" => some (truth (a == b))
  | "!=" => some (truth (a != b))
  | "<" => some (truth (a < b))
  | ">" => some (truth (b < a))
  | "<=" => some (truth (a ≤ b))
  | ">=" => some (truth (b ≤ a))
  | "<<" => some (wrapped (a * Int.pow 2 shift))
  | ">>" => some (a.fdiv (Int.pow 2 shift))
  | "+" => some (wrapped (a + b))
  | "-" => some (wrapped (a - b))
  | "*" => some (wrapped (a * b))
  | "/" => if b = 0 then none else some (wrapped (a.tdiv b))
  | "%" => if b = 0 then none else some (wrapped (a.tmod b))
  | _ => some b

/-- What is evaluated for its faults only changes nothing. -/
def muted (isMuted : Bool) (c : Calc α) : Calc α := do
  let before := (← get).isMuted
  modify fun r => { r with isMuted := before || isMuted }
  let x ← c
  modify fun r => { r with isMuted := before }
  return x

def power (base : Int) : Nat → Int
  | 0 => 1
  | n + 1 =>
    let half := power base ((n + 1) / 2)
    let square := wrapped (half * half)
    if (n + 1) % 2 = 0 then square else wrapped (square * base)
termination_by n => n
decreasing_by omega

mutual

def comma : Nat → Calc Int
  | 0 => fault "expression recursion level exceeded"
  | n + 1 => do
    let v ← assignment n
    if ← isOp "," then
      next inner
      comma n
    else return v

def assignment : Nat → Calc Int
  | 0 => fault "expression recursion level exceeded"
  | n + 1 => do
    let value ← choice n
    let r ← get
    let updated (operator : Option String) : Calc Int := do
      if r.previous != .name then fault "attempted assignment to non-variable"
      next inner
      let right ← assignment n
      let result ← do
        match operator with
        | none => pure right
        | some o =>
          match calculate? o value right with
          | some v => pure v
          | none => if r.isMuted then pure 1 else fault "division by 0"
      assign inner r.name r.subscript result
      return result
    match r.lexeme with
    | .op "=" => updated none
    | .update o => updated (some o)
    | _ => return value

def choice : Nat → Calc Int
  | 0 => fault "expression recursion level exceeded"
  | n + 1 => do
    let test ← binary n 0
    if ← isOp "?" then
      let yes ← muted (test == 0) do
        next inner
        if (← isOp ":") || (← get).lexeme == .finish then fault "expression expected"
        comma n
      if !(← isOp ":") then fault "\x60:' expected for conditional expression"
      let no ← muted (test != 0) do
        next inner
        if (← get).lexeme == .finish then fault "expression expected"
        choice n
      modify fun r => { r with previous := .op "?:" }
      return if test != 0 then yes else no
    else return test

def binary : Nat → Nat → Calc Int
  | 0, _ => fault "expression recursion level exceeded"
  | n + 1, rank => do
    match ranks[rank]? with
    | none => raised n
    | some _ =>
      let a ← binary n (rank + 1)
      binaryRest n rank a

def binaryRest : Nat → Nat → Int → Calc Int
  | 0, _, _ => fault "expression recursion level exceeded"
  | n + 1, rank, a => do
    match (← get).lexeme with
    | .op o =>
      if ((ranks[rank]?).getD []).contains o then
        let place := (← get).rest.dropWhile isBlank
        let b ← muted ((o == "||" && a != 0) || (o == "&&" && a == 0)) do
          next inner
          binary n (rank + 1)
        let result ← do
          if o == "||" then pure (truth (a != 0 || b != 0))
          else if o == "&&" then pure (truth (a != 0 && b != 0))
          else
            match calculate? o a b with
            | some v => pure v
            | none =>
              if (← get).isMuted then pure (if o == "/" then a else 0)
              else
                modify fun r => { r with place := place }
                fault "division by 0"
        modify fun r => { r with previous := .number }
        binaryRest n rank result
      else return a
    | _ => return a

def raised : Nat → Calc Int
  | 0 => fault "expression recursion level exceeded"
  | n + 1 => do
    let base ← unary n
    if ← isOp "**" then
      next inner
      let exponent ← raised n
      modify fun r => { r with previous := .number }
      if exponent < 0 then fault "exponent less than 0"
      return power base exponent.toNat
    else return base

def unary : Nat → Calc Int
  | 0 => fault "expression recursion level exceeded"
  | n + 1 => do
    let r ← get
    let operand : Calc Int := do
      next inner
      let v ← unary n
      modify fun r => { r with previous := .number }
      return v
    /- A step before or after a variable. -/
    let step (isFirst : Bool) (by' : Int) : Calc Int := do
      let r ← get
      let value := wrapped (r.value + by')
      assign inner r.name r.subscript value
      modify fun r => { r with lexeme := .number }
      next inner
      return if isFirst then value else r.value
    match r.lexeme with
    | .op "!" => return truth ((← operand) == 0)
    | .op "~" => return -(← operand) - 1
    | .op "-" => return wrapped (-(← operand))
    | .op "+" => operand
    | .op "++x" =>
      next inner
      step true 1
    | .op "--x" =>
      next inner
      step true (-1)
    | .op "(" =>
      next inner
      let v ← comma n
      if !(← isOp ")") then fault "missing \x60)'"
      next inner
      return v
    | .number =>
      next inner
      return r.value
    | .name =>
      next inner
      match (← get).lexeme with
      | .op "x++" =>
        modify fun now => { r with rest := now.rest, place := now.place, lexeme := .name }
        step false 1
      | .op "x--" =>
        modify fun now => { r with rest := now.rest, place := now.place, lexeme := .name }
        step false (-1)
      | _ =>
        modify fun now => { now with name := r.name, subscript := r.subscript }
        return r.value
    | _ => fault "syntax error: operand expected"

end

end

/-- Evaluates an expression; variables are evaluated to the given depth. -/
def evaluate (depth : Nat) (caller text : String) : Act Int :=
  let s := text.toList
  if s.all isSpace then return 0
  else
    let start : Reading := ⟨s, s, s, .finish, .finish, "", none, 0, false, caller⟩
    match depth with
    | 0 =>
      Prod.fst <$> (do
        modify fun r => { r with place := s }
        fault "expression recursion level exceeded" : Calc Int).run start
    | depth + 1 =>
      let whole : Calc Int := do
        next (evaluate depth)
        let v ← comma (evaluate depth) (30 * (s.length + 2))
        if (← get).lexeme != .finish then fault "syntax error in expression"
        return v
      Prod.fst <$> whole.run start

end Arithmetic

end GatedPipeline.Shell
