import GatedPipeline.Shell.Format
import GatedPipeline.Shell.Program.Basic

namespace GatedPipeline.Shell.Program

def duration? (s : String) : Option Nat :=
  if s = "infinity" || s = "inf" then some maxTime
  else
    match Decimal.read? s.toList with
    | some (isNegative, n, d, unit) =>
      let factor : Option Nat :=
        match unit with
        | [] => some 1000
        | ['s'] => some 1000
        | ['m'] => some 60000
        | ['h'] => some 3600000
        | ['d'] => some 86400000
        | _ => none
      if isNegative && n != 0 then none
      else factor.map fun f => (n * f + d - 1) / d
    | none => none

def sleep (args : List String) : Act Unit := do
  withOptions ⟨"sleep", "", [], 1⟩ args fun o => do
    if o.rest.isEmpty then refuse "sleep" "missing operand" 1
    else
      match o.rest.filter fun a => (duration? a).isNone with
      | [] => Act.sleepFor ((o.rest.filterMap duration?).foldr (· + ·) 0)
      | bad =>
        bad.forM fun a => do
          fail "sleep" ("invalid time interval " ++ (← shownArgument a)) 1
        Act.put 2 "Try 'sleep --help' for more information.\n"

/-- Writes the same line again and again, for as long as someone reads. -/
def yes (args : List String) : Act Unit := do
  let line := (if args.isEmpty then "y" else " ".intercalate args) ++ "\n"
  let many := String.join (List.replicate (8192 / line.length + 1) line)
  let rec go : Nat → Act Unit
    | 0 => throw (.killed 13)
    | n + 1 => do
      if ← Act.write 1 many then go n
      else fail "yes" "standard output: Bad file descriptor" 1
  go 20

namespace Expression

abbrev Result := Except String (String × List String)

def truth (b : Bool) : String := if b then "1" else "0"

def isNull (s : String) : Bool :=
  s.isEmpty || ((if s.startsWith "-" then s.toList.drop 1 else s.toList).all (· == '0') && s != "-")

def number (s : String) : Except String Int :=
  match s.toInt? with
  | some n => if s.startsWith "+" then .error "non-integer argument" else .ok n
  | none => .error "non-integer argument"

/-- What a basic expression matches at the beginning of a text: its first group, or its length. -/
def matched (text pattern : String) : Except String String :=
  let marked := Regex.ofBasic true pattern.toList
  let marked := if pattern.startsWith "^" then marked else ('^', false) :: marked
  match Regex.read .valueBasic marked with
  | .error f => .error f.message
  | .ok (r, count) =>
    match Regex.find? r .exact text.toList with
    | some m =>
      let texts := Regex.texts ⟨text.toList, .exact⟩ m count
      if count = 0 then .ok (toString ((texts.headD []).length))
      else .ok (String.ofList ((texts[1]?).getD []))
    | none => .ok (if count = 0 then "0" else "")

def applied (o a b : String) : Except String String := do
  let compare (test : Ordering → Bool) : Except String String :=
    match a.toInt?, b.toInt? with
    | some m, some n => .ok (truth (test (compareOfLessAndEq m n)))
    | _, _ => .ok (truth (test (compareOfLessAndEq a b)))
  match o with
  | "|" => return if !isNull a then a else if !isNull b then b else "0"
  | "&" => return if !isNull a && !isNull b then a else "0"
  | "<" => compare (· == .lt)
  | "<=" => compare (· != .gt)
  | "=" => compare (· == .eq)
  | "==" => compare (· == .eq)
  | "!=" => compare (· != .eq)
  | ">=" => compare (· != .lt)
  | ">" => compare (· == .gt)
  | ":" => matched a b
  | _ =>
    let m ← number a
    let n ← number b
    match o with
    | "+" => return toString (m + n)
    | "-" => return toString (m - n)
    | "*" => return toString (m * n)
    | "/" => if n == 0 then .error "division by zero" else return toString (Int.tdiv m n)
    | _ => if n == 0 then .error "division by zero" else return toString (Int.tmod m n)

def ranks : List (List String) :=
  [["|"], ["&"], ["<", "<=", "=", "==", "!=", ">=", ">"], ["+", "-"], ["*", "/", "%"], [":"]]

def missingAfter (previous : String) : Result :=
  .error ("syntax error: missing argument after '" ++ previous ++ "'")

mutual

def binary : Nat → Nat → String → List String → Result
  | 0, _, _, _ => .error "syntax error"
  | n + 1, rank, previous, args =>
    match ranks[rank]? with
    | none => primary n previous args
    | some operators => do
      let (a, rest) ← binary n (rank + 1) previous args
      more n rank operators a rest

def more : Nat → Nat → List String → String → List String → Result
  | 0, _, _, _, _ => .error "syntax error"
  | n + 1, rank, operators, a, rest =>
    match rest with
    | o :: rest' =>
      if operators.contains o then do
        let (b, rest) ← binary n (rank + 1) o rest'
        more n rank operators (← applied o a b) rest
      else .ok (a, rest)
    | [] => .ok (a, [])

def primary : Nat → String → List String → Result
  | 0, _, _ => .error "syntax error"
  | n + 1, previous, args =>
    match args with
    | [] => missingAfter previous
    | "(" :: rest => do
      let (a, rest) ← binary n 0 "(" rest
      match rest with
      | ")" :: rest => .ok (a, rest)
      | x :: _ => .error ("syntax error: expecting ')' instead of '" ++ x ++ "'")
      | [] => .error ("syntax error: expecting ')' after '" ++ a ++ "'")
    | ")" :: _ => .error "syntax error: unexpected ')'"
    | "length" :: rest => do
      let (a, rest) ← primary n "length" rest
      .ok (toString a.length, rest)
    | "match" :: rest => do
      let (a, rest) ← primary n "match" rest
      let (b, rest) ← primary n a rest
      .ok (← matched a b, rest)
    | "index" :: rest => do
      let (a, rest) ← primary n "index" rest
      let (b, rest) ← primary n a rest
      let i := (a.toList.findIdx? b.toList.contains).map (· + 1)
      .ok (toString (i.getD 0), rest)
    | "substr" :: rest => do
      let (a, rest) ← primary n "substr" rest
      let (b, rest) ← primary n a rest
      let (c, rest) ← primary n b rest
      match b.toInt?, c.toInt? with
      | some start, some count =>
        .ok (if start ≤ 0 || count ≤ 0 then ""
          else String.ofList ((a.toList.drop (start.toNat - 1)).take count.toNat), rest)
      | _, _ => .ok ("", rest)
    | "+" :: a :: rest => .ok (a, rest)
    | ["+"] => .error "syntax error: missing argument after '+'"
    | a :: rest => .ok (a, rest)

end

end Expression

def expr (args : List String) : Act Unit := do
  let args := Builtin.operands args
  if args.isEmpty then refuse "expr" "missing operand" 2
  else
    let k := (← get).programCharset
    let written (t : String) : String := String.ofList (k.text t.toList)
    let args := args.map fun a => String.ofList (k.units a.toList)
    match Expression.binary (20 * args.length + 20) 0 "" args with
    | .ok (v, []) =>
      say (written v ++ "\n")
      Act.setStatus (if Expression.isNull v then 1 else 0)
    | .ok (_, a :: _) =>
      fail "expr" ("syntax error: unexpected argument " ++ (← shownArgument (written a))) 2
    | .error e => fail "expr" (written e) 2

end GatedPipeline.Shell.Program
