import GatedPipeline.Condition.Lexer

namespace GatedPipeline.Condition

/-- The meaning of a name that stands alone. -/
def identValue? (name : String) : Option Expr :=
  if name = "true" then some (.truth true)
  else if name = "false" then some (.truth false)
  else if name = "ref" ∨ name = "github.ref" then some (.field .gitRef)
  else if name = "ref_name" ∨ name = "github.ref_name" then some (.field .refName)
  else if name = "event" ∨ name = "github.event_name" then some (.field .event)
  else none

def Function.ofName? (name : String) : Option Function :=
  if name = "startsWith" then some .startsWith
  else if name = "endsWith" then some .endsWith
  else if name = "contains" then some .contains
  else none

def expect (t : Token) : List Token → Except Error (List Token)
  | [] => .error (.unexpectedToken (.token t) none)
  | u :: rest => if u = t then .ok rest else .error (.unexpectedToken (.token t) (some u))

def makeCall (f : Function) : List Expr → Except Error Expr
  | [subject, part] => .ok (.call f subject part)
  | args => .error (.arity f args.length)

mutual

/-- Each parser gives the expression and the tokens behind it. The first number bounds the calls
and is never used up when it starts above eight times the number of tokens. -/
def parseOr : Nat → List Token → Except Error (Expr × List Token)
  | 0, ts => .error (.unexpectedToken .aValue ts.head?)
  | n + 1, ts => do
    let (l, rest) ← parseAnd n ts
    parseOrMore n l rest

def parseOrMore : Nat → Expr → List Token → Except Error (Expr × List Token)
  | n + 1, l, .or :: ts => do
    let (r, rest) ← parseAnd n ts
    parseOrMore n (.or l r) rest
  | _, l, ts => .ok (l, ts)

def parseAnd : Nat → List Token → Except Error (Expr × List Token)
  | 0, ts => .error (.unexpectedToken .aValue ts.head?)
  | n + 1, ts => do
    let (l, rest) ← parseUnary n ts
    parseAndMore n l rest

def parseAndMore : Nat → Expr → List Token → Except Error (Expr × List Token)
  | n + 1, l, .and :: ts => do
    let (r, rest) ← parseUnary n ts
    parseAndMore n (.and l r) rest
  | _, l, ts => .ok (l, ts)

def parseUnary : Nat → List Token → Except Error (Expr × List Token)
  | 0, ts => .error (.unexpectedToken .aValue ts.head?)
  | n + 1, .not :: ts => do
    let (e, rest) ← parseUnary n ts
    .ok (.not e, rest)
  | n + 1, ts => parseComparison n ts

def parseComparison : Nat → List Token → Except Error (Expr × List Token)
  | 0, ts => .error (.unexpectedToken .aValue ts.head?)
  | n + 1, ts => do
    let (l, rest) ← parsePrimary n ts
    match rest with
    | .eq :: more => do
      let (r, rest) ← parsePrimary n more
      .ok (.eq l r, rest)
    | .ne :: more => do
      let (r, rest) ← parsePrimary n more
      .ok (.ne l r, rest)
    | _ => .ok (l, rest)

def parsePrimary : Nat → List Token → Except Error (Expr × List Token)
  | 0, ts => .error (.unexpectedToken .aValue ts.head?)
  | _, [] => .error (.unexpectedToken .aValue none)
  | _, .text s :: rest => .ok (.text s, rest)
  | n + 1, .leftParen :: ts => do
    let (e, rest) ← parseOr n ts
    let rest ← expect .rightParen rest
    .ok (e, rest)
  | n + 1, .ident name :: .leftParen :: ts =>
    match Function.ofName? name with
    | none => .error (.unknownFunction name)
    | some f => do
      let (args, rest) ←
        match ts with
        | .rightParen :: rest => .ok ([], rest)
        | _ => parseArgs n ts
      let e ← makeCall f args
      .ok (e, rest)
  | _, .ident name :: rest =>
    match identValue? name with
    | some e => .ok (e, rest)
    | none => .error (.unknownIdentifier name)
  | _, t :: _ => .error (.unexpectedToken .aValue (some t))

def parseArgs : Nat → List Token → Except Error (List Expr × List Token)
  | 0, ts => .error (.unexpectedToken .aValue ts.head?)
  | n + 1, ts => do
    let (e, rest) ← parseOr n ts
    match rest with
    | .comma :: more => do
      let (es, rest) ← parseArgs n more
      .ok (e :: es, rest)
    | _ => do
      let rest ← expect .rightParen rest
      .ok ([e], rest)

end

def parseTokens (ts : List Token) : Except Error Expr :=
  if ts.isEmpty then .error .empty
  else do
    let (e, rest) ← parseOr (8 * ts.length + 8) ts
    match rest with
    | [] => .ok e
    | t :: _ => .error (.unexpectedToken .theEnd (some t))

end GatedPipeline.Condition
