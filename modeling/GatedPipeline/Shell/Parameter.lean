import GatedPipeline.Shell.PlainArithmetic

namespace GatedPipeline.Shell

inductive Question where
  | value
  | length
  | indirect
  | names
deriving DecidableEq, Repr

structure Parameter where
  question : Question
  name : String
  subscript : Option String
  operator : String
  operand : List Char
deriving DecidableEq, Repr

namespace Parameter

def operators : List String :=
  [":-", ":=", ":?", ":+", "-", "=", "?", "+", ":", "##", "#", "%%", "%", "//", "/#", "/%", "/",
    "^^", "^", ",,", ",", "~~", "~", "@"]

def plainOperators : List String :=
  [":-", ":=", ":?", ":+", "-", "=", "?", "+", "##", "#", "%%", "%"]

/-- A name, and a subscript after it, at the beginning of a text. -/
def named? (isStrict : Bool) (s : List Char) : Option (String × Option String × List Char) :=
  match s with
  | [] => none
  | c :: cs =>
    if c.isDigit then
      let ds := s.takeWhile Char.isDigit
      some (String.ofList ds, none, s.drop ds.length)
    else if startsName c then
      let name := s.takeWhile inName
      match s.drop name.length with
      | '[' :: rest =>
        if isStrict then some (String.ofList name, none, '[' :: rest)
        else
          (Assignment.subscript? 0 rest).map fun r =>
            (String.ofList name, some (String.ofList r.1), r.2)
      | rest => some (String.ofList name, none, rest)
    else if isSpecial c then some (String.singleton c, none, cs)
    else none

def operated? (isStrict : Bool) (question : Question) (name : String) (subscript : Option String)
    (rest : List Char) : Option Parameter :=
  if rest.isEmpty then some ⟨question, name, subscript, "", []⟩
  else
    let all := if isStrict then plainOperators else operators
    match all.find? fun o => o.toList.isPrefixOf rest with
    | none => none
    | some o => some ⟨question, name, subscript, o, rest.drop o.length⟩

/-- Reads what stands in braces; none if it stands for nothing. -/
def read? (isStrict : Bool) (s : List Char) : Option Parameter :=
  let plain : Option Parameter :=
    match named? isStrict s with
    | some (name, k, rest) => if k = some "" then none else operated? isStrict .value name k rest
    | none => none
  match s with
  | '#' :: rest =>
    let length : Option Parameter :=
      match named? isStrict rest with
      | some (name, k, []) => some ⟨.length, name, k, "", []⟩
      | _ => none
    length.or plain
  | '!' :: rest =>
    if isStrict then plain
    else
      match named? false rest with
      | some (name, none, ['*']) => some ⟨.names, name, none, "*", []⟩
      | some (name, none, ['@']) => some ⟨.names, name, none, "@", []⟩
      | some (name, some "@", []) => some ⟨.names, name, some "@", "@", []⟩
      | some (name, some "*", []) => some ⟨.names, name, some "*", "*", []⟩
      | some (name, k, rest) =>
        if name.toList.all fun c => inName c || c == '#' || c == '@' || c == '*' then
          operated? false .indirect name k rest
        else plain
      | none => plain
  | _ => plain

end Parameter

/-- What a parameter stands for: a text, which may be missing, or many texts, which a star puts
together. -/
inductive Fetched where
  | one (value : Option String)
  | many (isStar : Bool) (items : List String)
deriving DecidableEq, Repr

namespace Fetched

def isMissing : Fetched → Bool
  | .one v => v.isNone
  | .many _ items => items.isEmpty

def isNull : Fetched → Bool
  | .one v => v.all String.isEmpty
  | .many _ items => items.all String.isEmpty && items.length < 2

def map (f : String → String) : Fetched → Fetched
  | .one v => .one (v.map f)
  | .many isStar items => .many isStar (items.map f)

end Fetched

namespace Act

def optionLetters (s : State) : String :=
  let letters := s.origin.toList ++ State.optionNames.filterMap fun o =>
    if o.2 != ' ' && s.hasOption o.1 then some o.2 else none
  let order := "aefhkmnptuvxBCEHPT".toList
  let shown := order.filter letters.contains
  String.ofList (if s.isStrict then
    ("pubaCEVvxsnmiIfe".toList).filter letters.contains
    else shown ++ s.origin.toList)

def fetch (name : String) (subscript : Option String) : Act Fetched := do
  let s ← get
  match name with
  | "@" => return .many false s.parameters
  | "*" => return .many true s.parameters
  | "?" => return .one (some (toString s.status))
  | "$" => return .one (some (toString s.shell))
  | "#" => return .one (some (toString s.parameters.length))
  | "-" => return .one (some (optionLetters s))
  | "!" => return .one (s.lastJob.map toString)
  | "0" => return .one (some s.name)
  | _ =>
    match name.toNat?, name = "_" && !s.isStrict with
    | some n, _ => return .one (s.parameters[n - 1]?)
    | none, true => return .one (some s.lastArgument)
    | none, false =>
      let target := Assigning.target s name
      match subscript.or target.2 with
      | some "@" => return .many false (((← Assigning.value? target.1).map Value.all).getD [])
      | some "*" => return .many true (((← Assigning.value? target.1).map Value.all).getD [])
      | k => return .one (← Assigning.element? (evaluateArithmetic "") target.1 k)

end Act

end GatedPipeline.Shell
