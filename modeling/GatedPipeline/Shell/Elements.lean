import GatedPipeline.Shell.Tracing

namespace GatedPipeline.Shell

namespace Elements

/-- A word up to a blank that is not quoted. -/
def word (d : Dialect) : Nat → List Char → List Char → List Char × List Char
  | 0, acc, cs => (acc.reverse, cs)
  | _ + 1, acc, [] => (acc.reverse, [])
  | n + 1, acc, '\\' :: c :: cs => word d n (c :: '\\' :: acc) cs
  | n + 1, acc, c :: cs =>
    let skip (r : Option (List Char × List Char)) (closing : List Char) : List Char × List Char :=
      match r with
      | some (inside, rest) => word d n (closing ++ inside.reverse ++ c :: acc) rest
      | none => word d n (c :: acc) cs
    if isBlank c || c == '\n' then (acc.reverse, c :: cs)
    else if c == '\'' then skip (Expansion.enclosed? d .single cs) ['\'']
    else if c == '"' then skip (Expansion.enclosed? d .double cs) ['"']
    else if c == '\x60' then skip (Expansion.enclosed? d .back cs) ['\x60']
    else if c == '$' then skip (Expansion.dollarExtent? d false cs) []
    else if c == '(' then skip (Expansion.enclosed? d .round cs) [')']
    else word d n (c :: acc) cs

def words (d : Dialect) : Nat → List Char → List Word
  | 0, _ => []
  | n + 1, cs =>
    match cs.dropWhile fun c => isBlank c || c == '\n' with
    | [] => []
    | '#' :: cs => words d n (cs.dropWhile (· != '\n'))
    | '[' :: cs =>
      match Assignment.subscript? 0 cs with
      | some (inside, rest) =>
        let (w, rest) := word d (rest.length + 1) (']' :: inside.reverse ++ ['[']) rest
        String.ofList w :: words d n rest
      | none =>
        let (w, rest) := word d (cs.length + 1) ['['] cs
        String.ofList w :: words d n rest
    | cs =>
      let (w, rest) := word d (cs.length + 1) [] cs
      if w.isEmpty then words d n (rest.drop 1) else String.ofList w :: words d n rest

def subscripted? (w : Word) : Option (String × Bool × Word) :=
  match w.toList with
  | '[' :: cs =>
    match Assignment.subscript? 0 cs with
    | some (inside, '=' :: value) => some (String.ofList inside, false, String.ofList value)
    | some (inside, '+' :: '=' :: value) => some (String.ofList inside, true, String.ofList value)
    | _ => none
  | _ => none

def inside? (value : Word) : Option (List Char) :=
  match value.toList with
  | '(' :: cs => if cs.getLast? == some ')' then some cs.dropLast else none
  | _ => none

section

variable (substitute : Substitution → Act String)

def expanded (inside : List Char) : Act (List Element) := do
  let d := Expansion.dialect (← get)
  let elements ← (words d (inside.length + 1) inside).mapM fun w => do
    match subscripted? w with
    | some (k, appends, value) =>
      let key ← Expansion.text substitute k
      return [Element.mk (some key) appends (← Expansion.value substitute value)]
    | none => return (← Expansion.fields substitute [w]).map fun t => ⟨none, false, t⟩
  return elements.flatten

/-- Carries out an assignment; what cannot be assigned gives up the line. -/
def assign (w : Word) : Act Unit := do
  match Assignment.ofWord? w with
  | none => return ()
  | some a =>
    let s ← get
    let failed : Act Unit := do
      if s.hasOption "posix" then
        Act.setStatus s.givenUpStatus
        throw .leaving
      throw (if s.hasOption "errexit" then .leaving else .discarding)
    match inside? a.value, a.subscript with
    | some inside, none =>
      let elements ← expanded substitute inside
      Tracing.tell substitute (a.name ++ (if a.appends then "+=" else "=") ++ "(" ++
        String.ofList inside ++ ")")
      let number := evaluateArithmetic ""
      if !(← Assigning.assignElements? number a.name a.appends elements) then failed
    | some _, some k =>
      Act.fault (a.name ++ "[" ++ k ++ "]: cannot assign list to array member") 1
      failed
    | none, some "" =>
      Act.setStatus 1
      Act.report (a.name ++ "[]: bad array subscript")
      failed
    | none, k =>
      let value ← Expansion.value substitute a.value
      let key ← do
        match k with
        | some k => pure (some (← Expansion.text substitute k))
        | none => pure none
      let target := a.name ++ (k.map fun k => "[" ++ k ++ "]").getD ""
      Tracing.tell substitute (Tracing.assignment (← get).charset target a.appends value)
      if !(← Assigning.assign? (evaluateArithmetic "") a.name key a.appends value) then failed

/-- Carries out an assignment of a plain shell, and gives it back with the value. -/
def assignPlainly (w : Word) : Act String := do
  match Assignment.inDialect? true w with
  | none => return w
  | some a =>
    let value ← Expansion.value substitute a.value
    if !(← Assigning.assign? (evaluateArithmetic "") a.name none false value) then throw .leaving
    return a.name ++ "=" ++ value

end

end Elements

end GatedPipeline.Shell
