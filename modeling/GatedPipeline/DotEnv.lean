import GatedPipeline.Environment
import GatedPipeline.Text.Alphanumeric
import GatedPipeline.Text.Blank
import GatedPipeline.Text.Affix

namespace GatedPipeline.DotEnv

inductive Nesting where
  | outside
  | afterBlank
  | escape
  | strong
  | strongEscape
  | weak
  | weakEscape
deriving DecidableEq, Repr

/-- One character further; none where a comment begins. -/
def Nesting.next (n : Nesting) (c : Char) : Option Nesting :=
  let opened : Option Nesting :=
    if c == '\\' then some .escape
    else if c == '"' then some .weak
    else if c == '\'' then some .strong
    else none
  match n with
  | .outside =>
    some (opened.getD (if Text.isBlank c && c != '\n' && c != '\r' then .afterBlank else .outside))
  | .afterBlank => if c == '#' then none else some (opened.getD .outside)
  | .escape => some .outside
  | .weak => some (if c == '\\' then .weakEscape else if c == '"' then .outside else .weak)
  | .weakEscape => some .weak
  | .strong => some (if c == '\\' then .strongEscape else if c == '\'' then .outside else .strong)
  | .strongEscape => some .strong

/-- The part of a line before a comment, and the nesting behind it; a comment ends all nesting. -/
def scan : Nesting → List Char → List Char × Nesting
  | n, [] => ([], n)
  | n, c :: cs =>
    match n.next c with
    | none => ([], .outside)
    | some m =>
      let r := scan m cs
      (c :: r.1, r.2)

def rawLines (content : String) : List (List Char) :=
  let ls := (content.toList.splitOn '\n')
  let complete := ls.dropLast.map (· ++ ['\n'])
  match ls.getLast? with
  | some [] => complete
  | some l => complete ++ [l]
  | none => complete

def withoutLineEnd (s : List Char) : List Char :=
  match s.reverse with
  | '\n' :: '\r' :: r => r.reverse
  | '\n' :: r => r.reverse
  | _ => s

/-- Lines put together where quotes span them; the last one is none if a quote is never closed. -/
def logicalLines : List Char → Nesting → List (List Char) → List (Option (List Char))
  | _, n, [] => if n = .outside then [] else [none]
  | before, n, l :: ls =>
    if ((before ++ l).dropWhile Text.isBlank).head? == some '#' then logicalLines [] .outside ls
    else
      match scan n l with
      | (kept, .outside) => some (withoutLineEnd (before ++ kept)) :: logicalLines [] .outside ls
      | (kept, m) => logicalLines (before ++ kept) m ls

inductive Reference where
  | none
  | bare (name : List Char)
  | braced (name : List Char)

structure Value where
  strong : Bool
  weak : Bool
  escaped : Bool
  ended : Bool
  reference : Reference
  text : List Char

def Value.start : Value := ⟨false, false, false, false, .none, []⟩

/-- The state of a value after one more character; none where the character must not stand. -/
def Value.add (lookup : String → String) (v : Value) (c : Char) : Option Value :=
  let put (c : Char) : Value := { v with text := v.text ++ [c] }
  let found (name : List Char) : List Char := (lookup (String.ofList name)).toList
  if v.ended then if c == ' ' || c == '\t' then some v else none
  else if v.escaped then
    if "\\'\"$ ".toList.contains c then some { put c with escaped := false }
    else if c == 'n' then some { put '\n' with escaped := false }
    else none
  else if v.strong then
    if c == '\'' then some { v with strong := false } else some (put c)
  else
    match v.reference with
    | .bare name =>
      if Text.isAlphanumeric c then some { v with reference := .bare (name ++ [c]) }
      else if c == '\x7b' && name.isEmpty then some { v with reference := .braced [] }
      else
        let w := { v with text := v.text ++ found name }
        if c == '$' then some { w with reference := .bare [] }
        else some { w with reference := .none, text := w.text ++ [c] }
    | .braced name =>
      if c == '\x7d' then some { v with reference := .none, text := v.text ++ found name }
      else some { v with reference := .braced (name ++ [c]) }
    | .none =>
      if c == '$' then some { v with reference := .bare [] }
      else if v.weak then
        if c == '"' then some { v with weak := false }
        else if c == '\\' then some { v with escaped := true }
        else some (put c)
      else if c == '\'' then some { v with strong := true }
      else if c == '"' then some { v with weak := true }
      else if c == '\\' then some { v with escaped := true }
      else if c == ' ' || c == '\t' then some { v with ended := true }
      else some (put c)

/-- The value that a text stands for. A comment may follow it behind a blank. -/
def value? (lookup : String → String) : Value → List Char → Option String
  | v, [] =>
    match v.reference with
    | .braced _ => none
    | .bare name =>
      if v.strong || v.weak then none
      else some (String.ofList v.text ++ lookup (String.ofList name))
    | .none => if v.strong || v.weak then none else some (String.ofList v.text)
  | v, c :: cs =>
    if v.ended && c == '#' then value? lookup v []
    else (v.add lookup c).bind fun v => value? lookup v cs

def isKeyStart (c : Char) : Bool := c.isAlpha || c == '_'

def isKeyChar (c : Char) : Bool := c.isAlphanum || c == '_' || c == '.'

def key? (s : List Char) : Option (String × List Char) :=
  if s.head?.any isKeyStart then
    some (String.ofList (s.takeWhile isKeyChar), Text.trimStart (s.dropWhile isKeyChar))
  else none

/-- An assignment, perhaps behind the word `export`. A blank line and a comment assign nothing, and
a line that is none of these is an error. -/
def assignment? (lookup : String → String) (line : List Char) : Option (Option (String × String)) :=
  let s := Text.trimmed line
  if s.isEmpty || s.head? == some '#' then some none
  else do
    let (key, rest) ← key? s
    let (key, rest) ←
      match key, rest with
      | _, '=' :: rest => some (key, rest)
      | "export", rest =>
        (key? rest).bind fun
          | (key, '=' :: rest) => some (key, rest)
          | _ => none
      | _, _ => none
    let rest := Text.trimStart rest
    if rest.isEmpty || rest.head? == some '#' then some (some (key, ""))
    else (value? lookup .start rest).map fun v => some (key, v)

/-- Sets the variables of the lines one after another, up to the first line that is an error. A
variable that is set already stays as it is, and its value goes before what the file says. -/
def apply : Environment → Bindings String → List (Option (List Char)) → Environment
  | e, _, [] => e
  | e, _, none :: _ => e
  | e, known, some line :: rest =>
    let lookup (name : String) : String := ((e.value? name).or (known.get? name)).getD ""
    match assignment? lookup line with
    | none => e
    | some none => apply e known rest
    | some (some (key, value)) =>
      apply (if (e.value? key).isSome then e else e.insert key value) (known.insert key value) rest

def withoutMark (content : String) : String :=
  match content.toList with
  | c :: cs => if c.toNat == 0xFEFF then String.ofList cs else content
  | [] => content

def load (e : Environment) (content : String) : Environment :=
  apply e [] (logicalLines [] .outside (rawLines (withoutMark content)))

end GatedPipeline.DotEnv
