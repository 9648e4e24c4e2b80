import GatedPipeline.Shell.Lexer

namespace GatedPipeline.Shell.Braces

/-- What follows a text up to a closing character; characters after a backslash do not count. -/
def upTo (closing : Char) : List Char → List Char × List Char
  | [] => ([], [])
  | '\\' :: c :: cs =>
    let r := upTo closing cs
    ('\\' :: c :: r.1, r.2)
  | c :: cs =>
    if c == closing then ([c], cs)
    else
      let r := upTo closing cs
      (c :: r.1, r.2)

/-- What follows an opening character up to the one that closes it. -/
def balanced (opening closing : Char) : Nat → List Char → List Char × List Char
  | _, [] => ([], [])
  | depth, '\\' :: c :: cs =>
    let r := balanced opening closing depth cs
    ('\\' :: c :: r.1, r.2)
  | depth, c :: cs =>
    if c == closing && depth == 0 then ([c], cs)
    else
      let next := if c == opening then depth + 1 else if c == closing then depth - 1 else depth
      let r := balanced opening closing next cs
      (c :: r.1, r.2)

/-- Cuts a word into characters and into the parts that are quoted or expanded as a whole. -/
def atoms : Nat → List Char → List (List Char)
  | 0, _ => []
  | _ + 1, [] => []
  | n + 1, '\\' :: c :: cs => ['\\', c] :: atoms n cs
  | _ + 1, ['\\'] => [['\\', '\\']]
  | n + 1, '$' :: '{' :: cs =>
    let r := balanced '{' '}' 0 cs
    ('$' :: '{' :: r.1) :: atoms n r.2
  | n + 1, '$' :: '(' :: cs =>
    let r := balanced '(' ')' 0 cs
    ('$' :: '(' :: r.1) :: atoms n r.2
  | n + 1, '\'' :: cs =>
    let inside := cs.takeWhile (· != '\'')
    ('\'' :: inside ++ ['\'']) :: atoms n (cs.drop (inside.length + 1))
  | n + 1, c :: cs =>
    if c == '"' || c == '\x60' then
      let r := upTo c cs
      (c :: r.1) :: atoms n r.2
    else [c] :: atoms n cs

/-- A word in parts: single characters, and what is quoted. -/
abbrev Atoms := List (List Char)

/-- The inside of braces, cut at its commas, and what follows them. -/
def inside : Nat → List Atoms → Atoms → Atoms → Option (List Atoms × Atoms)
  | _, _, _, [] => none
  | depth, done, part, a :: rest =>
    if a == ['}'] then
      match depth with
      | 0 => some ((part.reverse :: done).reverse, rest)
      | d + 1 => inside d done (a :: part) rest
    else if a == ['{'] then inside (depth + 1) done (a :: part) rest
    else if a == [','] && depth == 0 then inside depth (part.reverse :: done) [] rest
    else inside depth done (a :: part) rest

def integer? (s : List Char) : Option Int :=
  match s with
  | '+' :: cs => if cs.head?.any Char.isDigit then (String.ofList cs).toInt? else none
  | _ => if s.all fun c => c.isDigit || c == '-' then (String.ofList s).toInt? else none

/-- The texts of numbers, which are as wide as is asked for. -/
def shown (width : Nat) (n : Int) : List Char :=
  let ds := (toString n.natAbs).toList
  let minus := if n < 0 then ['-'] else []
  minus ++ List.replicate (width - minus.length - ds.length) '0' ++ ds

def range (first last : Int) (step : Nat) : List Int :=
  let step := max step 1
  let count := (last - first).natAbs / step + 1
  (List.range count).map fun i =>
    if first ≤ last then first + (i * step : Nat) else first - (i * step : Nat)

def isPadded (s : List Char) : Bool :=
  match s with
  | '-' :: '0' :: _ :: _ => true
  | '0' :: _ :: _ => true
  | _ => false

/-- The texts for two numbers, or two letters, with two dots between them and perhaps a step. -/
def sequence? (s : List Char) : Option (List (List Char)) :=
  let parts := (String.ofList s).splitOn ".."
  let make (a b : String) (step : Option String) : Option (List (List Char)) :=
    let stepSize :=
      match step with
      | some t => (integer? t.toList).map Int.natAbs
      | none => some 1
    match stepSize, integer? a.toList, integer? b.toList with
    | some k, some m, some n =>
      let width := if isPadded a.toList || isPadded b.toList then max a.length b.length else 0
      some ((range m n k).map (shown width))
    | some k, _, _ =>
      match a.toList, b.toList with
      | [x], [y] =>
        if x.isAlpha && y.isAlpha then
          some ((range x.toNat y.toNat k).map fun n => [Char.ofNat n.toNat])
        else none
      | _, _ => none
    | none, _, _ => none
  match parts with
  | [a, b] => make a b none
  | [a, b, step] => make a b (some step)
  | _ => none

def expandAtoms : Nat → Atoms → Atoms → List Atoms
  | 0, front, rest => [front.reverse ++ rest]
  | _ + 1, front, [] => [front.reverse]
  | n + 1, front, a :: rest =>
    if a == ['{'] then
      match inside 0 [] [] rest with
      | none => expandAtoms n (a :: front) rest
      | some (parts, after) =>
        let all (alternatives : List Atoms) : List Atoms :=
          let ends := expandAtoms n [] after
          alternatives.flatMap fun x => ends.map fun y => front.reverse ++ x ++ y
        match parts with
        | [part] =>
          match sequence? part.flatten with
          | some texts => all (texts.map fun t => t.map fun c => [c])
          | none => expandAtoms n (a :: front) rest
        | _ => all (parts.flatMap (expandAtoms n []))
    else expandAtoms n (a :: front) rest

/-- The text of a word. A backslash that is the last item of a range quotes nothing. -/
def whole (as : Atoms) : Word :=
  String.ofList (if as.getLast? == some ['\\'] then as.dropLast.flatten ++ ['\'', '\'']
    else as.flatten)

def expand (w : Word) : List Word :=
  let cs := w.toList
  if cs.contains '{' then
    let as := atoms (cs.length + 1) cs
    (expandAtoms (as.length + 1) [] as).map whole
  else [w]

end GatedPipeline.Shell.Braces
