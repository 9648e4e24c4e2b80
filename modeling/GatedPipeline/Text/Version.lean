namespace GatedPipeline.Text.Version

def isLetter (c : Char) : Bool := ('a' ≤ c && c ≤ 'z') || ('A' ≤ c && c ≤ 'Z')

/-- Where the first character of a text comes; an end comes before all but a tilde. -/
def rank : List Char → Int
  | [] => -1
  | c :: _ =>
    if c.isDigit then 0
    else if isLetter c then c.toNat
    else if c == '~' then -2
    else c.toNat + 256

def startsOther (s : List Char) : Bool := (s.head?).any (!·.isDigit)

/-- Compares texts up to the next digits in both of them. -/
def compareOther : Nat → List Char → List Char → Except Ordering (List Char × List Char)
  | 0, a, b => .ok (a, b)
  | n + 1, a, b =>
    if !startsOther a && !startsOther b then .ok (a, b)
    else if rank a < rank b then .error .lt
    else if rank b < rank a then .error .gt
    else compareOther n (a.drop 1) (b.drop 1)

def compareParts : Nat → List Char → List Char → Ordering
  | 0, _, _ => .eq
  | n + 1, a, b =>
    if a.isEmpty && b.isEmpty then .eq
    else
      match compareOther (a.length + b.length + 1) a b with
      | .error o => o
      | .ok (a, b) =>
        let a := a.dropWhile (· == '0')
        let b := b.dropWhile (· == '0')
        let m := a.takeWhile Char.isDigit
        let k := b.takeWhile Char.isDigit
        (compareOfLessAndEq m.length k.length).then
          ((compareOfLessAndEq (String.ofList m) (String.ofList k)).then
            (compareParts n (a.drop m.length) (b.drop k.length)))

/-- How long a text is without the endings that begin with a point and a letter. -/
def stemLength (s : List Char) : Nat :=
  let isEnding (e : List Char) : Bool :=
    match e with
    | c :: cs => (isLetter c || c == '~') && cs.all fun x => isLetter x || x.isDigit || x == '~'
    | [] => false
  let rec endings : List Char → List Char → Bool
    | part, '.' :: cs => isEnding part.reverse && endings [] cs
    | part, c :: cs => endings (c :: part) cs
    | part, [] => isEnding part.reverse
  let isTail (t : List Char) : Bool :=
    match t with
    | [] => true
    | '.' :: cs => endings [] cs
    | _ => false
  (((List.range s.length).map (· + 1)).find? fun n => isTail (s.drop n)).getD s.length

/-- Names that begin with a point come first, and those of directories before the others. -/
def hidden : List Char → Nat
  | [] => 0
  | ['.'] => 1
  | ['.', '.'] => 2
  | '.' :: _ => 3
  | _ => 4

/-- Runs of digits count as numbers, a tilde comes before everything, and endings of file names come
last. -/
def compare (a b : String) : Ordering :=
  let a := a.toList
  let b := b.toList
  (compareOfLessAndEq (hidden a) (hidden b)).then
    (if hidden a < 3 then .eq
    else
      let x := a.take (stemLength a)
      let y := b.take (stemLength b)
      let n := a.length + b.length + 1
      (compareParts n x y).then
        (if x.length == a.length && y.length == b.length then .eq else compareParts n a b))

end GatedPipeline.Text.Version
