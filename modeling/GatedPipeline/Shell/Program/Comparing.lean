import GatedPipeline.Shell.Program.Basic

namespace GatedPipeline.Shell.Program

/-- How long the longest common part of two lists is, for the first list and each end of the second
one, the whole of it first. -/
def commonRow [BEq α] (x : α) (ys : List α) (below : List Nat) : List Nat :=
  let rec go : List α → List Nat → List Nat
    | y :: ys, m :: ms =>
      let rest := go ys ms
      let n := if x == y then ms.headD 0 + 1 else max m (rest.headD 0)
      n :: rest
    | _, _ => [0]
  go ys below

/-- The rows for a list and for each of its ends. -/
def commonRows [BEq α] (ys : List α) : List α → List (List Nat)
  | [] => [List.replicate (ys.length + 1) 0]
  | x :: xs =>
    let rows := commonRows ys xs
    commonRow x ys (rows.headD []) :: rows

/-- A place where lines differ: how many lines stand before it on both sides, the lines that are
left out, and those that come instead. -/
structure Change (α : Type) where
  before : Nat × Nat
  gone : List α
  added : List α
deriving Repr

/-- The changes from one list to another that leave the most as it is. -/
def changes [BEq α] (xs ys : List α) : List (Change α) :=
  let rec go : Nat → Nat × Nat → List α → List α → List (List Nat) → List (Change α)
    | 0, _, _, _, _ => []
    | _ + 1, _, [], [], _ => []
    | n + 1, (i, j), xs, ys, rows =>
      let drop (rows : List (List Nat)) : List (List Nat) := rows.map (·.drop 1)
      let gone (x : α) (rest : List α) : List (Change α) :=
        add (i, j) [x] [] (go n (i + 1, j) rest ys (rows.drop 1))
      let added (y : α) (rest : List α) : List (Change α) :=
        add (i, j) [] [y] (go n (i, j + 1) xs rest (drop rows))
      match xs, ys with
      | x :: xs', y :: ys' =>
        if x == y then go n (i + 1, j + 1) xs' ys' (drop (rows.drop 1))
        else
          let without := ((rows.drop 1).headD []).headD 0
          let with' := ((rows.headD []).drop 1).headD 0
          if with' ≤ without then gone x xs' else added y ys'
      | x :: xs', [] => gone x xs'
      | [], y :: ys' => added y ys'
      | [], [] => []
  go (xs.length + ys.length + 1) (0, 0) xs ys (commonRows ys xs)
where
  add (place : Nat × Nat) (gone added : List α) : List (Change α) → List (Change α)
    | c :: cs =>
      if c.before == (place.1 + gone.length, place.2 + added.length) then
        ⟨place, gone ++ c.gone, added ++ c.added⟩ :: cs
      else ⟨place, gone, added⟩ :: c :: cs
    | [] => [⟨place, gone, added⟩]

/-- The numbers of lines after a first part; where there are none, that of the line before. -/
def lineRange (before size : Nat) : String :=
  if size ≤ 1 then toString (before + size)
  else toString (before + 1) ++ "," ++ toString (before + size)

def Change.shown (c : Change String) : String :=
  let letter := if c.gone.isEmpty then "a" else if c.added.isEmpty then "d" else "c"
  let side (mark : String) (ls : List String) : String :=
    String.join (ls.map fun l =>
      mark ++ l ++ if l.endsWith "\n" then "" else "\n\\ No newline at end of file\n")
  lineRange c.before.1 c.gone.length ++ letter ++ lineRange c.before.2 c.added.length ++ "\n" ++
    side "< " c.gone ++ (if letter = "c" then "---\n" else "") ++ side "> " c.added

def wholeLines (t : String) : List String :=
  let parts := Text.splitAt '\n' t
  parts.dropLast.map (· ++ "\n") ++ (parts.getLast?.toList).filter (!·.isEmpty)

/-- The operands of a comparison, which must be two. -/
def twoOperands (name : String) (operands : List String) (act : String → String → Act Unit) :
    Act Unit := do
  match operands with
  | [a, b] => act a b
  | [] => wrong "missing operand after '" name
  | [a] => wrong "missing operand after '" a
  | _ :: _ :: c :: _ => wrong "extra operand '" c
where
  wrong (reason operand : String) : Act Unit := do
    fail name (reason ++ operand ++ "'") 2
    Act.put 2 (name ++ ": Try '" ++ name ++ " --help' for more information.\n")

def diff (args : List String) : Act Unit := do
  let words := [("brief", 'q'), ("report-identical-files", 's'), ("text", 'a')]
  withOptions ⟨"diff", "qsaN", words, 2⟩ args fun o =>
    twoOperands "diff" o.rest fun a b => do
      match ← readOperand a, ← readOperand b with
      | .error e, _ => fail "diff" (a ++ ": " ++ e) 2
      | _, .error e => fail "diff" (b ++ ": " ++ e) 2
      | .ok x, .ok y =>
        if x == y then
          if o.has 's' then say ("Files " ++ a ++ " and " ++ b ++ " are identical\n")
        else
          if o.has 'q' then say ("Files " ++ a ++ " and " ++ b ++ " differ\n")
          else say (String.join ((changes (wholeLines x) (wholeLines y)).map Change.shown))
          Act.setStatus 1

def cmp (args : List String) : Act Unit := do
  let words := [("silent", 's'), ("quiet", 's')]
  withOptions ⟨"cmp", "s", words, 2⟩ args fun o => do
    let operands := if o.rest.length == 1 then o.rest ++ ["-"] else o.rest
    twoOperands "cmp" operands fun a b => do
      match ← readOperand a, ← readOperand b with
      | .error e, _ => fail "cmp" (a ++ ": " ++ e) 2
      | _, .error e => fail "cmp" (b ++ ": " ++ e) 2
      | .ok x, .ok y =>
        let same := ((x.toList.zip y.toList).takeWhile fun p => p.1 == p.2).map (·.1)
        let line := same.count '\n' + 1
        if x != y then
          Act.setStatus 1
          if o.has 's' then return ()
          else if same.length < min x.length y.length then
            say (a ++ " " ++ b ++ " differ: char " ++ toString (same.length + 1) ++ ", line " ++
              toString line ++ "\n")
          else
            let ended := if x.length < y.length then a else b
            Act.put 2 ("cmp: EOF on " ++ ended ++
              if same.isEmpty then " which is empty\n"
              else " after byte " ++ toString same.length ++
                (if same.getLast? == some '\n' then ", line " ++ toString (line - 1)
                  else ", in line " ++ toString line) ++ "\n")

end GatedPipeline.Shell.Program
