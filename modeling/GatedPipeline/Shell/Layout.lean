import GatedPipeline.Shell.Syntax

namespace GatedPipeline.Shell.Layout

/-- The line that has been reached, and the lines of documents that are to come after it. -/
structure Place where
  line : Nat
  awaited : Nat
deriving Repr

abbrev Writing := StateM Place

def linesIn (t : String) : Nat := t.toList.count '\n'

def write (ts : List String) : Writing Unit :=
  modify fun p => { p with line := p.line + (ts.map linesIn).foldr (· + ·) 0 }

/-- A new line, before which come the documents. -/
def newline : Writing Unit :=
  modify fun p => ⟨p.line + 1 + (if p.awaited = 0 then 0 else p.awaited + 1), 0⟩

def redirections (documents : Array Document) (rs : List Redirection) : Writing Unit :=
  rs.forM fun r => do
    write [r.target]
    match r.kind with
    | .document n =>
      (documents[n]?).forM fun d =>
        modify fun p => { p with awaited := p.awaited + linesIn d.body + 1 }
    | _ => return ()

/-- The line that counts for a simple command which begins on a line. -/
def simpleLine (start : Nat) (assignments words : List Word) (rs : List Redirection) : Nat :=
  let first : List String :=
    match assignments, words, rs with
    | a :: _, _, _ => [a]
    | [], w :: v :: _, _ => [w, v]
    | [], [w], _ => [w]
    | [], [], r :: _ => [r.target]
    | [], [], [] => []
  start + (first.map linesIn).foldr (· + ·) 0

/-- The name in front of a simple command is read as its first word. -/
def written (name : Word) : Command → Command
  | .simple line assignments words rs => .simple line [] (name :: assignments ++ words) rs
  | c => c

mutual

/-- Writes a command; commands in functions have lines of their own. -/
def command (documents : Array Document) (inFunction : Bool) : Command → Writing Command
  | .simple _ assignments words rs => do
    let line := simpleLine (← get).line assignments words rs
    write (assignments ++ words)
    redirections documents rs
    return .simple line assignments words rs
  | .redirected _ c rs => do
    let line := (← get).line
    let c ← command documents inFunction c
    redirections documents rs
    return .redirected line c rs
  | .sequence cs => return .sequence (← all documents inFunction cs)
  | .background c => return .background (← command documents inFunction c)
  | .both a b => do
    let a ← command documents inFunction a
    return .both a (← command documents inFunction b)
  | .either a b => do
    let a ← command documents inFunction a
    return .either a (← command documents inFunction b)
  | .negated c => return .negated (← command documents inFunction c)
  | .timed isBrief c => return .timed isBrief (← command documents inFunction c)
  | .pipeline cs => return .pipeline (← stages documents inFunction cs)
  | .group c => do
    if inFunction then newline
    let c ← command documents inFunction c
    if inFunction then newline
    return .group c
  | .subshell _ c => do
    let c ← command documents inFunction c
    return .subshell (← get).line c
  | .arithmetic _ e => do
    write [e]
    return .arithmetic (← get).line e
  | .test _ t => return .test (← get).line t
  | .conditional test yes no => do
    let test ← command documents inFunction test
    newline
    let yes ← command documents inFunction yes
    newline
    match no with
    | none => return .conditional test yes none
    | some c =>
      newline
      let c ← command documents inFunction c
      newline
      return .conditional test yes (some c)
  | .loop isUntil test body => do
    let test ← command documents inFunction test
    return .loop isUntil test (← block documents inFunction body)
  | .each _ name words body => do
    let line := (← get).line
    write (words.getD [])
    newline
    return .each line name words (← block documents inFunction body)
  | .menu _ name words body => do
    let line := (← get).line
    write (words.getD [])
    newline
    return .menu line name words (← block documents inFunction body)
  | .count _ a b c body => do
    let line := (← get).line
    newline
    return .count line a b c (← block documents inFunction body)
  | .choice _ w bs => do
    write [w]
    let line := (← get).line
    let bs ← branches documents inFunction bs
    newline
    return .choice line w bs
  | .function _ name body => do
    let line := (← get).line
    newline
    match body with
    | .group c =>
      let c ← block documents true c
      return .function line name (.group c)
    | c => return .function line name (← block documents true c)
  | .coprocess _ name body => do
    let line := (← get).line
    let body ← command documents inFunction body
    return .coprocess line name (written name body)

/-- Writes the body of a compound command on lines of its own. -/
def block (documents : Array Document) (inFunction : Bool) (c : Command) : Writing Command := do
  newline
  let c ← command documents inFunction c
  newline
  return c

def all (documents : Array Document) (inFunction : Bool) :
    List (Command × Bool) → Writing (List (Command × Bool))
  | [] => return []
  | (c, endsLine) :: rest => do
    let c ← command documents inFunction c
    let isBackground :=
      match c with
      | .background _ => true
      | _ => false
    if !rest.isEmpty then
      if inFunction then newline
      if endsLine && !isBackground then newline
    return (c, endsLine) :: (← all documents inFunction rest)

def stages (documents : Array Document) (inFunction : Bool) :
    List Command → Writing (List Command)
  | [] => return []
  | c :: rest => do
    let c ← command documents inFunction c
    return c :: (← stages documents inFunction rest)

def branches (documents : Array Document) (inFunction : Bool) :
    List (List Word × Option Command × BranchEnd) →
    Writing (List (List Word × Option Command × BranchEnd))
  | [] => return []
  | (patterns, body, ending) :: rest => do
    newline
    write patterns
    newline
    let body ←
      match body with
      | none => pure none
      | some c => some <$> command documents inFunction c
    newline
    return (patterns, body, ending) :: (← branches documents inFunction rest)

end

/-- A command as it is written from a line on, and the line on which it ends. -/
def ofCommand (documents : Array Document) (line : Nat) (c : Command) : Command × Nat :=
  let (c, place) := (command documents false c).run ⟨line, 0⟩
  (c, (newline.run place).2.line - 1)

end GatedPipeline.Shell.Layout
