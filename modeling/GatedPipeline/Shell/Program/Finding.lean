import GatedPipeline.Shell.Program.FileTree

namespace GatedPipeline.Shell.Program

inductive Query where
  | always (holds : Bool)
  | named (isCaseless isWhole : Bool) (pattern : String)
  | kind (isDirectory : Bool)
  | empty
  | negated (q : Query)
  | both (a b : Query)
  | either (a b : Query)
  | after (a b : Query)
  | shown (mark : String)
  | run (isForAll : Bool) (words : List String)
  | deleted
  | pruned
  | quit
deriving Repr

namespace Query

def isActive : Query → Bool
  | .shown _ => true
  | .run .. => true
  | .deleted => true
  | .quit => false
  | .negated q => q.isActive
  | .both a b => a.isActive || b.isActive
  | .either a b => a.isActive || b.isActive
  | .after a b => a.isActive || b.isActive
  | _ => false

end Query

/-- How deep entries may be, and whether a directory comes after what it holds. -/
structure Reach where
  least : Nat
  most : Nat
  isUpward : Bool
deriving Repr

abbrev QueryReader := StateT (List String × Reach) (Except String)

namespace QueryReader

def next? : QueryReader (Option String) := do return (← get).1.head?

def advance : QueryReader Unit := modify fun s => (s.1.drop 1, s.2)

def argument (operator : String) : QueryReader String := do
  match ← next? with
  | some a =>
    advance
    return a
  | none => throw ("missing argument to \x60" ++ operator ++ "'")

/-- The words of a program, up to a semicolon, or to a plus sign behind the braces. -/
def programWords (operator : String) : Nat → List String → QueryReader Query
  | 0, _ => throw ("missing argument to \x60" ++ operator ++ "'")
  | n + 1, acc => do
    let a ← argument operator
    if a = ";" && !acc.isEmpty then return .run false acc.reverse
    else if a = "+" && acc.head? == some "\x7b\x7d" then return .run true acc.reverse
    else programWords operator n (a :: acc)

def depth (operator : String) : QueryReader Nat := do
  let a ← argument operator
  match a.toNat? with
  | some n => return n
  | none =>
    throw ("Expected a positive decimal integer argument to " ++ operator ++ ", but got '" ++ a ++ "'")

def primary (operator : String) : QueryReader Query := do
  let reached (change : Reach → Reach) : QueryReader Query := do
    modify fun s => (s.1, change s.2)
    return .always true
  match operator with
  | "-true" => return .always true
  | "-false" => return .always false
  | "-name" => return .named false false (← argument operator)
  | "-iname" => return .named true false (← argument operator)
  | "-path" => return .named false true (← argument operator)
  | "-wholename" => return .named false true (← argument operator)
  | "-ipath" => return .named true true (← argument operator)
  | "-type" => do
    let k ← argument operator
    let kinds := k.splitOn ","
    if kinds.all ["b", "c", "d", "f", "l", "p", "s"].contains then
      return .either (if kinds.contains "d" then .kind true else .always false)
        (if kinds.contains "f" then .kind false else .always false)
    else throw ("Unknown argument to -type: " ++ k)
  | "-empty" => return .empty
  | "-maxdepth" => do
    let n ← depth operator
    reached fun r => { r with most := n }
  | "-mindepth" => do
    let n ← depth operator
    reached fun r => { r with least := n }
  | "-depth" => reached fun r => { r with isUpward := true }
  | "-print" => return .shown "\n"
  | "-print0" => return .shown "\x00"
  | "-exec" => programWords operator ((← get).1.length + 1) []
  | "-delete" => do
    let _ ← reached fun r => { r with isUpward := true }
    return .deleted
  | "-prune" => return .pruned
  | "-quit" => return .quit
  | a =>
    if a.startsWith "-" then throw ("unknown predicate \x60" ++ a ++ "'")
    else throw ("paths must precede expression: \x60" ++ a ++ "'")

def isEither (a : String) : Bool := a = "-o" || a = "-or"

def isBoth (a : String) : Bool := a = "-a" || a = "-and"

def isNegation (a : String) : Bool := a = "!" || a = "-not"

/-- An expression; a comma, `-o` and `-a` bind ever closer. -/
def expression : Nat → QueryReader Query
  | 0 => throw "the expression is too deep"
  | n + 1 => do
    let rec unary : Nat → String → QueryReader Query
      | 0, _ => throw "the expression is too deep"
      | m + 1, before => do
        match ← next? with
        | none => throw ("expected an expression after '" ++ before ++ "'")
        | some a =>
          advance
          if isNegation a then return .negated (← unary m a)
          else if a = "(" then
            let q ← expression n
            if (← next?) == some ")" then
              advance
              return q
            else throw ("invalid expression; I was expecting to find a ')' somewhere but did not " ++
              "see one.")
          else if isEither a || isBoth a || a = "," then
            throw ("invalid expression; you have used a binary operator '" ++ a ++
              "' with nothing before it.")
          else if a = ")" then throw "you have too many ')'"
          else primary a
    let rec product : Nat → Query → QueryReader Query
      | 0, q => return q
      | m + 1, q => do
        match ← next? with
        | none => return q
        | some a =>
          if isBoth a then
            advance
            product m (.both q (← unary (m + 1) a))
          else if isEither a || a = "," || a = ")" then return q
          else product m (.both q (← unary (m + 1) a))
    let rec sum : Nat → Query → QueryReader Query
      | 0, q => return q
      | m + 1, q => do
        match ← next? with
        | some a =>
          if isEither a then
            advance
            let b ← product m (← unary (m + 1) a)
            sum m (.either q b)
          else if a = "," then
            advance
            let b ← product m (← unary (m + 1) a)
            let c ← sum m b
            return .after q c
          else return q
        | none => return q
    let count := (← get).1.length + 1
    sum count (← product count (← unary count "("))

end QueryReader

/-- Reads what is asked. Without an action of its own, paths are written. -/
def readQuery (args : List String) : Except String (Query × Reach) := do
  let reach : Reach := ⟨0, 1000, false⟩
  if args.isEmpty then return (.shown "\n", reach)
  else
    let (q, rest, reach) ← (QueryReader.expression (args.length + 1)).run (args, reach)
    if rest.isEmpty then return (if q.isActive then q else .both q (.shown "\n"), reach)
    else throw "you have too many ')'"

structure Search where
  isPruned : Bool
  isOver : Bool
  hasFailed : Bool
  gathered : List (List String × List String)
deriving Repr

def Search.fault (message : String) : StateT Search Act Bool := do
  fail "find" message 1
  modify fun s => { s with hasFailed := true }
  return false

/-- Runs a program that is to be found by the name in front of its arguments; tells whether it did
well. -/
abbrev Launch := List String → Act Bool

def Query.ask (launch : Launch) (path : String) : Query → StateT Search Act Bool
  | .always holds => return holds
  | .named isCaseless isWhole p => do
    let plain := if path.all (· == '/') then path else baseName path
    let name := if isWhole then path else plain
    return (Pattern.ofMarked ⟨isCaseless, .bytes⟩ ⟨false, true⟩ (p.toList.map (·, false))).isMatch name.toList
  | .kind isDirectory => do
    let s ← getThe State
    return (Testing.kind? s path == some .directory) == isDirectory
  | .empty => do
    let s ← getThe State
    match Testing.kind? s path with
    | some .directory => return (s.world.files.list (Path.resolve s.directory path)).isEmpty
    | some (.file size _) => return size == 0
    | _ => return false
  | .negated q => do return !(← q.ask launch path)
  | .both a b => do if ← a.ask launch path then b.ask launch path else return false
  | .either a b => do if ← a.ask launch path then return true else b.ask launch path
  | .after a b => do
    let _ ← a.ask launch path
    b.ask launch path
  | .shown mark => do
    say (path ++ mark)
    return true
  | .run false words => launch (words.map fun w => w.replace "\x7b\x7d" path)
  | .run true words => do
    modify fun s =>
      let others := s.gathered.filter (·.1 != words)
      { s with gathered := others ++ [(words, ((s.gathered.lookup words).getD []) ++ [path])] }
    return true
  | .deleted => do
    let s ← getThe State
    let full := Path.resolve s.directory path
    if path = "." then return true
    else if s.world.files.isDirectory full && !(s.world.files.list full).isEmpty then
      Search.fault ("cannot delete '" ++ path ++ "': Directory not empty")
    else
      setFiles (·.remove full)
      return true
  | .pruned => do
    modify fun s => { s with isPruned := true }
    return true
  | .quit => do
    modify fun s => { s with isOver := true }
    return true

def searchFrom (launch : Launch) (q : Query) (reach : Reach) :
    Nat → Nat → String → StateT Search Act Unit
  | 0, _, _ => return ()
  | n + 1, depth, path => do
    let here : StateT Search Act Unit := do
      if reach.least ≤ depth && !(← get).isOver then
        let _ ← q.ask launch path
    if !reach.isUpward then here
    let isPruned := (← get).isPruned
    modify fun s => { s with isPruned := false }
    let s ← getThe State
    if depth < reach.most && !isPruned && Testing.kind? s path == some .directory then
      (s.world.files.list (Path.resolve s.directory path)).forM fun name => do
        if !(← get).isOver then
          searchFrom launch q reach n (depth + 1)
            (path ++ (if path.endsWith "/" then "" else "/") ++ name)
    if reach.isUpward then here

def find (launch : Launch) (args : List String) : Act Unit := do
  let isPath (a : String) : Bool :=
    !a.startsWith "-" && a != "(" && a != ")" && a != "!" && a != ","
  let args := args.dropWhile fun a => ["-H", "-L", "-P"].contains a
  let paths := args.takeWhile isPath
  Act.setStatus 0
  match readQuery (args.drop paths.length) with
  | .error e => fail "find" e 1
  | .ok (q, reach) =>
    let start (path : String) : StateT Search Act Unit := do
      match Testing.kind? (← getThe State) path with
      | some _ => if !(← get).isOver then searchFrom launch q reach 100 0 path
      | none =>
        let _ ← Search.fault ("'" ++ path ++ "': No such file or directory")
    let whole : StateT Search Act Unit := (if paths.isEmpty then ["."] else paths).forM start
    let (_, s) ← whole.run ⟨false, false, false, []⟩
    let done ← s.gathered.mapM fun g => launch (g.1.dropLast ++ g.2)
    Act.setStatus (if !s.hasFailed && done.all id then 0 else 1)

end GatedPipeline.Shell.Program
