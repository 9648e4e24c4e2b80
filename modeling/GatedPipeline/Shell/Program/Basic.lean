import GatedPipeline.Shell.Builtin.Basic
import GatedPipeline.Shell.Mention
import GatedPipeline.Shell.Process

namespace GatedPipeline.Shell.Program

/-- Options, and how a program says that it does not know one. -/
structure Usage where
  name : String
  /-- Letters, with a colon after those that take an argument, and with two after those that take
  one only if it follows at once. After a plus sign in front, options may not stand behind other
  arguments. -/
  letters : String
  words : List (String × Char)
  status : Nat
deriving Repr

def say (text : String) : Act Unit := Act.put 1 text

def shownPath (path : String) : Act String := return Mention.path (← get).programCharset path

def shownOperand (path : String) : Act String := return Mention.operand (← get).programCharset path

def shownArgument (a : String) : Act String := return Mention.argument (← get).programCharset a

def fail (name message : String) (status : Nat) : Act Unit := do
  Act.put 2 (name ++ ": " ++ message ++ "\n")
  Act.setStatus status

def refuse (name message : String) (status : Nat) : Act Unit := do
  fail name message status
  Act.put 2 ("Try '" ++ name ++ " --help' for more information.\n")

/-- Options, which may stand anywhere as a rule, and the other arguments; or what is wrong with
them. -/
def readOptions (u : Usage) : Nat → List (Char × String) → List String → List String →
    Except String Builtin.Options
  | 0, given, rest, _ => .ok ⟨given, rest.reverse⟩
  | _ + 1, given, rest, [] => .ok ⟨given, rest.reverse⟩
  | n + 1, given, rest, a :: args =>
    let mayTake (c : Char) : Bool :=
      match u.letters.toList.dropWhile (· != c) with
      | _ :: ':' :: _ => true
      | _ => false
    let takesArgument (c : Char) : Bool :=
      match u.letters.toList.dropWhile (· != c) with
      | _ :: ':' :: ':' :: _ => false
      | _ => mayTake c
    match a.toList with
    | ['-', '-'] => .ok ⟨given, rest.reverse ++ args⟩
    | '-' :: '-' :: cs =>
      let word := String.ofList (cs.takeWhile (· != '='))
      let value := (cs.drop word.length).drop 1
      let fits := u.words.filter fun w => w.1.startsWith word
      match (u.words.find? (·.1 == word)).or (if fits.length == 1 then fits.head? else none) with
      | none =>
        .error (if fits.isEmpty then "unrecognized option '" ++ a ++ "'"
          else "option '" ++ a ++ "' is ambiguous")
      | some (long, c) =>
        if takesArgument c then
          if cs.contains '=' then readOptions u n (given ++ [(c, String.ofList value)]) rest args
          else
            match args with
            | v :: args => readOptions u n (given ++ [(c, v)]) rest args
            | [] => .error ("option '--" ++ long ++ "' requires an argument")
        else if cs.contains '=' && mayTake c then
          readOptions u n (given ++ [(c, String.ofList value)]) rest args
        else if cs.contains '=' then
          .error ("option '--" ++ long ++ "' doesn't allow an argument")
        else readOptions u n (given ++ [(c, "")]) rest args
    | '-' :: c :: cs =>
      let rec letters : List Char → List (Char × String) →
          Except String (List (Char × String) × Option Char)
        | [], given => .ok (given, none)
        | c :: cs, given =>
          if c == ':' || c == '+' || !u.letters.toList.contains c then
            .error ("invalid option -- '" ++ String.singleton c ++ "'")
          else if takesArgument c then
            if cs.isEmpty then .ok (given, some c)
            else .ok (given ++ [(c, String.ofList cs)], none)
          else if mayTake c then .ok (given ++ [(c, String.ofList cs)], none)
          else letters cs (given ++ [(c, "")])
      match letters (c :: cs) given with
      | .error e => .error e
      | .ok (given, none) => readOptions u n given rest args
      | .ok (given, some c) =>
        match args with
        | v :: args => readOptions u n (given ++ [(c, v)]) rest args
        | [] => .error ("option requires an argument -- '" ++ String.singleton c ++ "'")
    | _ => if u.letters.startsWith "+" then .ok ⟨given, a :: args⟩ else readOptions u n given (a :: rest) args

def withOptions (u : Usage) (args : List String) (act : Builtin.Options → Act Unit) : Act Unit := do
  match readOptions u (args.length + 1) [] [] args with
  | .ok o =>
    Act.setStatus 0
    act o
  | .error e => refuse u.name e u.status

/-- What a word, or the beginning of one, chooses. Words that mean the same stand together. -/
def choice? (word : String) (choices : List (List String × α)) : Option α :=
  match choices.find? (·.1.contains word) with
  | some c => some c.2
  | none =>
    match choices.filter (·.1.any (·.startsWith word)) with
    | [c] => some c.2
    | _ => none

def refuseChoice (name option word : String) (choices : List (List String × α)) (status : Nat) :
    Act Unit := do
  let k := (← get).programCharset
  let isVague := 1 < (choices.filter (·.1.any (·.startsWith word))).length
  Act.put 2 (name ++ ": " ++ (if isVague then "ambiguous" else "invalid") ++ " argument " ++
    Mention.argument k word ++ " for " ++ Mention.argument k option ++ "\n" ++
    "Valid arguments are:\n" ++ String.join (choices.map fun c =>
      "  - " ++ ", ".intercalate (c.1.map (Mention.argument k)) ++ "\n") ++
    "Try '" ++ name ++ " --help' for more information.\n")
  Act.setStatus status

def descriptor? (path : String) : Option Nat :=
  if path = "/dev/stdin" then some 0
  else if path = "/dev/stdout" then some 1
  else if path = "/dev/stderr" then some 2
  else
    ["/dev/fd/", "/proc/self/fd/"].findSome? fun front =>
      if path.startsWith front then (String.ofList (path.toList.drop front.length)).toNat? else none

/-- What can be read from a path, with the times at which it comes; or why nothing can. -/
def readPath (path : String) : Act (Except String (List Chunk)) := do
  let s ← get
  let full := Path.resolve s.directory path
  if full = "/dev/null" then return .ok []
  else if full = "/dev/zero" || full = "/dev/full" then return .ok [⟨s.now, Act.manyZeros⟩]
  else
    match descriptor? path with
    | some n =>
      if (s.descriptors.lookup n).isSome then Act.takeAll n
      else return .error FileFault.missing.reason
    | none =>
      match s.world.files.read s.directory path with
      | .ok content => return .ok (if content.isEmpty then [] else [⟨s.now, content⟩])
      | .error f => return .error f.reason

/-- Says that what a program has said could not be written; `name` is how it has been called. -/
def tellLost (name base : String) : Act Unit := do
  let s ← get
  let reason := "No space left on device"
  if s.hasLostOutput then
    set { s with hasLostOutput := false }
    match base with
    | "sed" => fail base ("couldn't flush stdout: " ++ reason) 4
    | "sort" =>
      fail base ("fflush failed: 'standard output': " ++ reason) 2
      fail base "write error" 2
    | "find" =>
      fail base ("'standard output': " ++ reason) 1
      fail base "write error" 1
    | "env" => fail base ("write error: " ++ reason) 125
    | "wc" => fail base "write error" 1
    | "tee" => fail base ("'standard output': " ++ reason) 1
    | "diff" => fail base ("standard output: " ++ reason) 2
    | _ =>
      let isSecond := ["ls", "grep", "egrep", "fgrep", "printenv"].contains base
      let shown := if ["echo", "printf", "pwd"].contains base then name else base
      fail shown ("write error: " ++ reason) (if isSecond then 2 else if base = "expr" then 3 else 1)

/-- The text of an operand; a minus sign stands for the standard input. -/
def readOperand (path : String) : Act (Except String String) := do
  let r ← if path = "-" then Act.takeAll 0 else readPath path
  return r.map fun cs => String.join (cs.map (·.text))

/-- The texts of all operands that can be read; the others are told with the reason. -/
def readEach (operands : List String) (complain : String → String → Act Unit) :
    Act (List (String × String)) := do
  let operands := if operands.isEmpty then ["-"] else operands
  let texts ← operands.mapM fun path => do
    match ← readOperand path with
    | .ok t => return some (path, t)
    | .error e =>
      complain path e
      return none
  return texts.filterMap id

/-- The texts of all operands that can be read; of the others it is said why not. -/
def readAll (name : String) (operands : List String) : Act (List (String × String)) :=
  readEach operands fun path e => do fail name ((← shownOperand path) ++ ": " ++ e) 1

def unlines (ls : List String) : String := String.join (ls.map (· ++ "\n"))

end GatedPipeline.Shell.Program
