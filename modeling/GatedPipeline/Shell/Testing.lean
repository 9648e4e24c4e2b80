import GatedPipeline.Shell.Regex
import GatedPipeline.Shell.Tracing

namespace GatedPipeline.Shell

def programNames : List String :=
  ["[", "base64", "basename", "bash", "cat", "chmod", "cmp", "cp", "cut", "dash", "diff", "dirname",
    "echo", "egrep", "env", "expr", "false", "fgrep", "find", "fold", "grep", "head", "hostname",
    "id", "ls", "mkdir", "mktemp", "mv", "nice", "nl", "nohup", "nproc", "od", "paste", "printenv",
    "printf", "pwd", "readlink", "realpath", "rev", "rm", "rmdir", "sed", "seq", "setsid", "sh",
    "sleep", "sort", "tac", "tail", "tee", "test", "timeout", "touch", "tr", "true", "uname",
    "uniq", "wc", "which", "whoami", "xargs", "yes"]

def isInstalled (path : String) : Bool :=
  programNames.any fun n => path = "/bin/" ++ n || path = "/usr/bin/" ++ n

namespace Testing

/-- What a path leads to: a device, a program, or an entry of the tree. -/
inductive Kind where
  | device
  | program
  | directory
  | file (size : Nat) (isExecutable : Bool)
deriving DecidableEq, Repr

def devices : List String :=
  ["/dev/null", "/dev/stdin", "/dev/stdout", "/dev/stderr", "/dev/tty", "/dev/zero", "/dev/full",
    "/dev/random", "/dev/urandom"]

def kind? (s : State) (path : String) : Option Kind :=
  let full := Path.resolve s.directory path
  if path.isEmpty then none
  else if devices.contains full then some .device
  else if isInstalled full then some .program
  else
    match s.world.files.find s.directory path with
    | .ok (_, .directory) => some .directory
    | .ok (_, .file content isExecutable) => some (.file content.length isExecutable)
    | .error _ => none

def ofFile (s : State) (operator : Char) (path : String) : Bool :=
  match kind? s path with
  | none => false
  | some k =>
    match operator with
    | 'f' => k != .directory && k != .device
    | 'd' => k == .directory
    | 'x' =>
      match k with
      | .file _ isExecutable => isExecutable
      | .device => false
      | _ => true
    | 's' =>
      match k with
      | .file size _ => size != 0
      | .device => false
      | _ => true
    | 'c' => k == .device
    | _ => "earwOGN".toList.contains operator

def wholeNumber? (s : String) : Option Int :=
  let cs := s.toList.dropWhile isSpace
  let (isNegative, ds) :=
    match cs with
    | '-' :: ds => (true, ds)
    | '+' :: ds => (false, ds)
    | _ => (false, cs)
  let digits := ds.takeWhile Char.isDigit
  if digits.isEmpty || !(ds.drop digits.length).all isSpace then none
  else
    let n : Int := ((String.ofList digits).toNat?.getD 0 : Nat)
    let n := if isNegative then -n else n
    if -(Int.pow 2 63) ≤ n && n < Int.pow 2 63 then some n else none

def comparison? (operator : String) (a b : Int) : Option Bool :=
  match operator with
  | "-eq" => some (a == b)
  | "-ne" => some (a != b)
  | "-lt" => some (a < b)
  | "-le" => some (a ≤ b)
  | "-gt" => some (b < a)
  | "-ge" => some (b ≤ a)
  | _ => none

def isComparison (operator : String) : Bool := (comparison? operator 0 0).isSome

def sameFile (s : State) (a b : String) : Bool :=
  (kind? s a).isSome && Path.resolve s.directory a == Path.resolve s.directory b

/-- A test with two operands, with a message if they do not fit. -/
def binary (s : State) (operator a b : String) : Except String Bool :=
  match operator with
  | "=" => .ok (a == b)
  | "==" => .ok (a == b)
  | "!=" => .ok (a != b)
  | "<" => .ok (a < b)
  | ">" => .ok (b < a)
  | "-nt" => .ok (!s.isStrict && (kind? s a).isSome && (kind? s b).isNone)
  | "-ot" => .ok (!s.isStrict && (kind? s a).isNone && (kind? s b).isSome)
  | "-ef" => .ok (sameFile s a b)
  | _ =>
    let invalid (t : String) : Except String Bool :=
      .error (if s.isStrict then "Illegal number: " ++ t else t ++ ": integer expression expected")
    match wholeNumber? a, wholeNumber? b with
    | some m, some n => .ok ((comparison? operator m n).getD false)
    | none, _ => invalid a
    | _, none => invalid b

def isBinary (operator : String) : Bool :=
  let operators := ["=", "==", "!=", "<", ">", "-nt", "-ot", "-ef", "-eq", "-ne", "-lt", "-le",
    "-gt", "-ge"]
  operators.contains operator

/-- A variable, or an element of one, has a value. -/
def isBound (s : State) (name : String) : Bool :=
  match Parameter.named? false name.toList with
  | some (n, k, []) =>
    match n.toNat? with
    | some i => 0 < i && i ≤ s.parameters.length
    | none =>
      let target := Assigning.target s n
      match (s.lookup? target.1).map Variable.value with
      | none => (s.computed? n).isSome
      | some v =>
        match k.or target.2 with
        | none => v.plain?.isSome
        | some "@" => !v.all.isEmpty
        | some "*" => !v.all.isEmpty
        | some k => v.keys.contains k
  | _ => false

def unary (s : State) (operator a : String) : Bool :=
  match operator with
  | "-z" => a.isEmpty
  | "-n" => !a.isEmpty
  | "-v" => isBound s a
  | "-R" => (s.lookup? a).any (·.attributes.isReference)
  | "-o" => s.hasOption a
  | "-t" => false
  | _ => ofFile s ((operator.toList.drop 1).headD ' ') a

def isUnary (operator : String) : Bool := Parser.unaryTests.contains operator

/-- Operands that have not been looked at yet, and what was found. -/
abbrev Rest := Except String (Bool × List String)

def term (s : State) (or : List String → Rest) : Nat → List String → Rest
  | 0, _ => .error "argument expected"
  | n + 1, args =>
    match args with
    | [] => .error "argument expected"
    | "!" :: rest =>
      match term s or n rest with
      | .ok (b, rest) => .ok (!b, rest)
      | .error e => .error e
    | "(" :: rest =>
      match or rest with
      | .error e => .error e
      | .ok (b, ")" :: rest) => .ok (b, rest)
      | .ok (_, a :: _) => .error ("\x60)' expected, found " ++ a)
      | .ok (_, []) => .error "\x60)' expected"
    | a :: rest =>
      match rest with
      | operator :: b :: more =>
        if isBinary operator then
          match binary s operator a b with
          | .ok r => .ok (r, more)
          | .error e => .error e
        else if isUnary a then .ok (unary s a operator, b :: more)
        else .ok (!a.isEmpty, rest)
      | [b] => if isUnary a then .ok (unary s a b, []) else .ok (!a.isEmpty, rest)
      | [] => .ok (!a.isEmpty, [])

def and (s : State) (or : List String → Rest) : Nat → List String → Rest
  | 0, _ => .error "argument expected"
  | n + 1, args =>
    match term s or (n + 1) args with
    | .ok (a, "-a" :: rest) =>
      match and s or n rest with
      | .ok (b, rest) => .ok (a && b, rest)
      | .error e => .error e
    | r => r

def or (s : State) : Nat → List String → Rest
  | 0, _ => .error "argument expected"
  | n + 1, args =>
    match and s (or s n) (n + 1) args with
    | .ok (a, "-o" :: rest) =>
      match or s n rest with
      | .ok (b, rest) => .ok (a || b, rest)
      | .error e => .error e
    | r => r

def long (s : State) (args : List String) : Except String Bool :=
  match or s (args.length + 1) args with
  | .ok (b, []) => .ok b
  | .ok (_, a :: _) =>
    .error (if a.startsWith "-" then "syntax error: \x60" ++ a ++ "' unexpected"
      else "too many arguments")
  | .error e => .error e

def two (s : State) (a b : String) : Except String Bool :=
  if a = "!" then .ok b.isEmpty
  else if isUnary a then .ok (unary s a b)
  else .error (a ++ ": unary operator expected")

def three (s : State) (a b c : String) : Except String Bool :=
  if isBinary b then binary s b a c
  else if b = "-a" then .ok (!a.isEmpty && !c.isEmpty)
  else if b = "-o" then .ok (!a.isEmpty || !c.isEmpty)
  else if a = "!" then (two s b c).map (!·)
  else if a = "(" && c = ")" then .ok !b.isEmpty
  else .error (b ++ ": binary operator expected")

/-- A test with its operands: how many there are decides what they are. -/
def ofOperands (s : State) : List String → Except String Bool
  | [] => .ok false
  | [a] => .ok !a.isEmpty
  | [a, b] => two s a b
  | [a, b, c] => three s a b c
  | [a, b, c, d] =>
    if a = "!" then (three s b c d).map (!·)
    else if a = "(" && d = ")" then two s b c
    else long s [a, b, c, d]
  | args => long s args

namespace Plain

def isUnary (a : String) : Bool :=
  a.length = 2 && a.startsWith "-" &&
    "rwxefdcbpugkstznhLOGS".toList.contains ((a.toList.drop 1).headD ' ')

def isBinary (a : String) : Bool := Testing.isBinary a && a != "=="

/-- The operand is taken for an operator. -/
def isUnaryHere (args : List String) : Bool :=
  match args with
  | a :: b :: rest => isUnary a && !(rest.head?.isSome && (isBinary b || b == "-a" || b == "-o"))
  | _ => false

def primary (s : State) (or : List String → Rest) (args : List String) : Rest :=
  match args with
  | [] => .ok (false, [])
  | "(" :: a :: rest =>
    if a = ")" then .ok (false, rest)
    else
      match or (a :: rest) with
      | .ok (b, ")" :: rest) => .ok (b, rest)
      | .ok _ => .error "closing paren expected"
      | .error e => .error e
  | a :: rest =>
    match rest with
    | b :: more =>
      if isUnaryHere args then .ok (unary s a b, more)
      else if isBinary b then
        match more with
        | c :: more =>
          match binary s b a c with
          | .ok r => .ok (r, more)
          | .error e => .error e
        | [] => .error (b ++ ": argument expected")
      else .ok (!a.isEmpty, rest)
    | [] => .ok (!a.isEmpty, [])

def not (s : State) (or : List String → Rest) : Nat → List String → Rest
  | 0, args => primary s or args
  | n + 1, args =>
    match args with
    | "!" :: rest =>
      match not s or n rest with
      | .ok (b, rest) => .ok (!b, rest)
      | .error e => .error e
    | _ => primary s or args

def and (s : State) (or : List String → Rest) : Nat → List String → Rest
  | 0, args => primary s or args
  | n + 1, args =>
    match not s or (n + 1) args with
    | .ok (a, "-a" :: rest) =>
      match and s or n rest with
      | .ok (b, rest) => .ok (a && b, rest)
      | .error e => .error e
    | r => r

def or (s : State) : Nat → List String → Rest
  | 0, _ => .ok (false, [])
  | n + 1, args =>
    match and s (or s n) (n + 1) args with
    | .ok (a, "-o" :: rest) =>
      match or s n rest with
      | .ok (b, rest) => .ok (a || b, rest)
      | .error e => .error e
    | r => r

def whole (s : State) (args : List String) : Except String Bool :=
  match or s (args.length + 1) args with
  | .ok (b, []) => .ok b
  | .ok (_, rest) =>
    .error (((args[args.length - rest.length - 1]?).getD "") ++ ": unexpected operator")
  | .error e => .error e

def ofOperands (s : State) : List String → Except String Bool
  | [] => .ok false
  | [a, b, c] =>
    if isBinary b then binary s b a c
    else if a = "(" && c = ")" then whole s [b]
    else if a = "!" then (whole s [b, c]).map (!·)
    else whole s [a, b, c]
  | [a, b, c, d] =>
    if a = "(" && d = ")" then whole s [b, c]
    else if a = "!" then (ofOperands s [b, c, d]).map (!·)
    else whole s [a, b, c, d]
  | args => whole s args

end Plain

/-- A test as a command: its status, with a message if it is none. -/
def command (name : String) (args : List String) : Act Unit := do
  let s ← get
  let wrong (e : String) : Act Unit := Act.fault (name ++ ": " ++ e) 2
  let operands : Option (List String) :=
    if name = "[" then (if args.getLast? == some "]" then some args.dropLast else none)
    else some args
  match operands with
  | none => wrong (if s.isStrict then "missing ]" else "missing \x60]'")
  | some operands =>
    match (if s.isStrict then Plain.ofOperands s operands else ofOperands s operands) with
    | .ok b => Act.setStatus (if b then 0 else 1)
    | .error e => wrong e

section

variable (substitute : Substitution → Act String)

def setMatch (texts : List (List Char)) : Act Unit :=
  modify fun s => s.modifyVariable "BASH_REMATCH" fun v =>
    { v with value := Value.numbered (texts.map String.ofList) }

/-- A pattern as it is told: what is quoted and would count otherwise has a backslash. -/
def toldPattern (counts : Char → Bool) (m : List Marked) : String :=
  String.ofList (m.flatMap fun x => if x.2 && counts x.1 then ['\\', x.1] else [x.1])

/-- A test between double brackets; a status of 2 tells that it is none. A single one is told as
negated if it is. -/
def condition (isNegated : Bool) : Test → Act Nat
  | .enclosed t => condition false t
  | .not t => do
    let r ← condition (!isNegated) t
    return if r == 0 then 1 else if r == 1 then 0 else r
  | .and a b => do
    let r ← condition false a
    if r == 0 then condition false b else return r
  | .or a b => do
    let r ← condition false a
    if r == 0 then return 0 else condition false b
  | .unary operator w => do
    let a ← Expansion.text substitute w
    tell isNegated [operator, a]
    return if unary (← get) operator a then 0 else 1
  | .binary left operator right => do
    let a ← Expansion.text substitute left
    let shown (b : String) : Act Unit := tell isNegated [a, operator, b]
    let told (b : Bool) : Act Nat := return if b then 0 else 1
    if operator = "=~" then
      let m ← Expansion.pattern substitute right
      shown (toldPattern "\\.[]()*+?\x7b\x7d^$|".toList.contains m)
      let s ← get
      let k := s.charset
      match Regex.read .extended (if k == .bytes then m
          else Charset.join (fun x => some x.1) (fun c x => (c, x.2)) m) with
      | .error _ => return 2
      | .ok (r, count) =>
        let units := k.units a.toList
        match Regex.find? r s.comparison units with
        | some found =>
          setMatch ((Regex.texts ⟨units, s.comparison⟩ found count).map k.text)
          return 0
        | none =>
          setMatch []
          return 1
    else if operator = "=" || operator = "==" || operator = "!=" then
      let m ← Expansion.pattern substitute right
      shown (toldPattern (fun _ => true) m)
      let s ← get
      let p := Pattern.ofMarked s.comparison ⟨true, true⟩ m
      told (p.isMatch a.toList == (operator != "!="))
    else
      let b ← Expansion.text substitute right
      shown b
      if isComparison operator then
        try
          let m ← evaluateArithmetic "[[: " a
          let n ← evaluateArithmetic "[[: " b
          told ((comparison? operator m n).getD false)
        catch e =>
          if e == .discarding then return 1 else throw e
      else
        match binary (← get) operator a b with
        | .ok r => told r
        | .error _ => return 2
where
  tell (isNegated : Bool) (parts : List String) : Act Unit :=
    Tracing.tell substitute ("[[ " ++ (if isNegated then "! " else "") ++
      " ".intercalate (parts.map fun t => if t.isEmpty then "''" else t) ++ " ]]")

end

end Testing

end GatedPipeline.Shell
