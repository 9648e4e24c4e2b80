import GatedPipeline.Shell.Testing

namespace GatedPipeline.Shell

namespace Builtin

def synopses : List (String × String) :=
  [(".", ". filename [arguments]"), (":", ":"), ("[", "[ arg... ]"),
    ("alias", "alias [-p] [name[=value] ... ]"), ("bg", "bg [job_spec ...]"),
    ("bind", "bind [-lpsvPSVX] [-m keymap] [-f filename] [-q name] [-u name] [-r keyseq] " ++
      "[-x keyseq:shell-command] [keyseq:readline-function or readline-command]"),
    ("break", "break [n]"), ("builtin", "builtin [shell-builtin [arg ...]]"),
    ("caller", "caller [expr]"), ("cd", "cd [-L|[-P [-e]] [-@]] [dir]"),
    ("command", "command [-pVv] command [arg ...]"),
    ("compgen", "compgen [-abcdefgjksuv] [-o option] [-A action] [-G globpat] [-W wordlist] " ++
      "[-F function] [-C command] [-X filterpat] [-P prefix] [-S suffix] [word]"),
    ("complete", "complete [-abcdefgjksuv] [-pr] [-DEI] [-o option] [-A action] [-G globpat] " ++
      "[-W wordlist] [-F function] [-C command] [-X filterpat] [-P prefix] [-S suffix] [name ...]"),
    ("compopt", "compopt [-o|+o option] [-DEI] [name ...]"), ("continue", "continue [n]"),
    ("declare", "declare [-aAfFgiIlnrtux] [name[=value] ...] or declare -p [-aAfFilnrtux] " ++
      "[name ...]"),
    ("dirs", "dirs [-clpv] [+N] [-N]"), ("disown", "disown [-h] [-ar] [jobspec ... | pid ...]"),
    ("echo", "echo [-neE] [arg ...]"), ("enable", "enable [-a] [-dnps] [-f filename] [name ...]"),
    ("eval", "eval [arg ...]"),
    ("exec", "exec [-cl] [-a name] [command [argument ...]] [redirection ...]"),
    ("exit", "exit [n]"), ("export", "export [-fn] [name[=value] ...] or export -p"),
    ("false", "false"),
    ("fc", "fc [-e ename] [-lnr] [first] [last] or fc -s [pat=rep] [command]"),
    ("fg", "fg [job_spec]"), ("getopts", "getopts optstring name [arg ...]"),
    ("hash", "hash [-lr] [-p pathname] [-dt] [name ...]"), ("help", "help [-dms] [pattern ...]"),
    ("history", "history [-c] [-d offset] [n] or history -anrw [filename] or history -ps arg " ++
      "[arg...]"),
    ("jobs", "jobs [-lnprs] [jobspec ...] or jobs -x command [args]"),
    ("kill", "kill [-s sigspec | -n signum | -sigspec] pid | jobspec ... or kill -l [sigspec]"),
    ("let", "let arg [arg ...]"), ("local", "local [option] name[=value] ..."),
    ("logout", "logout [n]"),
    ("mapfile", "mapfile [-d delim] [-n count] [-O origin] [-s count] [-t] [-u fd] " ++
      "[-C callback] [-c quantum] [array]"),
    ("popd", "popd [-n] [+N | -N]"), ("printf", "printf [-v var] format [arguments]"),
    ("pushd", "pushd [-n] [+N | -N | dir]"), ("pwd", "pwd [-LP]"),
    ("read", "read [-ers] [-a array] [-d delim] [-i text] [-n nchars] [-N nchars] " ++
      "[-p prompt] [-t timeout] [-u fd] [name ...]"),
    ("readarray", "readarray [-d delim] [-n count] [-O origin] [-s count] [-t] [-u fd] " ++
      "[-C callback] [-c quantum] [array]"),
    ("readonly", "readonly [-aAf] [name[=value] ...] or readonly -p"), ("return", "return [n]"),
    ("set", "set [-abefhkmnptuvxBCEHPT] [-o option-name] [--] [-] [arg ...]"),
    ("shift", "shift [n]"), ("shopt", "shopt [-pqsu] [-o] [optname ...]"),
    ("source", "source filename [arguments]"), ("suspend", "suspend [-f]"),
    ("test", "test [expr]"), ("times", "times"), ("trap", "trap [-lp] [[arg] signal_spec ...]"),
    ("true", "true"), ("type", "type [-afptP] name [name ...]"),
    ("typeset", "typeset [-aAfFgiIlnrtux] name[=value] ... or typeset -p [-aAfFilnrtux] " ++
      "[name ...]"),
    ("ulimit", "ulimit [-SHabcdefiklmnpqrstuvxPRT] [limit]"),
    ("umask", "umask [-p] [-S] [mode]"), ("unalias", "unalias [-a] name [name ...]"),
    ("unset", "unset [-f] [-v] [-n] [name ...]"), ("wait", "wait [-fn] [-p var] [id ...]")]

def names : List String := synopses.map (·.1)

def plainNames : List String :=
  [".", ":", "[", "alias", "bg", "break", "cd", "chdir", "command", "continue", "echo", "eval",
    "exec", "exit", "export", "false", "fg", "getopts", "hash", "jobs", "kill", "local", "printf",
    "pwd", "read", "readonly", "return", "set", "shift", "test", "times", "trap", "true", "type",
    "ulimit", "umask", "unalias", "unset", "wait"]

/-- Commands of a plain shell that end it when they are called wrongly. -/
def specialNames : List String :=
  [".", ":", "break", "continue", "eval", "exec", "exit", "export", "local", "readonly", "return",
    "set", "shift", "times", "trap", "unset"]

/-- A command of the shell itself is a special one, and the shell minds that: such a command comes
before functions, and what is wrong with it ends the shell. -/
def mindsSpecial (s : State) (name : String) : Bool :=
  if s.isStrict then specialNames.contains name
  else s.hasOption "posix" && name != "local" && (specialNames.contains name || name = "source")

def declarationNames : List String :=
  ["alias", "declare", "typeset", "export", "readonly", "local"]

def isOwn (s : State) (name : String) : Bool :=
  (if s.isStrict then plainNames else names).contains name && !s.disabled.contains name

/-- Refuses a call. A plain shell gives up the command, and perhaps more. -/
def refuse (name message : String) (status : Nat) : Act Unit := do
  if ← Act.isStrict then
    Act.fault (name ++ ": " ++ message) 2
    throw .discarding
  else Act.fault (name ++ ": " ++ message) status

def showUsage (name : String) : Act Unit := do
  Act.put 2 (name ++ ": usage: " ++ (synopses.lookup name).getD "" ++ "\n")
  Act.setStatus 2

def refuseOption (name option : String) : Act Unit := do
  if ← Act.isStrict then refuse name ("Illegal option " ++ option) 2
  else
    Act.complain (name ++ ": " ++ option ++ ": invalid option")
    showUsage name

structure Options where
  given : List (Char × String)
  rest : List String
deriving Repr

namespace Options

def has (o : Options) (c : Char) : Bool := o.given.any (·.1 == c)

/-- The argument of an option; of several the last one counts. -/
def argument? (o : Options) (c : Char) : Option String :=
  (o.given.reverse.find? (·.1 == c)).map (·.2)

end Options

inductive OptionFault where
  | unknown (option : Char)
  | noArgument (option : Char)

/-- Reads letters of options; `known` has a colon after those that take an argument. -/
def readOptions (known : List Char) : Nat → List (Char × String) → List String →
    Except OptionFault Options
  | 0, given, args => .ok ⟨given, args⟩
  | _ + 1, given, [] => .ok ⟨given, []⟩
  | n + 1, given, a :: rest =>
    match a.toList with
    | ['-', '-'] => .ok ⟨given, rest⟩
    | '-' :: c :: cs =>
      let rec letters : List Char → List (Char × String) →
          Except OptionFault (List (Char × String) × Option Char)
        | [], given => .ok (given, none)
        | c :: cs, given =>
          match known.dropWhile (· != c) with
          | _ :: ':' :: _ =>
            if c == ':' then .error (.unknown c)
            else if cs.isEmpty then .ok (given, some c)
            else .ok (given ++ [(c, String.ofList cs)], none)
          | _ :: _ => if c == ':' then .error (.unknown c) else letters cs (given ++ [(c, "")])
          | [] => .error (.unknown c)
      match letters (c :: cs) given with
      | .error e => .error e
      | .ok (given, none) => readOptions known n given rest
      | .ok (given, some c) =>
        match rest with
        | v :: rest => readOptions known n (given ++ [(c, v)]) rest
        | [] => .error (.noArgument c)
    | _ => .ok ⟨given, a :: rest⟩

/-- The options of a command; what is wrong with them is told. -/
def options? (name known : String) (args : List String) : Act (Option Options) := do
  match readOptions known.toList (args.length + 1) [] args with
  | .ok o => return some o
  | .error (.unknown c) =>
    refuseOption name (String.ofList ['-', c])
    return none
  | .error (.noArgument c) =>
    if ← Act.isStrict then refuse name ("No arg for -" ++ String.singleton c ++ " option") 2
    else
      Act.complain (name ++ ": -" ++ String.singleton c ++ ": option requires an argument")
      showUsage name
    return none

def withOptions (name known : String) (args : List String) (act : Options → Act Unit) :
    Act Unit := do
  match ← options? name known args with
  | some o => act o
  | none => return ()

/-- Arguments without a mark that no options follow. -/
def operands (args : List String) : List String :=
  match args with
  | "--" :: rest => rest
  | _ => args

def number? (s : String) : Option Int := Testing.wholeNumber? s

/-- A number as a plain shell takes it: digits only. -/
def plainNumber? (s : String) : Option Nat :=
  if s.isEmpty || !s.toList.all Char.isDigit then none
  else (s.toNat?).filter (· < Nat.pow 2 31)

def count? (s : String) : Option Nat :=
  ((Testing.wholeNumber? s).filter fun n => 0 ≤ n && n < Int.pow 2 31).map Int.toNat

/-- Sets a variable; what cannot be set is a failure. -/
def store (name value : String) : Act Unit := do
  let _ ← Assigning.assign? (evaluateArithmetic "") name none false value

/-- Writes lines. A descriptor that is not open is told. -/
def say (name text : String) : Act Unit := do
  if !text.isEmpty && !(← Act.write 1 text) then
    if ← Act.isStrict then Act.fault (name ++ ": I/O error") 1
    else Act.fault (name ++ ": write error: Bad file descriptor") 1

end Builtin

end GatedPipeline.Shell
