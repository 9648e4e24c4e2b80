import GatedPipeline.Shell.Builtin.Names
import GatedPipeline.Shell.Builtin.Settings
import GatedPipeline.Shell.Builtin.Jobs

namespace GatedPipeline.Shell.Builtin

/-- Reads a description from options; what is wrong with them is told. -/
def completion? (name : String) (o : Options) : Act (Option Completion) := do
  let wrong (message : String) : Act (Option Completion) := do
    Act.fault (name ++ ": " ++ message) 2
    return none
  let badWish := o.given.find? fun g => g.1 == 'o' && !Completion.allWishes.contains g.2
  let badSource := o.given.find? fun g => g.1 == 'A' && (Completion.Source.named? g.2).isNone
  let badFunction := (o.argument? 'F').filter fun f => f.toList.any fun c => isBlank c || c == '\n'
  match badWish, badSource, badFunction with
  | some g, _, _ => wrong (g.2 ++ ": invalid option name")
  | none, some g, _ => wrong (g.2 ++ ": invalid action name")
  | none, none, some f => wrong ("\x60" ++ f ++ "': not a valid identifier")
  | none, none, none =>
    return some {
      wishes := (o.given.filter (·.1 == 'o')).map (·.2)
      sources := o.given.filterMap fun g =>
        if g.1 == 'A' then Completion.Source.named? g.2 else Completion.Source.lettered? g.1
      pattern := o.argument? 'G'
      words := o.argument? 'W'
      front := o.argument? 'P'
      back := o.argument? 'S'
      excluded := o.argument? 'X'
      command := o.argument? 'C'
      function := o.argument? 'F' }

def otherWords : List (Char × String) :=
  [('D', "_DefaultCmD_"), ('E', "_EmptycmD_"), ('I', "_InitialWorD_")]

def completionLine (k : Charset) (name : String) (c : Completion) : String :=
  let shownName :=
    match otherWords.find? (·.2 == name) with
    | some w => "-" ++ String.singleton w.1
    | none => Quoting.sparing name
  "complete " ++ c.shown (Quoting.reusable k) ++ shownName ++ "\n"

def listedCompletions (s : State) : List (String × Completion) :=
  s.completions.mergeSort fun a b => Value.place a.1 % 512 ≤ Value.place b.1 % 512

def missingCompletion (command name : String) : Act Unit :=
  Act.fault (command ++ ": " ++ name ++ ": no completion specification") 1

def complete (args : List String) : Act Unit := do
  Act.setStatus 0
  let s ← get
  withOptions "complete" "abcdefgjko:prsuvA:G:W:P:S:X:F:C:DEI" args fun o => do
    match ← completion? "complete" o with
    | none => return ()
    | some c =>
      let other := otherWords.find? fun w => o.has w.1
      let names := ((other.map fun w => [w.2]).getD o.rest)
      if o.has 'p' || (o.rest.isEmpty && o.given.isEmpty) then
        if names.isEmpty then
          say "complete" (String.join ((listedCompletions s).map fun d =>
            completionLine s.charset d.1 d.2))
        else
          names.forM fun n => do
            match s.completions.lookup n with
            | some c => say "complete" (completionLine s.charset n c)
            | none => missingCompletion "complete" n
      else if o.has 'r' then
        if names.isEmpty then modify fun s => { s with completions := [] }
        else
          names.forM fun n => do
            let s ← get
            if (s.completions.lookup n).isNone then missingCompletion "complete" n
            else set { s with completions := s.completions.filter (·.1 != n) }
      else if names.isEmpty then showUsage "complete"
      else
        names.forM fun n => modify fun s => { s with
          completions :=
            if (s.completions.lookup n).isSome then
              s.completions.map fun d => if d.1 == n then (n, c) else d
            else (n, c) :: s.completions }

/-- Options of `compopt`: what is wanted, what is not wanted any longer, and the names. -/
def wishOptions : List String → List (Bool × String) → List Char →
    Except String (List (Bool × String) × List Char × List String)
  | [], given, others => .ok (given, others, [])
  | a :: rest, given, others =>
    if a = "--" then .ok (given, others, rest)
    else
      match a.toList with
      | '-' :: 'o' :: cs => wish true cs rest given others
      | '+' :: 'o' :: cs => wish false cs rest given others
      | '-' :: c :: [] =>
        if "DEI".toList.contains c then wishOptions rest given (others ++ [c]) else .error a
      | '-' :: _ :: _ => .error a
      | _ => .ok (given, others, a :: rest)
where
  wish (isOn : Bool) (cs : List Char) (rest : List String) (given : List (Bool × String))
      (others : List Char) : Except String (List (Bool × String) × List Char × List String) :=
    match cs, rest with
    | [], w :: rest => wishOptions rest (given ++ [(isOn, w)]) others
    | [], [] => .error "-o"
    | cs, rest => wishOptions rest (given ++ [(isOn, String.ofList cs)]) others

def compopt (args : List String) : Act Unit := do
  Act.setStatus 0
  match wishOptions args [] [] with
  | .error a => refuseOption "compopt" a
  | .ok (given, others, rest) =>
    match given.find? fun g => !Completion.allWishes.contains g.2 with
    | some g => Act.fault ("compopt: " ++ g.2 ++ ": invalid option name") 2
    | none =>
      let other := otherWords.find? fun w => others.contains w.1
      let names := (other.map fun w => [w.2]).getD rest
      if names.isEmpty then
        Act.fault "compopt: not currently executing completion function" 1
      else
        names.forM fun n => do
          let s ← get
          match s.completions.lookup n with
          | none => missingCompletion "compopt" n
          | some c =>
            if given.isEmpty then
              say "compopt" ("compopt " ++ String.join (Completion.allWishes.map fun w =>
                (if c.has w then "-o " else "+o ") ++ w ++ " ") ++ n ++ "\n")
            else
              let wishes := given.foldl (fun (ws : List String) g =>
                (if g.1 then [g.2] else []) ++ ws.filter (· != g.2)) c.wishes
              let changed (d : String × Completion) : String × Completion :=
                if d.1 == n then (n, { c with wishes := wishes }) else d
              set { s with completions := s.completions.map changed }

def orderedKeywords : List String :=
  ["if", "then", "else", "elif", "fi", "case", "esac", "for", "select", "while", "until", "do",
    "done", "in", "function", "time", "\x7b", "\x7d", "!", "[[", "]]", "coproc"]

def helpTopics : List String :=
  (names.filter (· ≠ "chdir") ++ ["%", "(( ... ))", "[[ ... ]]", "case", "coproc", "for",
    "for ((", "function", "if", "select", "time", "until", "variables", "while",
    "\x7b ... \x7d"]).mergeSort (· ≤ ·)

def ownLists : List String :=
  ["BASH_ALIASES", "BASH_ARGC", "BASH_ARGV", "BASH_CMDS", "BASH_LINENO", "BASH_SOURCE",
    "BASH_VERSINFO", "DIRSTACK", "GROUPS", "PIPESTATUS"]

/-- Variables that a shell has from its beginning, whatever their values are. -/
def ownVariables : List String :=
  ["BASHOPTS", "BASHPID", "BASH_ARGV0", "BASH_COMMAND", "BASH_EXECUTION_STRING",
    "BASH_LOADABLES_PATH", "BASH_SUBSHELL", "COMP_WORDBREAKS", "EPOCHREALTIME", "EPOCHSECONDS",
    "EUID", "HISTCMD", "HOSTNAME", "LINENO", "PPID", "RANDOM", "SECONDS", "SHELLOPTS", "SRANDOM",
    "UID", "_"] ++ ownLists

def systemUsers : List String :=
  ["root", "daemon", "bin", "sys", "sync", "games", "man", "lp", "mail", "news", "uucp", "proxy",
    "www-data", "backup", "list", "irc", "_apt", "nobody"]

def systemGroups : List String :=
  ["root", "daemon", "bin", "sys", "adm", "tty", "disk", "lp", "mail", "news", "uucp", "man",
    "proxy", "kmem", "dialout", "fax", "voice", "cdrom", "floppy", "tape", "sudo", "audio", "dip",
    "www-data", "backup", "operator", "list", "irc", "src", "shadow", "utmp", "video", "sasl",
    "plugdev", "staff", "games", "users", "nogroup"]

def fullSignalName (n : Nat) : String :=
  let name := signalName n
  if n = 0 then "EXIT"
  else if name.toNat?.isSome then "SIGJUNK(" ++ name ++ ")"
  else "SIG" ++ name

def fileCandidates (s : State) (onlyDirectories : Bool) (word : String) : List String :=
  let base := (word.toList.reverse.takeWhile (· != '/')).reverse
  let front := String.ofList (word.toList.take (word.length - base.length))
  let full := Path.resolve s.directory (if front.isEmpty then "." else front)
  let isThere := s.world.files.isDirectory full
  let special := if base.head? == some '.' && isThere then [".", ".."] else []
  let all := (special ++ s.world.files.list full).map (front ++ ·)
  if onlyDirectories then all.filter fun p => Testing.kind? s p == some .directory else all

def jobNames (jobs : List Job) : List String :=
  (jobs.map fun j => String.ofList (j.text.toList.takeWhile (!isBlank ·))).mergeSort (· ≤ ·)

/-- What a source offers; some of it begins like the word. -/
def offered (s : State) (word : String) : Completion.Source → List String
  | .aliases => s.aliases.names
  | .lists =>
    (visibleNames (fun v => v.value.isList || v.value.isTable) ++ ownLists ++
      if s.isInFunction then ["FUNCNAME"] else []).eraseDups.mergeSort (· ≤ ·)
  | .bindings => []
  | .builtins => names
  | .disabled => names.filter s.disabled.contains
  | .enabled => names.filter (!s.disabled.contains ·)
  | .exported => visibleNames fun v => v.attributes.isExported && v.value != .missing
  | .functions => s.functions.names
  | .topics => helpTopics
  | .hosts => ["localhost"]
  | .jobs => jobNames (known s)
  | .keywords => orderedKeywords
  | .running => jobNames (running s)
  | .options => State.optionNames.map (·.1)
  | .extras => extraNames
  | .signals => (List.range 65).map fullSignalName ++ eventNames
  | .stopped => []
  | .variables =>
    (visibleNames (·.value != .missing) ++ ownVariables ++
      if s.isInFunction then ["FUNCNAME"] else []).eraseDups.mergeSort (· ≤ ·)
  | .commands =>
    s.aliases.names ++ orderedKeywords ++ s.functions.names ++ names ++
      s.searchPath.flatMap fun d => programNames.filter fun n => s.isRunnable (d ++ "/" ++ n)
  | .files => fileCandidates s false word
  | .users => systemUsers
  | .groups => systemGroups
  | .services => []
  | .directories => fileCandidates s true word
where
  visibleNames (isMeant : Variable → Bool) : List String :=
    s.visible.filterMap fun v => if isMeant v.2 then some v.1 else none

def candidates (s : State) (sources : List Completion.Source) (word : String) : List String :=
  (Completion.Source.table.filter fun t => sources.contains t.1).flatMap fun t =>
    (offered s word t.1).filter (·.startsWith word)

end GatedPipeline.Shell.Builtin
