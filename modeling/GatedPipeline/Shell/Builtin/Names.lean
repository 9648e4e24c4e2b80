import GatedPipeline.Shell.Builtin.Declaration
import GatedPipeline.Shell.Search

namespace GatedPipeline.Shell.Builtin

inductive Meaning where
  | alias (text : String)
  | keyword
  | function (f : Function)
  | builtin
  | file (path : String)

/-- All meanings of a name, the one that counts first. -/
def meanings (s : State) (skipsFunctions : Bool) (name : String) : List Meaning :=
  let aliases : List Meaning :=
    if s.isStrict || s.hasExtra "expand_aliases" then
      ((s.aliases.get? name).map Meaning.alias).toList
    else []
  let keywords : List Meaning :=
    if (if s.isStrict then Parser.plainKeywords else Parser.keywords).contains name then [.keyword]
    else []
  let functions : List Meaning :=
    if skipsFunctions then [] else ((s.functions.get? name).map Meaning.function).toList
  let builtins : List Meaning := if isOwn s name then [.builtin] else []
  aliases ++ keywords ++ functions ++ builtins ++ (s.places name).map .file

/-- A meaning as it is told in full. -/
def told (s : State) (name : String) : Meaning → String
  | .alias t => name ++ " is aliased to \x60" ++ t ++ "'\n"
  | .keyword => name ++ " is a shell keyword\n"
  | .function f =>
    name ++ " is a function\n" ++
      Command.definition s.documents (s.hasOption "posix") name f.body ++ "\n"
  | .builtin => name ++ " is a " ++
    (if !s.isStrict && mindsSpecial s name then "special " else "") ++ "shell builtin\n"
  | .file path => name ++ " is " ++ path ++ "\n"

def kind : Meaning → String
  | .alias _ => "alias"
  | .keyword => "keyword"
  | .function _ => "function"
  | .builtin => "builtin"
  | .file _ => "file"

def toldPlainly (name : String) : Meaning → String
  | .alias t => name ++ " is an alias for " ++ t ++ "\n"
  | .keyword => name ++ " is a shell keyword\n"
  | .function _ => name ++ " is a shell function\n"
  | .builtin =>
    name ++ (if specialNames.contains name then " is a special shell builtin\n"
      else " is a shell builtin\n")
  | .file path => name ++ " is " ++ path ++ "\n"

def describePlainly (name : String) : Act Unit := do
  let s ← get
  let exists' := name.contains '/' && (Testing.kind? s name).isSome
  match meanings s false name with
  | .file path :: _ =>
    if (s.found.get? name).isSome then
      Act.put 1 (name ++ " is a tracked alias for " ++ path ++ "\n")
    else
      Act.put 1 (name ++ " is " ++ path ++ "\n")
      modify fun s => s.noteFound name path 0
  | m :: _ => Act.put 1 (toldPlainly name m)
  | [] =>
    if exists' then Act.put 1 (name ++ " is " ++ name ++ "\n")
    else
      Act.put 1 (name ++ ": not found\n")
      Act.setStatus 127

def describe (s : State) (name : String) (m : Meaning) : String :=
  match m with
  | .file path =>
    if ((s.found.get? name).map (·.1)) == some path then name ++ " is hashed (" ++ path ++ ")\n"
    else told s name m
  | m => told s name m

def type (args : List String) : Act Unit := do
  let s ← get
  Act.setStatus 0
  if s.isStrict then args.forM describePlainly
  else
    withOptions "type" "afptP" args fun o => do
      o.rest.forM fun name => do
        let all :=
          if o.has 'P' then (s.places name).map Meaning.file
          else meanings s (o.has 'f') name
        let chosen := if o.has 'a' then all else all.take 1
        match chosen with
        | [] =>
          if o.has 't' || o.has 'p' || o.has 'P' then Act.setStatus 1
          else Act.fault ("type: " ++ name ++ ": not found") 1
        | _ =>
          chosen.forM fun m =>
            if o.has 't' then say "type" (kind m ++ "\n")
            else if o.has 'p' || o.has 'P' then
              match m with
              | .file path => say "type" (path ++ "\n")
              | _ => return ()
            else say "type" (if o.has 'a' then told s name m else describe s name m)

def tellCommands (isLong : Bool) (names : List String) : Act Unit := do
  let s ← get
  if s.isStrict then
    Act.setStatus 0
    (names.take 1).forM fun name => do
      if isLong then describePlainly name
      else
        match meanings s false name with
        | .alias t :: _ => Act.put 1 ("alias " ++ name ++ "=" ++ Quoting.plain t ++ "\n")
        | .file path :: _ => Act.put 1 (path ++ "\n")
        | _ :: _ => Act.put 1 (name ++ "\n")
        | [] =>
          if name.contains '/' && (Testing.kind? s name).isSome then Act.put 1 (name ++ "\n")
          else Act.setStatus 127
  else
    let results ← names.mapM fun name => do
      match meanings s false name with
      | m :: _ =>
        if isLong then say "command" (describe s name m)
        else
          match m with
          | .alias t => say "command" ("alias " ++ name ++ "=" ++ Quoting.single t ++ "\n")
          | .file path => say "command" (path ++ "\n")
          | _ => say "command" (name ++ "\n")
        return true
      | [] =>
        if isLong then Act.complain ("command: " ++ name ++ ": not found")
        return false
    Act.setStatus (if results.any id || results.isEmpty then 0 else 1)

def hash (args : List String) : Act Unit := do
  let strict ← Act.isStrict
  withOptions "hash" (if strict then "rv" else "lrp:dt") args fun o => do
    let s ← get
    Act.setStatus 0
    let missing (name : String) : Act Unit := Act.fault ("hash: " ++ name ++ ": not found") 1
    if o.has 'r' then modify fun s => { s with found := [] }
    match o.argument? 'p' with
    | some path =>
      o.rest.forM fun name => modify fun s => { s with found := s.found.insert name (path, 0) }
    | none =>
      if o.has 't' then
        o.rest.forM fun name => do
          match s.found.get? name with
          | some f => say "hash" ((if o.rest.length > 1 then name ++ "\t" else "") ++ f.1 ++ "\n")
          | none => missing name
      else if o.has 'd' then
        o.rest.forM fun name => do
          if (s.found.get? name).isSome then
            modify fun s => { s with found := s.found.erase name }
          else missing name
      else if o.rest.isEmpty then
        if !o.has 'r' then
          if strict then say "hash" (String.join (s.found.map fun f => f.2.1 ++ "\n"))
          else if s.found.isEmpty then say "hash" "hash: hash table empty\n"
          else
            say "hash" ("hits\tcommand\n" ++ String.join (s.found.map fun f =>
              let n := toString f.2.2
              String.ofList (List.replicate (4 - n.length) ' ') ++ n ++ "\t" ++ f.2.1 ++ "\n"))
      else
        o.rest.forM fun name => do
          if (s.functions.get? name).isSome || isOwn s name || name.contains '/' then return ()
          else
            match (s.places name).head? with
            | some path => modify fun s => { s with found := s.found.insert name (path, 0) }
            | none => missing name

/-- A name can stand for a text. -/
def isAliasName (name : String) : Bool :=
  !name.isEmpty && !name.toList.any fun c => endsWord c || "/$'\"\\\x60=".toList.contains c

def showOrSetAliases (args : List String) : Act Unit := do
  let s ← get
  Act.setStatus 0
  let line (name text : String) : String :=
    if s.isStrict then name ++ "=" ++ Quoting.plain text ++ "\n"
    else "alias " ++ name ++ "=" ++ Quoting.single text ++ "\n"
  let go (showsAll : Bool) (args : List String) : Act Unit := do
    if args.isEmpty || showsAll then
      say "alias" (String.join (s.aliases.map fun a => line a.1 a.2))
    args.forM fun a => do
      let name := String.ofList (a.toList.takeWhile (· != '='))
      if name.length < a.length && !name.isEmpty then
        if !s.isStrict && !isAliasName name then
          Act.fault ("alias: \x60" ++ name ++ "': invalid alias name") 1
        else
          let text := String.ofList (a.toList.drop (name.length + 1))
          modify fun s => { s with aliases := s.aliases.insert name text }
      else
        match (← get).aliases.get? a with
        | some text => say "alias" (line a text)
        | none =>
          if s.isStrict then
            Act.put 2 ("alias: " ++ a ++ " not found\n")
            Act.setStatus 1
          else Act.fault ("alias: " ++ a ++ ": not found") 1
  if s.isStrict then go false args
  else withOptions "alias" "p" args fun o => go (o.has 'p') o.rest

def unalias (args : List String) : Act Unit := do
  let strict ← Act.isStrict
  withOptions "unalias" "a" args fun o => do
    Act.setStatus 0
    if o.has 'a' then modify fun s => { s with aliases := [] }
    else if o.rest.isEmpty && !strict then showUsage "unalias"
    else
      o.rest.forM fun a => do
        if ((← get).aliases.get? a).isSome then
          modify fun s => { s with aliases := s.aliases.erase a }
        else if strict then
          Act.put 2 ("unalias: " ++ a ++ " not found\n")
          Act.setStatus 1
        else Act.fault ("unalias: " ++ a ++ ": not found") 1

def enable (args : List String) : Act Unit := do
  withOptions "enable" "adnpsf:" args fun o => do
    Act.setStatus 0
    let disabled := (← get).disabled
    if o.rest.isEmpty then
      if o.has 'n' then
        say "enable" (String.join
          ((names.filter disabled.contains).map fun n => "enable -n " ++ n ++ "\n"))
      else
        let special : List String :=
          [".", ":", "break", "continue", "eval", "exec", "exit", "export", "readonly", "return",
            "set", "shift", "source", "times", "trap", "unset"]
        let all := (if o.has 's' then special else names).filter (!disabled.contains ·)
        say "enable" (String.join (all.map fun n => "enable " ++ n ++ "\n"))
    else
      o.rest.forM fun n => do
        if !names.contains n then Act.fault ("enable: " ++ n ++ ": not a shell builtin") 1
        else
          modify fun s => { s with
            disabled := (if o.has 'n' then [n] else []) ++ s.disabled.filter (· != n) }

def caller (args : List String) : Act Unit := do
  let calls := (← get).frames
  match args with
  | [] =>
    match calls with
    | c :: rest =>
      Act.setStatus 0
      say "caller" (toString c.line ++ " " ++ ((rest.head?).map Scope.source).getD "NULL" ++ "\n")
    | [] => Act.setStatus 1
  | a :: _ =>
    match a.toNat? with
    | none =>
      Act.complain ("caller: " ++ a ++ ": invalid number")
      showUsage "caller"
    | some n =>
      match calls[n]?, calls[n + 1]? with
      | some c, some outer =>
        Act.setStatus 0
        say "caller" (toString c.line ++ " " ++ outer.function ++ " " ++ outer.source ++ "\n")
      | _, _ => Act.setStatus 1

def help (args : List String) : Act Unit := do
  withOptions "help" "dms" args fun o => do
    Act.setStatus 0
    if o.rest.isEmpty then
      say "help" (String.join (synopses.map fun s => " " ++ s.2 ++ "\n"))
    else
      o.rest.forM fun n => do
        match synopses.lookup n with
        | some text => say "help" (n ++ ": " ++ text ++ "\n")
        | none =>
          Act.fault ("help: no help topics match \x60" ++ n ++ "'.  Try \x60help help' or " ++
            "\x60man -k " ++ n ++ "' or \x60info " ++ n ++ "'.") 1

end GatedPipeline.Shell.Builtin
