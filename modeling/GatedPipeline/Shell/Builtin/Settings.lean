import GatedPipeline.Shell.Builtin.Declaration

namespace GatedPipeline.Shell.Builtin

def plainOptions : List (String × Char) :=
  [("errexit", 'e'), ("noglob", 'f'), ("ignoreeof", 'I'), ("interactive", 'i'), ("monitor", 'm'),
    ("noexec", 'n'), ("stdin", 's'), ("xtrace", 'x'), ("verbose", 'v'), ("vi", 'V'), ("emacs", 'E'),
    ("noclobber", 'C'), ("allexport", 'a'), ("notify", 'b'), ("nounset", 'u'), ("privileged", 'p'),
    ("nolog", ' '), ("debug", ' ')]

def optionTable (s : State) : List (String × Char) :=
  if s.isStrict then plainOptions else State.optionNames

def setOption (isOn : Bool) (name : String) : Act Unit :=
  modify fun s =>
    if name = "posix" then
      if s.isStrict || s.hasOption "posix" == isOn then s
      else if isOn then s.modifyVariable State.standardName fun v => { v with value := .text "y" }
      else s.forgetVariable State.standardName
    else
      let others := s.options.filter (· != name)
      { s with options := if isOn then others ++ [name] else others }

def widened (width : Nat) (s : String) : String :=
  s ++ String.ofList (List.replicate (width - s.length) ' ')

def onOff (isOn : Bool) : String := if isOn then "on" else "off"

/-- Options as a list of states, or as commands that set them. -/
def optionList (s : State) (asCommands : Bool) : String :=
  let line (name : String) : String :=
    if asCommands then "set " ++ (if s.hasOption name then "-" else "+") ++ "o " ++ name ++ "\n"
    else if s.isStrict then widened 16 name ++ onOff (s.hasOption name) ++ "\n"
    else widened 15 name ++ "\t" ++ onOff (s.hasOption name) ++ "\n"
  (if s.isStrict && !asCommands then "Current option settings\n" else "") ++
    String.join ((optionTable s).map fun o => line o.1)

def setFrom : Nat → List String → Act Unit
  | 0, _ => return ()
  | _ + 1, [] => return ()
  | n + 1, a :: rest => do
    let s ← get
    let place (ps : List String) : Act Unit := modify fun s => { s with parameters := ps }
    match a.toList with
    | ['-', '-'] => place rest
    | ['-'] =>
      setOption false "xtrace"
      setOption false "verbose"
      if !rest.isEmpty then place rest
    | ['+'] => if s.isStrict then setFrom n rest else place rest
    | sign :: cs =>
      if sign == '-' || sign == '+' then
        let isOn := sign == '-'
        let known := optionTable s
        let rec letters : List Char → List String → Act (Option (List String))
          | [], rest => return some rest
          | c :: cs, rest => do
            if c == 'o' then
              match rest with
              | [] =>
                Act.put 1 (optionList (← get) (!isOn))
                letters cs []
              | name :: rest =>
                if known.any (·.1 == name) then
                  setOption isOn name
                  letters cs rest
                else
                  if s.isStrict then
                    refuse "set" ("Illegal option -o " ++ name) 2
                  else Act.fault ("set: " ++ name ++ ": invalid option name") 2
                  return none
            else
              match known.find? fun o => o.2 == c && c != ' ' with
              | some o =>
                setOption isOn o.1
                letters cs rest
              | none =>
                refuseOption "set" (String.ofList [sign, c])
                return none
        match ← letters cs rest with
        | some rest => setFrom n rest
        | none => return ()
      else place (a :: rest)
    | [] => place (a :: rest)

def setOptions (args : List String) : Act Unit := do
  Act.setStatus 0
  match args with
  | [] => showAll
  | _ => setFrom (args.length + 1) args

/-- The further options and whether each is set at the start. -/
def extraNames : List String :=
  ["autocd", "assoc_expand_once", "cdable_vars", "cdspell", "checkhash", "checkjobs",
    "checkwinsize", "cmdhist", "compat31", "compat32", "compat40", "compat41", "compat42",
    "compat43", "compat44", "complete_fullquote", "direxpand", "dirspell", "dotglob", "execfail",
    "expand_aliases", "extdebug", "extglob", "extquote", "failglob", "force_fignore",
    "globasciiranges", "globskipdots", "globstar", "gnu_errfmt", "histappend", "histreedit",
    "histverify", "hostcomplete", "huponexit", "inherit_errexit", "interactive_comments",
    "lastpipe", "lithist", "localvar_inherit", "localvar_unset", "login_shell", "mailwarn",
    "no_empty_cmd_completion", "nocaseglob", "nocasematch", "noexpand_translation", "nullglob",
    "patsub_replacement", "progcomp", "progcomp_alias", "promptvars", "restricted_shell",
    "shift_verbose", "sourcepath", "varredir_close", "xpg_echo"]

def initialExtras : List String :=
  ["checkwinsize", "cmdhist", "complete_fullquote", "extquote", "force_fignore",
    "globasciiranges", "globskipdots", "hostcomplete", "interactive_comments",
    "patsub_replacement", "progcomp", "promptvars", "sourcepath"]

def shopt (args : List String) : Act Unit := do
  Act.setStatus 0
  withOptions "shopt" "pqsuo" args fun o => do
    let s ← get
    let isSet := o.has 's'
    if isSet && o.has 'u' then
      Act.fault "shopt: cannot set and unset shell options simultaneously" 1
    else
      let usual := o.has 'o'
      let all := if usual then State.optionNames.map (·.1) else extraNames
      let has (n : String) : Bool := if usual then s.hasOption n else s.hasExtra n
      let line (n : String) : String :=
        if o.has 'p' then
          (if usual then "set " ++ (if has n then "-o " else "+o ")
            else "shopt " ++ if has n then "-s " else "-u ") ++ n ++ "\n"
        else widened 15 n ++ "\t" ++ onOff (has n) ++ "\n"
      let unknown (n : String) : Act Unit :=
        Act.fault ("shopt: " ++ n ++ ": invalid " ++
          (if usual then "option name" else "shell option name")) 1
      if isSet || o.has 'u' then
        if o.rest.isEmpty then
          say "shopt" (String.join ((all.filter fun n => has n == isSet).map line))
        else
          o.rest.forM fun n => do
            if !all.contains n then unknown n
            else if usual then setOption isSet n
            else modify fun s =>
              let others := s.extras.filter (· != n)
              { s with extras := if isSet then others ++ [n] else others }
      else if o.rest.isEmpty then
        if !o.has 'q' then say "shopt" (String.join (all.map line))
      else
        o.rest.forM fun n => do
          if !all.contains n then unknown n
          else
            if !o.has 'q' then say "shopt" (line n)
            if !has n then Act.setStatus 1

/-- Leaves with a message where there are too many arguments. -/
def refuseMany (name : String) : Act Unit := do
  Act.fault (name ++ ": too many arguments") 1
  throw .leaving

def shift (args : List String) : Act Unit := do
  let s ← get
  if s.isStrict then
    let count ← do
      match args with
      | [] => pure 1
      | a :: _ =>
        match count? a with
        | some n => pure n
        | none =>
          refuse "shift" ("Illegal number: " ++ a) 2
          pure 0
    if count > s.parameters.length then refuse "shift" "can't shift that many" 2
    else set { s with parameters := s.parameters.drop count, status := 0 }
  else
    match operands args with
    | [] => go 1 "1"
    | [a] =>
      match number? a with
      | some n => go n a
      | none => Act.fault ("shift: " ++ a ++ ": numeric argument required") 1
    | _ => refuseMany "shift"
where
  go (n : Int) (shown : String) : Act Unit := do
    let s ← get
    if n < 0 then Act.fault ("shift: " ++ shown ++ ": shift count out of range") 1
    else if n > s.parameters.length then
      if s.hasExtra "shift_verbose" then
        Act.fault ("shift: " ++ shown ++ ": shift count out of range") 1
      else Act.setStatus 1
    else set { s with parameters := s.parameters.drop n.toNat, status := 0 }

structure OptionReading where
  index : Nat
  place : Nat
  name : String
  argument : Option String
  fault : Option String
  isOver : Bool

def nextOption (isStrict : Bool) (known : List Char) (args : List String) (index place : Nat) :
    OptionReading :=
  let ended (index : Nat) : OptionReading := ⟨index, 0, "?", none, none, true⟩
  let isSilent := known.head? == some ':'
  let letter (a : List Char) (place : Nat) : OptionReading :=
    let c := (a[place]?).getD '?'
    let isLast := place + 1 ≥ a.length
    let index' := if isLast then index + 1 else index
    let place' := if isLast then 0 else place + 1
    let odd (name message : String) : OptionReading :=
      ⟨index', place', if isSilent then name else "?",
        if isSilent then some (String.singleton c) else none,
        if isSilent then none else some message, false⟩
    match (if c == ':' then [] else known.dropWhile (· != c)) with
    | [] =>
      odd "?" (if isStrict then "Illegal option -" ++ String.singleton c
        else "illegal option -- " ++ String.singleton c)
    | _ :: ':' :: _ =>
      if !isLast then
        ⟨index + 1, 0, String.singleton c, some (String.ofList (a.drop (place + 1))), none, false⟩
      else
        match args[index]? with
        | some v => ⟨index + 2, 0, String.singleton c, some v, none, false⟩
        | none =>
          odd ":" (if isStrict then "No arg for -" ++ String.singleton c ++ " option"
            else "option requires an argument -- " ++ String.singleton c)
    | _ => ⟨index', place', String.singleton c, if isStrict then some "" else none, none, false⟩
  match args[index - 1]? with
  | none => ended index
  | some a =>
    let cs := a.toList
    if place > 0 && place < cs.length then letter cs place
    else
      match cs with
      | ['-', '-'] => ended (index + 1)
      | '-' :: _ :: _ => letter cs 1
      | _ => ended index

def getopts (args : List String) : Act Unit := do
  let s ← get
  match operands args with
  | known :: name :: rest =>
    let args := if rest.isEmpty then s.parameters else rest
    let index := (((s.value? "OPTIND").bind number?).getD 1).toNat
    let r := nextOption s.isStrict known.toList args (max index 1) s.optionPlace
    match r.fault with
    | some f =>
      if (s.value? "OPTERR").getD "1" != "0" || s.isStrict then
        Act.put 2 ((if s.isStrict then "" else s.name ++ ": ") ++ f ++ "\n")
    | none => pure ()
    store "OPTIND" (toString r.index)
    match r.argument with
    | some t => store "OPTARG" t
    | none => if !r.isOver then modify fun s => s.forgetVariable "OPTARG"
    modify fun s => { s with optionPlace := r.place }
    Act.setStatus (if r.isOver then 1 else 0)
    if Shell.isName name.toList then
      let status ← Act.status
      store name r.name
      modify fun s => { s with optionPlace := r.place }
      if status != 0 then Act.setStatus status
    else if s.isStrict then refuse "getopts" (name ++ ": bad variable name") 2
    else Act.fault ("getopts: \x60" ++ name ++ "': not a valid identifier") 1
  | _ =>
    if s.isStrict then refuse "getopts" "Usage: getopts optstring var [arg...]" 2
    else showUsage "getopts"

/-- Evaluates expressions; the last one tells the status. -/
def letAll (args : List String) : Act Unit := do
  match operands args with
  | [] => Act.fault "let: expression expected" 1
  | args =>
    try
      let values ← args.mapM (evaluateArithmetic "let: ")
      Act.setStatus (if values.getLast? == some 0 then 1 else 0)
    catch e =>
      if e == .discarding then Act.setStatus 1 else throw e

end GatedPipeline.Shell.Builtin
