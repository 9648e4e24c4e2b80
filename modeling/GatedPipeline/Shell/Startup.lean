import GatedPipeline.Shell.Builtin.Settings

namespace GatedPipeline.Shell

namespace Startup

/-- Where programs are looked for if an environment does not say it. -/
def fallbackPath : String := "/bin:/usr/bin"

def usualPath : String := "/usr/local/sbin:/usr/local/bin:/usr/sbin:/usr/bin:/sbin:/bin"

/-- Variables that a shell sets unless its environment does. -/
def usualVariables (isStrict : Bool) : List (String × String) :=
  if isStrict then
    [("IFS", " \t\n"), ("OPTIND", "1"), ("PATH", usualPath), ("PS1", "# "), ("PS2", "> "),
      ("PS4", "+ ")]
  else
    [("BASH", "/usr/bin/bash"), ("BASH_VERSION", "5.2.15(1)-release"), ("HOSTTYPE", "x86_64"),
      ("IFS", " \t\n"), ("MACHTYPE", "x86_64-pc-linux-gnu"), ("OPTERR", "1"), ("OPTIND", "1"),
      ("OSTYPE", "linux-gnu"), ("PATH", usualPath), ("PS4", "+ "), ("SHELL", "/bin/bash"),
      ("TERM", "dumb")]

/-- Variables whose values in the environment count for nothing. -/
def ownNames (isStrict : Bool) : List String :=
  if isStrict then ["IFS", "OPTIND"]
  else ["BASH", "BASH_VERSION", "IFS", "OPTERR", "OPTIND", "PS4"]

def optionVariables : List String := ["SHELLOPTS", "BASHOPTS"]

def functionName? (name value : String) : Option String :=
  if value.startsWith "() \x7b" && name.startsWith "BASH_FUNC_" && name.endsWith "%%" then
    some (String.ofList ((name.toList.drop 10).dropLast.dropLast))
  else none

/-- How deep a shell is nested in shells, where the environment tells how deep its parent is. -/
def nesting (environment : List (String × String)) : Int :=
  let outer := ((environment.lookup "SHLVL").bind Builtin.number?).getD 0
  max 0 (Int.bmod (outer + 1) (Nat.pow 2 32))

/-- No shell counts itself as nested deeper. -/
def deepest : Int := 999

/-- The variables of a shell that begins in a directory with an environment. -/
def initialBindings (isStrict : Bool) (name : String) (s : State) : Bindings Variable :=
  let environment := s.environment
  let usual : Bindings Variable :=
    Bindings.ofList ((usualVariables isStrict).map fun v => (v.1, Variable.ofText v.2))
  let exported (t : String) : Variable := ⟨.text t, { Attributes.none with isExported := true }⟩
  let own := ownNames isStrict
  let given := (environment.filter fun v => isName v.1.toList && !own.contains v.1).map fun v =>
    (v.1, exported v.2)
  let all := usual.insertAll given
  let directory := (environment.lookup "PWD").filter fun p =>
    Path.isAbsolute p && Path.normal p == s.directory
  let all := all.insert "PWD" (exported (directory.getD s.directory))
  if isStrict then all
  else
    let unset : Variable := ⟨.missing, { Attributes.none with isExported := true }⟩
    let depth := nesting environment
    let all := all.insert "SHLVL" (exported (toString (if deepest < depth then 1 else depth)))
    let isDirectory (path : String) : Bool :=
      match s.world.files.find s.directory path with
      | .ok (_, .directory) => true
      | _ => false
    let all := if (environment.lookup "OLDPWD").any isDirectory then all
      else all.insert "OLDPWD" unset
    let all := optionVariables.foldl (fun (all : Bindings Variable) name =>
      if (all.get? name).isSome then all.insert name unset else all) all
    let all := if name.contains '/' then all.insert "BASH" (.ofText name) else all
    let version := ["5", "2", "15", "1", "release", "x86_64-pc-linux-gnu"]
    all.insert "BASH_VERSINFO"
      ⟨Value.numbered version, { Attributes.none with isReadOnly := true }⟩

def shell (isStrict : Bool) (name : String) (s : State) : State :=
  { s with
    name := name
    isStrict := isStrict
    options := if isStrict then [] else ["braceexpand", "hashall", "interactive-comments"]
    extras := if isStrict then [] else Builtin.initialExtras
    bindings := initialBindings isStrict name s
    passed := if isStrict then []
      else s.environment.filter fun v =>
        !isName v.1.toList && !v.1.isEmpty && (functionName? v.1 v.2).isNone
    scopes := []
    parameters := []
    functions := []
    aliases := []
    disabled := []
    completions := []
    found := []
    directoryStack := []
    status := 0
    innerStatus := none
    stageStatuses := []
    line := 1
    compoundLine := 1
    source := name
    functionSource := "environment"
    caller := ""
    loopDepth := 0
    isSourced := false
    depth := 0
    shell := s.process
    isReplaced := false
    isLast := false
    traps := s.traps.filter (·.2.isEmpty)
    outerTraps := []
    isTrapping := false
    current := none
    keepsCurrent := false
    jobs := []
    inherited := s.inherited.map fun j => { j with number := 0 }
    jobCount := 0
    lastJob := none
    coprocess := none
    ended := some 0
    origin := ""
    reserved := []
    lastArgument := name
    isSubstituting := false
    handed := none
    optionPlace := 0
    isTested := false
    lostStatus := 127
    failedCalls := none
    lostCount := none
    traceDepth := 0
    lastCharset := .bytes
    ignoresNames := false
    hasLostOutput := false
    warnings := [] }

end Startup

end GatedPipeline.Shell
