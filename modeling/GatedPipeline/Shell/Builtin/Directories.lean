import GatedPipeline.Shell.Builtin.Basic

namespace GatedPipeline.Shell.Builtin

def enter (path : String) : Act Unit := do
  let old := (← get).directory
  modify fun s => { s with directory := path }
  let put (name value : String) (isExported : Bool) : Act Unit :=
    modify fun s => s.modifyVariable name fun v =>
      ⟨.text value, { v.attributes with isExported := v.attributes.isExported || isExported }⟩
  let isStrict ← Act.isStrict
  put "OLDPWD" old isStrict
  put "PWD" path isStrict

/-- Where a path leads, with the reason if it leads to no directory. -/
def directory? (s : State) (path : String) : Except String String :=
  if path.isEmpty then .ok s.directory
  else
    match s.world.files.find s.directory path with
    | .ok (_, .file ..) => .error FileFault.notDirectory.reason
    | .ok (place, .directory) => .ok place
    | .error f => .error f.reason

def fromHome (s : State) (path : String) : String :=
  match s.value? "HOME" with
  | some home =>
    if home.isEmpty || home = "/" then path
    else if path = home then "~"
    else if path.startsWith (home ++ "/") then
      "~" ++ String.ofList (path.toList.drop home.length)
    else path
  | none => path

/-- Looks a directory up, also from the directories in which it may be looked for. -/
def searched (s : State) (path : String) : Except String (String × Bool) :=
  let isDirect := path.startsWith "/" || path.startsWith "./" || path.startsWith "../" ||
    path = "." || path = ".." || path.isEmpty
  let fronts := if isDirect then []
    else (((s.value? "CDPATH").filter (!·.isEmpty)).map (Text.splitAt ':')).getD []
  let found := fronts.findSome? fun front =>
    match directory? s (if front.isEmpty then path else front ++ "/" ++ path) with
    | .ok place => some (place, !front.isEmpty)
    | .error _ => none
  match found with
  | some r => .ok r
  | none => (directory? s path).map (·, false)

def cd (args : List String) : Act Unit := do
  let s ← get
  withOptions "cd" (if s.isStrict then "LP" else "LPe@") args fun o => do
    let go (path shown : String) (isShown : Bool) : Act Unit := do
      match searched s path with
      | .ok (place, isElsewhere) =>
        enter place
        Act.setStatus 0
        if isShown || isElsewhere then say "cd" (place ++ "\n")
      | .error e =>
        if s.isStrict then refuse "cd" ("can't cd to " ++ shown) 2
        else Act.fault ("cd: " ++ Quoting.visible (← get).charset shown ++ ": " ++ e) 1
    match o.rest with
    | [] =>
      match s.value? "HOME" with
      | some home => go home home false
      | none => if s.isStrict then go "" "" false else Act.fault "cd: HOME not set" 1
    | ["-"] => previous go
    | path :: more =>
      if s.isStrict && path = "-" then previous go
      else if !s.isStrict && !more.isEmpty then Act.fault "cd: too many arguments" 1
      else go path path false
where
  previous (go : String → String → Bool → Act Unit) : Act Unit := do
    let s ← get
    match s.value? "OLDPWD" with
    | some old => go old old true
    | none => if s.isStrict then go "" "" true else Act.fault "cd: OLDPWD not set" 1

def pwd (args : List String) : Act Unit := do
  withOptions "pwd" "LP" args fun _ => do
    Act.setStatus 0
    say "pwd" ((← get).directory ++ "\n")

def showStack (name : String) : Act Unit := do
  let s ← get
  say name (" ".intercalate ((s.directory :: s.directoryStack).map (fromHome s)) ++ "\n")

/-- A place on the stack, counted from its top or from its bottom. -/
def place? (size : Nat) (arg : String) : Option (Option Nat) :=
  match arg.toList with
  | '+' :: ds =>
    if !ds.isEmpty && ds.all Char.isDigit then
      let n := ((String.ofList ds).toNat?).getD 0
      some (if n < size then some n else none)
    else none
  | '-' :: ds =>
    if !ds.isEmpty && ds.all Char.isDigit then
      let n := ((String.ofList ds).toNat?).getD 0
      some (if n < size then some (size - 1 - n) else none)
    else none
  | _ => none

/-- Makes a stack the current one; its top is entered if that is wanted. -/
def setStack (name : String) (enters : Bool) (stack : List String) : Act Unit := do
  let s ← get
  match stack with
  | [] => return ()
  | top :: rest =>
    match directory? s top with
    | .error e => Act.fault (name ++ ": " ++ Quoting.visible (← get).charset top ++ ": " ++ e) 1
    | .ok place =>
      modify fun s => { s with directoryStack := rest }
      if enters then enter place
      Act.setStatus 0
      showStack name

def badPlace (name arg : String) (isEmpty : Bool) : Act Unit :=
  Act.fault (name ++ ": " ++ (if isEmpty then "directory stack empty"
    else (if name = "dirs" then String.ofList (arg.toList.drop 1) else arg) ++
      ": directory stack index out of range")) 1

def badNumber (name arg : String) : Act Unit := do
  Act.complain (name ++ ": " ++ arg ++ ": invalid number")
  showUsage name

def pushd (args : List String) : Act Unit := do
  let s ← get
  let (stays, args) :=
    match args with
    | "-n" :: rest => (true, rest)
    | _ => (false, args)
  let whole := s.directory :: s.directoryStack
  match operands args with
  | [] =>
    match s.directoryStack with
    | second :: rest => setStack "pushd" (!stays) (second :: s.directory :: rest)
    | [] => Act.fault "pushd: no other directory" 1
  | [a] =>
    match place? whole.length a with
    | some (some n) => setStack "pushd" (!stays) (whole.drop n ++ whole.take n)
    | some none => badPlace "pushd" a s.directoryStack.isEmpty
    | none =>
      if a.startsWith "-" && args.head? != some "--" && a != "-" then badNumber "pushd" a
      else if stays then
        set { s with directoryStack := a :: s.directoryStack, status := 0 }
      else
        let path := if a = "-" then (s.value? "OLDPWD").getD "" else a
        match searched s path with
        | .ok (place, _) => setStack "pushd" true (place :: whole)
        | .error e => Act.fault ("pushd: " ++ Quoting.visible (← get).charset a ++ ": " ++ e) 1
  | _ => Act.fault "pushd: too many arguments" 1

def popd (args : List String) : Act Unit := do
  let s ← get
  let (stays, args) :=
    match args with
    | "-n" :: rest => (true, rest)
    | _ => (false, args)
  let whole := s.directory :: s.directoryStack
  match operands args with
  | [] =>
    match s.directoryStack with
    | [] => Act.fault "popd: directory stack empty" 1
    | second :: rest =>
      if stays then
        set { s with directoryStack := rest, status := 0 }
        showStack "popd"
      else setStack "popd" true (second :: rest)
  | a :: _ =>
    match place? whole.length a with
    | some (some n) =>
      if s.directoryStack.isEmpty then badPlace "popd" a true
      else setStack "popd" (!stays && n == 0) (whole.eraseIdx n)
    | some none => badPlace "popd" a s.directoryStack.isEmpty
    | none =>
      if a.startsWith "-" then badNumber "popd" a
      else
        Act.complain ("popd: " ++ a ++ ": invalid argument")
        showUsage "popd"

def dirs (args : List String) : Act Unit := do
  let s ← get
  Act.setStatus 0
  let whole := s.directory :: s.directoryStack
  let flags := args.filter fun a =>
    a.startsWith "-" && (place? whole.length a).isNone && a != "-" && a != "--"
  let letters := flags.flatMap fun a => a.toList.drop 1
  match letters.find? fun c => !"clpv".toList.contains c with
  | some c => refuseOption "dirs" (String.ofList ['-', c])
  | none =>
    let shown (d : String) : String := if letters.contains 'l' then d else fromHome s d
    if letters.contains 'c' then set { s with directoryStack := [], status := 0 }
    else
      match args.filter fun a => !flags.contains a && a != "--" with
      | a :: _ =>
        match place? whole.length a with
        | some (some n) => say "dirs" (shown ((whole[n]?).getD "") ++ "\n")
        | some none => badPlace "dirs" a s.directoryStack.isEmpty
        | none =>
          Act.complain ("dirs: " ++ a ++ ": invalid option")
          showUsage "dirs"
      | [] =>
        if letters.contains 'v' then
          say "dirs" (String.join (whole.mapIdx fun i d =>
            (if i < 10 then " " else "") ++ toString i ++ "  " ++ shown d ++ "\n"))
        else if letters.contains 'p' then
          say "dirs" (String.join (whole.map fun d => shown d ++ "\n"))
        else say "dirs" (" ".intercalate (whole.map shown) ++ "\n")

end GatedPipeline.Shell.Builtin
