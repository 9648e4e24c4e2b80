import GatedPipeline.Shell.Builtin.Basic
import GatedPipeline.Shell.Elements
import GatedPipeline.Shell.Printer

namespace GatedPipeline.Shell

/-- An argument of a command that declares: a text, or an assignment of elements. -/
inductive Argument where
  | text (s : String)
  | elements (name : String) (appends : Bool) (items : List Element)

namespace Argument

/-- An argument where no elements are expected. -/
def shown : Argument → String
  | .text s => s
  | .elements name .. => name

end Argument

namespace Builtin

/-- What a declaration is about: which attributes are set and cleared, and where. -/
structure Declaring where
  command : String
  isLocal : Bool
  isGlobal : Bool
  sets : List Char
  clears : List Char
deriving Repr

def declaredAttributes (d : Declaring) (a : Attributes) : Attributes :=
  let after (c : Char) (old : Bool) : Bool :=
    if d.sets.contains c then true else if d.clears.contains c then false else old
  let both := d.sets.contains 'l' && d.sets.contains 'u'
  { a with
    isExported := after 'x' a.isExported
    isNumber := after 'i' a.isNumber
    isReference := after 'n' a.isReference
    isLower := !both && (if d.sets.contains 'u' then false else after 'l' a.isLower)
    isUpper := !both && (if d.sets.contains 'l' then false else after 'u' a.isUpper) }

def isNumbered : Value → Bool
  | .list _ => true
  | .text _ => true
  | _ => false

def declaredValue (d : Declaring) (v : Value) : Except String Value :=
  if d.sets.contains 'A' then
    match v with
    | .list _ => .error "cannot convert indexed to associative array"
    | .text t => .ok (.table [("0", t)])
    | .missing => .ok (.table [])
    | v => .ok v
  else if d.sets.contains 'a' then
    match v with
    | .table _ => .error "cannot convert associative to indexed array"
    | .text t => .ok (.list [(0, t)])
    | .missing => .ok (.list [])
    | v => .ok v
  else if (d.clears.contains 'a' && v.isList) || (d.clears.contains 'A' && v.isTable) then
    .error "cannot destroy array variables in this way"
  else .ok v

/-- Makes a variable of the called function, unless it is one already. -/
def makeLocal (command name : String) : Act Bool := do
  let s ← get
  if (s.local? name).isSome then return true
  else
    let old := s.lookup? name
    if old.any (·.attributes.isReadOnly) then
      Act.fault (command ++ ": " ++ name ++ ": readonly variable") 1
      return false
    else
      let isExported := old.any (·.attributes.isExported)
      modify fun s => s.modifyLocal name fun _ =>
        ⟨.missing, { Attributes.none with isExported := isExported }⟩
      return true

def number : String → Act Int := evaluateArithmetic ""

/-- A text names a variable or an element of one, or nothing. -/
def namesVariable (s : String) : Bool :=
  s.isEmpty ||
    match Parameter.named? false s.toList with
    | some (name, _, []) => Shell.isName name.toList
    | _ => false

/-- The options will be as they are now when the function ends. -/
def keepOptions : Act Unit :=
  modify fun s =>
    let rec go : List Scope → List Scope
      | [] => []
      | scope :: rest =>
        if scope.isCall then { scope with options := scope.options.or (some s.options) } :: rest
        else scope :: go rest
    { s with scopes := go s.scopes }

def declareOne (d : Declaring) (argument : Argument) : Act Unit := do
  if d.isLocal && argument.shown = "-" then return ← keepOptions
  let split : Option (String × Option (Option String × Bool × String)) :=
    match argument with
    | .elements name .. => some (name, none)
    | .text t =>
      match Assignment.ofWord? t with
      | some a => some (a.name, some (a.subscript, a.appends, a.value))
      | none =>
        match Parameter.named? false t.toList with
        | some (name, k, []) =>
          if Shell.isName name.toList && k != some "" then some (name, none) else none
        | _ => none
  match split with
  | none => Act.fault (d.command ++ ": \x60" ++ argument.shown ++ "': not a valid identifier") 1
  | some (written, assigned) =>
    let s ← get
    let name := if d.sets.contains 'n' || d.clears.contains 'n' then written
      else Assigning.resolved s 8 written
    if d.isLocal then
      if !(← makeLocal d.command name) then return ()
    let change (f : Variable → Variable) : Act Unit :=
      modify fun s => if d.isGlobal then s.modifyGlobal name f else s.modifyVariable name f
    let number : String → Act Int := evaluateArithmetic (d.command ++ ": ")
    let s ← get
    let v := (if d.isGlobal then s.bindings.get? name else s.lookup? name).getD Variable.empty
    let assigns := assigned.isSome || (match argument with
      | .elements .. => true
      | _ => false)
    let isPlain := d.command = "export" || d.command = "readonly"
    match isPlain, assigned with
    | true, some (_, appends, t) =>
      Tracing.tell (fun _ => return "") (Tracing.assignment (← get).charset written appends t)
    | _, _ => pure ()
    if v.attributes.isReadOnly && (assigns || d.clears.contains 'r') then
      Act.setStatus 1
      if isPlain then Act.report (name ++ ": readonly variable")
      else Act.complain (d.command ++ ": " ++ name ++ ": readonly variable")
    else if assigned.any (·.1 == some "") then
      Act.setStatus 1
      Act.report (name ++ "[]: bad array subscript")
    else if d.sets.contains 'n' && assigned.any (fun a => !namesVariable a.2.2) then
      let shown := (assigned.map (·.2.2)).getD ""
      Act.fault (d.command ++ ": \x60" ++ shown ++
        "': invalid variable name for name reference") 1
    else if d.sets.contains 'n' && assigned.any (fun a => a.2.2 == name) then
      Act.fault (d.command ++ ": " ++ name ++
        ": nameref variable self references not allowed") 1
    else
      let start : Value :=
        match argument, v.value with
        | .elements .., Value.missing => if d.sets.contains 'A' then .table [] else .list []
        | _, value => value
      match declaredValue d start with
      | .error e => Act.fault (d.command ++ ": " ++ name ++ ": " ++ e) 1
      | .ok value =>
        change fun v => ⟨value, declaredAttributes d v.attributes⟩
        match argument, assigned with
        | .elements _ appends items, _ =>
          let _ ← Assigning.assignElements? number name appends items
        | _, some (k, appends, t) =>
          if d.sets.contains 'n' then change fun v => { v with value := .text t }
          else if d.isGlobal && s.isInFunction then
            let t ← Assigning.converted number (declaredAttributes d v.attributes) t
            change fun v => { v with value := .text t }
          else
            let _ ← Assigning.assign? number name k appends t
        | _, none => pure ()
        if d.sets.contains 'r' then
          change fun v => { v with attributes := { v.attributes with isReadOnly := true } }

def showFunction (name : String) (f : Function) : Act Unit := do
  let s ← get
  say "declare" (Command.definition s.documents (s.hasOption "posix") name f.body ++ "\n")

def showVariables (command : String) (letters : List Char) (vs : Bindings Variable) : Act Unit := do
  let chosen := vs.filter fun v => letters.all v.2.letters.toList.contains
  /- The standard knows these commands only, and no letters. -/
  let isPlain := (← get).hasOption "posix" && (command = "export" || command = "readonly")
  let k := (← get).charset
  let shown (v : String × Variable) : String :=
    if isPlain then command ++ " " ++ v.1 ++ (match v.2.value with
      | .missing => ""
      | .text t => "=" ++ Quoting.declared k t
      | value => "=" ++ Variable.elementsShown k value)
    else v.2.declaration k v.1
  say command (String.join (chosen.map fun v => shown v ++ "\n"))

def functionLine (name : String) (f : Function) : String :=
  "declare -f" ++ (if f.isExported then "x" else "") ++ " " ++ name ++ "\n"

def declareFunctions (d : Declaring) (onlyNames : Bool) (names : List String) : Act Unit := do
  let s ← get
  if names.isEmpty then
    if onlyNames then
      say d.command (String.join (s.functions.map fun f => functionLine f.1 f.2))
    else s.functions.forM fun f => showFunction f.1 f.2
  else
    names.forM fun name => do
      match s.functions.get? name with
      | none => Act.setStatus 1
      | some f =>
        if d.sets.contains 'x' then
          modify fun s => { s with
            functions := s.functions.insert name { f with isExported := true } }
        else if onlyNames then say d.command (name ++ "\n")
        else showFunction name f

def showAll : Act Unit := do
  let s ← get
  let vs := s.visible.filter fun v => v.2.value != .missing
  if s.isStrict then
    Act.put 1 (String.join (vs.map fun v =>
      v.1 ++ "=" ++ Quoting.plain ((v.2.value.plain?).getD "") ++ "\n"))
  else
    Act.put 1 (String.join (vs.map fun v => v.2.assignment s.charset v.1 ++ "\n"))
    if !s.hasOption "posix" then s.functions.forM fun f => showFunction f.1 f.2

def showNamed (command : String) (names : List String) : Act Unit :=
  names.forM fun name => do
    let s ← get
    let computed := (s.computed? name).map fun value => Variable.mk value .none
    match (s.lookup? name).or computed with
    | some v => say command (v.declaration s.charset name ++ "\n")
    | none => Act.fault (command ++ ": " ++ name ++ ": not found") 1

/-- Reads the options of a declaration, which are set with a minus sign and cleared with a plus. -/
def declarationOptions (known : List Char) :
    List String → List Char → List Char → Except String (List Char × List Char × Nat)
  | [], sets, clears => .ok (sets, clears, 0)
  | a :: rest, sets, clears =>
    match a.toList with
    | ['-', '-'] => .ok (sets, clears, 1)
    | sign :: c :: cs =>
      if sign == '-' || sign == '+' then
        match (c :: cs).find? fun x => !known.contains x with
        | some x => .error (String.ofList [sign, x])
        | none =>
          let (sets, clears) := if sign == '-' then (sets ++ c :: cs, clears)
            else (sets, clears ++ c :: cs)
          (declarationOptions known rest sets clears).map fun r => (r.1, r.2.1, r.2.2 + 1)
      else .ok (sets, clears, 0)
    | _ => .ok (sets, clears, 0)

def declare (command : String) (args : List Argument) : Act Unit := do
  let s ← get
  Act.setStatus 0
  if command = "local" && !s.isInFunction then
    Act.fault "local: can only be used in a function" 1
  else
    match declarationOptions "aAfFgiIlnprtuxc".toList (args.map Argument.shown) [] [] with
    | .error option => refuseOption command option
    | .ok (sets, clears, count) =>
      let rest := args.drop count
      let isLocal := s.isInFunction && !sets.contains 'g'
      let d : Declaring := ⟨command, isLocal, sets.contains 'g', sets, clears⟩
      let attributes := sets.filter "aAilnrux".toList.contains
      if sets.contains 'f' || sets.contains 'F' then
        declareFunctions d (sets.contains 'F') (rest.map Argument.shown)
      else if sets.contains 'p' && !rest.isEmpty then
        showNamed command (rest.map Argument.shown)
      else if rest.isEmpty then
        if command = "local" then
          let own := ((s.scopes.find? (·.isCall)).map Scope.bindings).getD []
          showVariables command attributes own
        else if sets.isEmpty && clears.isEmpty then showAll
        else showVariables command attributes s.visible
      else rest.forM (declareOne d)

def markVariables (command : String) (letter : Char) (args : List Argument) : Act Unit := do
  Act.setStatus 0
  let known := if letter == 'x' then "fnp" else "aAfp"
  match declarationOptions known.toList
      (args.map fun a => if a.shown.startsWith "+" then "" else a.shown) [] [] with
  | .error option => refuseOption command option
  | .ok (sets, _, count) =>
    let rest := args.drop count
    let clears := if sets.contains 'n' then [letter] else []
    let d : Declaring := ⟨command, false, false,
      if clears.isEmpty then letter :: sets.filter "aA".toList.contains else [], clears⟩
    if sets.contains 'f' && !rest.isEmpty then
      (rest.map Argument.shown).forM fun name => do
        match (← get).functions.get? name with
        | none => Act.fault (command ++ ": " ++ name ++ ": not a function") 1
        | some f =>
          if letter == 'x' then
            modify fun s => { s with
              functions := s.functions.insert name { f with isExported := clears.isEmpty } }
    else if rest.isEmpty then showVariables command [letter] (← get).visible
    else
      let isElement (a : Argument) : Bool :=
        (Assignment.ofWord? a.shown).any fun x => x.subscript.isSome
      match rest.find? isElement with
      | some a => Act.fault (command ++ ": \x60" ++ a.shown ++ "': not a valid identifier") 1
      | none => rest.forM (declareOne d)

def markPlainly (command : String) (letter : Char) (args : List Argument) : Act Unit := do
  Act.setStatus 0
  withOptions command "p" (args.map Argument.shown) fun o => do
    let s ← get
    if o.rest.isEmpty then
      let chosen := s.visible.filter fun v => v.2.letters.contains letter
      Act.put 1 (String.join (chosen.map fun v =>
        command ++ " " ++ v.1 ++ (match v.2.value.plain? with
          | some t => "=" ++ Quoting.plain t
          | none => "") ++ "\n"))
    else
      o.rest.forM fun a => do
        let (name, value) :=
          match Assignment.inDialect? true a with
          | some x => (x.name, some x.value)
          | none => (a, none)
        if !Shell.isName name.toList then
          refuse command (String.ofList (a.toList.takeWhile (· != '=')) ++ ": bad variable name") 2
        match value with
        | some t =>
          if ((← get).lookup? name).any (·.attributes.isReadOnly) then
            refuse command (name ++ ": is read only") 2
          store name t
        | none => pure ()
        modify fun s => s.modifyVariable name fun v => { v with attributes :=
          if letter == 'x' then { v.attributes with isExported := true }
          else { v.attributes with isReadOnly := true } }

/-- Variables of a function in a plain shell: they begin with the values that are seen. -/
def localPlainly (args : List String) : Act Unit := do
  let s ← get
  if !s.isInFunction then refuse "local" "not in a function" 2
  Act.setStatus 0
  args.forM fun a => do
    let (name, value) :=
      match Assignment.inDialect? true a with
      | some x => (x.name, some x.value)
      | none => (a, none)
    if a = "-" then return ← keepOptions
    let s ← get
    if !Shell.isName name.toList then
      refuse "local" (String.ofList (a.toList.takeWhile (· != '=')) ++ ": bad variable name") 2
    let old := (s.lookup? name).getD Variable.empty
    if value.isSome && old.attributes.isReadOnly then refuse "local" (name ++ ": is read only") 2
    if (s.local? name).isNone then modify fun s => s.modifyLocal name fun _ => old
    match value with
    | some t => store name t
    | none => pure ()

def unset (args : List String) : Act Unit := do
  Act.setStatus 0
  withOptions "unset" (if ← Act.isStrict then "fv" else "fvn") args fun o => do
    if o.has 'f' && o.has 'v' && !(← Act.isStrict) then
      Act.fault "unset: cannot simultaneously unset a function and a variable" 1
    else
      o.rest.forM fun a => do
        let s ← get
        let function : Act Unit :=
          modify fun s => { s with functions := s.functions.erase a }
        if o.has 'f' then function
        else if s.isStrict then
          if !Shell.isName a.toList then refuse "unset" (a ++ ": bad variable name") 2
          else if (s.lookup? a).any (·.attributes.isReadOnly) then
            refuse "unset" (a ++ ": is read only") 2
          else modify fun s => s.forgetVariable a
        else
          match Parameter.named? false a.toList with
          | some (written, k, []) =>
            let name := if o.has 'n' then written else Assigning.resolved s 8 written
            if (s.lookup? name).any (·.attributes.isReadOnly) then
              Act.fault ("unset: " ++ name ++ ": cannot unset: readonly variable") 1
            else
              match k with
              | some k => element name k
              | none =>
                if (s.lookup? name).isSome then modify fun s => s.forgetVariable name
                else if !o.has 'v' then function
          | _ => if !o.has 'v' then function
where
  element (name k : String) : Act Unit := do
    let s ← get
    let put (value : Value) : Act Unit :=
      modify fun s => s.modifyVariable name fun v => { v with value := value }
    match (s.lookup? name).map Variable.value with
    | some (Value.table es) =>
      if k = "@" || k = "*" then put (.table [])
      else put (.table (es.filter (·.1 != Quoting.removed k)))
    | some (Value.list es) =>
      if k = "@" || k = "*" then modify fun s => s.forgetVariable name
      else
        match ← Assigning.index? number es k with
        | some i => put (.list (es.filter (·.1 != i)))
        | none => Act.fault ("unset: [" ++ k ++ "]: bad array subscript") 1
    | some (Value.text _) =>
      if (← number k) == 0 then modify fun s => s.forgetVariable name
      else Act.fault ("unset: " ++ name ++ ": not an array variable") 1
    | _ => return ()

end Builtin

end GatedPipeline.Shell
