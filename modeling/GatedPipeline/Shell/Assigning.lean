import GatedPipeline.Shell.Lexer
import GatedPipeline.Shell.Printer
import GatedPipeline.Shell.State

namespace GatedPipeline.Shell

structure Element where
  subscript : Option String
  appends : Bool
  value : String
deriving DecidableEq, Repr

namespace Assigning

/-- The name that a reference, or a chain of them, leads to. -/
def resolved (s : State) : Nat → String → String
  | 0, name => name
  | n + 1, name =>
    match s.lookup? name with
    | some v =>
      match v.attributes.isReference, v.value with
      | true, .text t => if t.isEmpty then name else resolved s n t
      | _, _ => name
    | none => name

def target (s : State) (name : String) : String × Option String :=
  let r := resolved s 8 name
  match Assignment.ofWord? (r ++ "=") with
  | some a => (a.name, a.subscript)
  | none => (r, none)

def value? (name : String) : Act (Option Value) := do
  let s ← get
  if name = "RANDOM" then set { s with random := (s.random * 1103515245 + 12345) % Nat.pow 2 31 }
  match s.computed? name with
  | some v => return some v
  | none =>
    match (s.lookup? name).map Variable.value with
    | some Value.missing => return none
    | v => return v

/-- What is said of a variable that has no value and must have one. -/
def unbound (name : String) : Act α := do
  let s ← get
  if s.isStrict then
    Act.fault (name ++ ": parameter not set") 2
  else
    Act.fault (name ++ ": unbound variable") s.givenUpStatus
  throw .leaving

section

/- What gives a text its number. -/
variable (number : String → Act Int)

/-- A subscript of a list counts from the end if it is negative. -/
def index? (elements : List (Nat × String)) (subscript : String) : Act (Option Nat) := do
  let n ← number subscript
  if n < 0 then
    let m := n + ((elements.getLast?.map (·.1 + 1)).getD 0 : Nat)
    return if m < 0 then none else some m.toNat
  else return some n.toNat

def element? (name : String) (subscript : Option String) : Act (Option String) := do
  let s ← get
  let (name, inner) := target s name
  let numbered (elements : List (Nat × String)) (isList : Bool) (k : String) :
      Act (Option String) := do
    match ← index? number (if isList then elements else []) k with
    | some i => return elements.lookup i
    | none =>
      Act.report (name ++ ": bad array subscript")
      return none
  match ← value? name, subscript.or inner with
  | none, none => return none
  | none, some k => numbered [] false k
  | some v, none => return v.plain?
  | some (.table es), some k =>
    let key := Quoting.removed k
    if key.isEmpty then Act.report (name ++ ": bad array subscript")
    return es.lookup key
  | some v, some k => numbered v.elements v.isList k

def converted (a : Attributes) (value : String) : Act String := do
  if a.isNumber then return toString (← number value)
  else
    let k := (← get).charset
    if a.isUpper then return k.onUnits (·.map k.toUpper) value
    else if a.isLower then return k.onUnits (·.map k.toLower) value
    else return value

def appended (a : Attributes) (old value : String) : Act String := do
  if a.isNumber then
    return toString (Int.bmod ((← number old) + (← number value)) (Nat.pow 2 64))
  else converted number a (old ++ value)

/-- A message if a variable must not be changed. -/
def isWritable (name : String) : Act Bool := do
  let s ← get
  if (s.lookup? name).any (·.attributes.isReadOnly) then
    if s.isStrict then
      Act.fault (name ++ ": is read only") 2
      throw .leaving
    else
      Act.setStatus 1
      Act.report (name ++ ": readonly variable")
      return false
  else return true

def noticed (name : String) : Act Unit := do
  if name = "OPTIND" then modify fun s => { s with optionPlace := 0 }
  if (← get).hasOption "allexport" then
    modify fun s => s.modifyVariable name fun v =>
      { v with attributes := { v.attributes with isExported := true } }

/-- Sets a variable to a value, or adds the value to it. Tells whether that is allowed. -/
def set? (name : String) (appends : Bool) (value : String) : Act Bool := do
  let s ← get
  let (name, inner) := target s name
  if !(← isWritable name) then return false
  let v := (s.lookup? name).getD Variable.empty
  let old := ((← value? name).bind Value.plain?).getD ""
  let new ← if appends then appended number v.attributes old value
    else converted number v.attributes value
  modify fun s => s.modifyVariable name fun v =>
    { v with value :=
        match v.value, inner with
        | .list es, none => .list (Value.insertNumbered 0 new es)
        | .table es, none => .table (Value.insertKeyed "0" new es)
        | .list es, some k => .list (Value.insertNumbered (k.toNat?.getD 0) new es)
        | .table es, some k => .table (Value.insertKeyed k new es)
        | _, _ => .text new }
  noticed name
  return true

/-- Sets an element of a variable, which becomes a list if it is none. -/
def setElement? (name subscript : String) (appends : Bool) (value : String) : Act Bool := do
  let s ← get
  let name := resolved s 8 name
  if !(← isWritable name) then return false
  let v := (s.lookup? name).getD Variable.empty
  let new (old : String) : Act String :=
    if appends then appended number v.attributes old value else converted number v.attributes value
  let refused : Act Bool := do
    Act.setStatus 1
    Act.report (name ++ "[" ++ subscript ++ "]: bad array subscript")
    return false
  match v.value with
  | .table es =>
    let key := Quoting.removed subscript
    if key.isEmpty then return ← refused
    let t ← new ((es.lookup key).getD "")
    modify fun s => s.modifyVariable name fun v =>
      { v with value := .table (Value.insertKeyed key t es) }
    return true
  | value =>
    match ← index? number value.elements subscript with
    | none => refused
    | some i =>
      let t ← new ((value.elements.lookup i).getD "")
      modify fun s => s.modifyVariable name fun v =>
        { v with value := .list (Value.insertNumbered i t value.elements) }
      noticed name
      return true

def assign? (name : String) (subscript : Option String) (appends : Bool) (value : String) :
    Act Bool := do
  match subscript with
  | none => set? number name appends value
  | some k => setElement? number name k appends value

/-- Sets a variable or an element; what cannot be set gives up the line. -/
def assignElement (name : String) (subscript : Option String) (appends : Bool) (value : String) :
    Act Unit := do
  if !(← assign? number name subscript appends value) then
    throw (if (← get).hasOption "errexit" then .leaving else .discarding)

def listed (name : String) (a : Attributes) : Nat → List (Nat × String) → List Element →
    Act (List (Nat × String))
  | _, es, [] => return es
  | next, es, e :: rest => do
    match e.subscript with
    | none =>
      let t ← converted number a e.value
      listed name a (next + 1) (Value.insertNumbered next t es) rest
    | some k =>
      match ← index? number es k with
      | some i =>
        let old := (es.lookup i).getD ""
        let t ← if e.appends then appended number a old e.value else converted number a e.value
        listed name a (i + 1) (Value.insertNumbered i t es) rest
      | none =>
        Act.report ("[" ++ k ++ "]=" ++ e.value ++ ": bad array subscript")
        listed name a next es rest

def paired (a : Attributes) : List (String × String) → List Element →
    Act (List (String × String))
  | es, [] => return es
  | es, [e] => return Value.insertKeyed e.value "" es
  | es, e :: f :: rest => do
    let t ← converted number a f.value
    paired a (Value.insertKeyed e.value t es) rest

def subscripted (name : String) (a : Attributes) : List (String × String) → List Element →
    Act (List (String × String))
  | es, [] => return es
  | es, e :: rest => do
    match e.subscript with
    | some k =>
      let old := (es.lookup k).getD ""
      let t ← if e.appends then appended number a old e.value else converted number a e.value
      subscripted name a (Value.insertKeyed k t es) rest
    | none =>
      Act.report (name ++ ": " ++ e.value ++
        ": must use subscript when assigning associative array")
      subscripted name a es rest

/-- Puts elements into a table: keys and values by turns if the first one has no subscript. -/
def keyed (name : String) (a : Attributes) (es : List (String × String))
    (elements : List Element) : Act (List (String × String)) :=
  if elements.head?.any (·.subscript.isNone) then paired number a es elements
  else subscripted number name a es elements

/-- Assigns elements to a variable, in place of those that it has or after them. -/
def assignElements? (name : String) (appends : Bool) (elements : List Element) : Act Bool := do
  let s ← get
  let name := resolved s 8 name
  if !(← isWritable name) then return false
  let v := (s.lookup? name).getD Variable.empty
  let value ← do
    match v.value with
    | .table es =>
      pure (Value.table (← keyed number name v.attributes (if appends then es else []) elements))
    | value =>
      let es := if appends then value.elements else []
      let next := if appends then value.next else 0
      pure (Value.list (← listed number name v.attributes next es elements))
  modify fun s => s.modifyVariable name fun v => { v with value := value }
  noticed name
  return true

end

/-- Sets a variable to a text as it is. -/
def setPlain (name value : String) : Act Bool := set? (fun _ => return 0) name false value

end Assigning

end GatedPipeline.Shell
