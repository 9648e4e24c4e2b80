import GatedPipeline.Bindings
import GatedPipeline.Shell.Quoting

namespace GatedPipeline.Shell

/-- A list has its elements by ascending number, a table its latest keys first. -/
inductive Value where
  | missing
  | text (s : String)
  | list (elements : List (Nat × String))
  | table (entries : List (String × String))
deriving DecidableEq, Repr

structure Attributes where
  isExported : Bool
  isReadOnly : Bool
  isNumber : Bool
  isLower : Bool
  isUpper : Bool
  isReference : Bool
deriving DecidableEq, Repr

def Attributes.none : Attributes := ⟨false, false, false, false, false, false⟩

structure Variable where
  value : Value
  attributes : Attributes
deriving DecidableEq, Repr

namespace Value

/-- The place of a key in a table of 1024 places. -/
def place (key : String) : Nat :=
  (key.toList.foldl (fun h c =>
    let byte := if c.toNat < 128 then c.toNat else Nat.pow 2 32 - 256 + c.toNat
    ((h * 16777619) % Nat.pow 2 32) ^^^ byte) 2166136261) % 1024

def insertNumbered (n : Nat) (s : String) : List (Nat × String) → List (Nat × String)
  | [] => [(n, s)]
  | (m, t) :: rest =>
    if n = m then (n, s) :: rest
    else if n < m then (n, s) :: (m, t) :: rest
    else (m, t) :: insertNumbered n s rest

def insertKeyed (key s : String) (entries : List (String × String)) : List (String × String) :=
  if entries.any (·.1 == key) then entries.map fun e => if e.1 == key then (key, s) else e
  else (key, s) :: entries

def numbered (items : List String) : Value := .list (items.mapIdx fun i t => (i, t))

/-- The entries of a table as they are listed: by place. -/
def listed (entries : List (String × String)) : List (String × String) :=
  entries.mergeSort fun a b => place a.1 ≤ place b.1

/-- The value without a subscript: that of the element 0. -/
def plain? : Value → Option String
  | .missing => none
  | .text s => some s
  | .list es => es.lookup 0
  | .table es => es.lookup "0"

def all : Value → List String
  | .missing => []
  | .text s => [s]
  | .list es => es.map (·.2)
  | .table es => (listed es).map (·.2)

def keys : Value → List String
  | .missing => []
  | .text _ => ["0"]
  | .list es => es.map fun e => toString e.1
  | .table es => (listed es).map (·.1)

/-- The elements as a list has them. -/
def elements : Value → List (Nat × String)
  | .text s => [(0, s)]
  | .list es => es
  | _ => []

def next (v : Value) : Nat := (v.elements.getLast?.map (·.1 + 1)).getD 0

def isTable : Value → Bool
  | .table _ => true
  | _ => false

def isList : Value → Bool
  | .list _ => true
  | _ => false

end Value

namespace Variable

def empty : Variable := ⟨.missing, .none⟩

def ofText (s : String) : Variable := ⟨.text s, .none⟩

def letters (v : Variable) : String :=
  let a := v.attributes
  let flags :=
    [(v.value.isList, 'a'), (v.value.isTable, 'A'), (a.isNumber, 'i'), (a.isReference, 'n'),
      (a.isReadOnly, 'r'), (a.isExported, 'x'), (a.isLower, 'l'), (a.isUpper, 'u')]
  String.ofList ((flags.filter (·.1)).map (·.2))

def key (k : Charset) (s : String) : String :=
  if s.isEmpty || Quoting.isDelicate s || Quoting.needsDollar k s then Quoting.declared k s else s

def elementsShown (k : Charset) (v : Value) : String :=
  match v with
  | .list es =>
    "(" ++ " ".intercalate (es.map fun e =>
      "[" ++ toString e.1 ++ "]=" ++ Quoting.declared k e.2) ++ ")"
  | .table es =>
    "(" ++ String.join ((Value.listed es).map fun e =>
      "[" ++ key k e.1 ++ "]=" ++ Quoting.declared k e.2 ++ " ") ++ ")"
  | _ => ""

def declaration (k : Charset) (name : String) (v : Variable) : String :=
  let flags := v.letters
  let head := "declare -" ++ (if flags.isEmpty then "-" else flags) ++ " " ++ name
  match v.value with
  | .missing => head
  | .text s => head ++ "=" ++ Quoting.declared k s
  | .list [] => head ++ "=()"
  | .table [] => head ++ "=()"
  | value => head ++ "=" ++ elementsShown k value

def assignment (k : Charset) (name : String) (v : Variable) : String :=
  match v.value with
  | .missing => name
  | .text s => name ++ "=" ++ if Quoting.needsDollar k s then Quoting.dollar k s
      else if s.isEmpty then "" else Quoting.sparing s
  | value => name ++ "=" ++ elementsShown k value

end Variable

end GatedPipeline.Shell
