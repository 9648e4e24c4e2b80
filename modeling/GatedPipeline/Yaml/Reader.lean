import GatedPipeline.Definition.Record
import GatedPipeline.Yaml.Mismatch

namespace GatedPipeline.Yaml

/-- The number of the next event, and how many aliases have been followed. -/
structure Walk where
  position : Nat
  jumps : Nat

abbrev Read := ExceptT Fault (StateM Walk)

/-- Where a value stands: its path, how many collections may still be nested there, and the path
and the place of the collection around it. -/
structure Spot where
  path : Path
  depth : Nat
  outer : Path × Place

namespace Spot

/-- How deep collections may be nested. -/
def root : Spot := ⟨[], 128, ([], .start)⟩

def part (s : Spot) (p : Place) (step : PathStep) : Spot := ⟨step :: s.path, s.depth - 1, (s.path, p)⟩

def fails (s : Spot) (p : Place) (m : Mismatch) : Read α := throw (.differs s.path m p)

/-- A fault that is told at the collection around the value. -/
def failsOutside (s : Spot) (m : Mismatch) : Read α := throw (.differs s.outer.1 m s.outer.2)

end Spot

namespace Stream

variable (d : Stream)

def peek : Read (Event × Place) := do
  match d.events[(← get).position]? with
  | some e => pure e
  | none => throw ((d.fault.map .broken).getD .endOfDocument)

def next : Read (Event × Place) := do
  let e ← d.peek
  modify fun w => { w with position := w.position + 1 }
  pure e

def follow (number : Nat) (read : Read α) : Read α := do
  let w ← get
  if d.events.size * 100 < w.jumps + 1 then throw .tooManyJumps
  else
    set (⟨(d.targets.lookup number).getD 0, w.jumps + 1⟩ : Walk)
    let a ← read
    modify fun w' => { w' with position := w.position }
    pure a

/-- Reads the next event or the one that an alias stands for. -/
def resolved (read : Event → Place → Read α) : Read α := do
  match ← d.next with
  | (.alias number, _) => d.follow number do
    let (e, p) ← d.next
    read e p
  | (e, p) => read e p

def ignore : Nat → Nat → Read Unit
  | 0, _ => pure ()
  | fuel + 1, open_ => do
    let left :=
      match (← d.next).1 with
      | .listStart _ | .mappingStart _ => open_ + 1
      | .listEnd | .mappingEnd => open_ - 1
      | _ => open_
    if left = 0 then pure () else ignore fuel left

end Stream

def Event.isEmpty : Event → Bool
  | .nothing | .scalar _ .plain "" => true
  | _ => false

def Spot.unexpected (s : Spot) (p : Place) (expected : String) : Event → Read α
  | .scalar tag style text =>
    match resolve tag style text with
    | .ok r => s.fails p (.wrongKind (.value r) expected)
    | .error asked => s.fails p (.wrongValue (.value (.text text)) asked)
  | .listStart _ | .listEnd => s.fails p (.wrongKind .list expected)
  | .mappingStart _ | .mappingEnd => s.fails p (.wrongKind .mapping expected)
  | .nothing | .alias _ => throw .endOfDocument

/-- Truth values and numbers are plain, or have their tag in a literal block. -/
def isBare (kind : String) (tag : Option String) (style : Style) : Bool :=
  style = .plain ∨ (style = .literal ∧ tag = some (coreTag kind))

/-- What the name of a member adds to the path. -/
def PathStep.ofKey : Event → PathStep
  | .scalar _ _ text => .member text
  | _ => .unnamed

namespace Stream

variable (d : Stream)

def text (s : Spot) (expected : String) : Read String :=
  d.resolved fun e p =>
    match e with
    | .scalar _ _ text => pure text
    | e => s.unexpected p expected e

def truth (s : Spot) : Read Bool :=
  d.resolved fun e p =>
    match e with
    | .scalar tag style text =>
      match if isBare "bool" tag style then truth? text else none with
      | some b => pure b
      | none => s.unexpected p "a boolean" e
    | e => s.unexpected p "a boolean" e

def count (s : Spot) : Read Nat :=
  d.resolved fun e p =>
    match e with
    | .scalar tag style text =>
      let n := if isBare "int" tag style then natural? text.toList else none
      match n.filter (· < Nat.pow 2 64) with
      | some n =>
        if n < Nat.pow 2 32 then pure n
        else s.fails p (.wrongValue (.value (.natural n)) "u32")
      | none => s.unexpected p "u32" e
    | e => s.unexpected p "u32" e

/-- The value behind a local tag that names an alternative has to be null. -/
def nothingTagged (s : Spot) : Read Unit := do
  match ← d.next with
  | (.scalar _ style text, p) =>
    if style = .plain ∧ (text = "" || isNullText text) = true then pure ()
    else s.fails p (.wrongKind (.value (.text text)) "null")
  | (e, p) => s.unexpected p "unit" e

/-- One of some names: a scalar, or a local tag in front of null. -/
def choice (s : Spot) (names : List String) : Read String := do
  let known (name : String) (fails : Mismatch → Read Unit) : Read String := do
    if !names.contains name then fails (.unknownChoice name names)
    pure name
  let tagged (name : String) : Read String := do
    let name ← known name s.failsOutside
    d.nothingTagged s
    pure name
  let here (e : Event) (p : Place) : Read String := do
    let untagged (found : Found) : Read String :=
      s.fails p (.wrongKind found "a YAML tag starting with '!'")
    match e with
    | .scalar tag _ text =>
      match localTag? tag with
      | some name => tagged name
      | none => do
        let _ ← d.next
        known text (s.fails p)
    | .listStart tag =>
      match localTag? tag with
      | some name => tagged name
      | none => untagged .list
    | .mappingStart tag =>
      match localTag? tag with
      | some name => tagged name
      | none => untagged .mapping
    | e => s.unexpected p "" e
  match ← d.peek with
  | (.alias number, _) => do
    let _ ← d.next
    d.follow number do
      let (e, p) ← d.peek
      here e p
  | (e, p) => here e p

/-- Nothing at all, or something that is still to be read. Only plain scalars are nothing; a scalar
with the tag of null has to be. -/
def maybe (s : Spot) (read : Read Json) : Read Json := do
  let here (e : Event) : Read Json := do
    let absent ←
      match e with
      | .nothing => pure true
      | .scalar tag .plain text =>
        match tag with
        | none => pure (text = "" || isNullText text)
        | some t =>
          if t = coreTag "null" then do
            if !isNullText text then s.failsOutside (.wrongValue (.value (.text text)) "null")
            pure true
          else pure false
      | _ => pure false
    if absent then do
      let _ ← d.next
      pure .null
    else read
  match ← d.peek with
  | (.alias number, _) => do
    let _ ← d.next
    d.follow number do here (← d.peek).1
  | (e, _) => here e

/-- The items of a list, the next of which has the given number. -/
def items (s : Spot) (p : Place) (read : Spot → Read α) : Nat → Nat → Read (List α)
  | 0, _ => pure []
  | fuel + 1, index => do
    match (← d.peek).1 with
    | .listEnd => do
      let _ ← d.next
      pure []
    | _ => do
      let a ← read (s.part p (.item index))
      pure (a :: (← items s p read fuel (index + 1)))

def nested (s : Spot) (p : Place) (read : Read α) : Read α :=
  if s.depth = 0 then throw (.tooDeep p) else read

def list (s : Spot) (fuel : Nat) (read : Spot → Read Json) : Read Json :=
  d.resolved fun e p =>
    match e with
    | .listStart _ => nested s p do pure (.arr (← d.items s p read fuel 0))
    | e => if e.isEmpty then pure (.arr []) else s.unexpected p "a sequence" e

/-- The members of a mapping. `seen` holds the names so far, the last one first. -/
def members (read : List κ → Event → Read (κ × Option α)) : Nat → List κ → Read (List (κ × α))
  | 0, _ => pure []
  | fuel + 1, seen => do
    match (← d.peek).1 with
    | .mappingEnd => do
      let _ ← d.next
      pure []
    | key => do
      let (name, value) ← read seen key
      let rest ← members read fuel (name :: seen)
      pure ((value.map (name, ·)).toList ++ rest)

/-- A mapping of texts to values; the last of equal keys stays where it is read. -/
def mapping (s : Spot) (fuel : Nat) (expected : String) (distinct : Bool)
    (read : Spot → Read Json) : Read Json :=
  d.resolved fun e p =>
    match e with
    | .mappingStart _ =>
      nested s p do
        let member (seen : List String) (key : Event) : Read (String × Option Json) := do
          let name ← d.text s "a string"
          let value ← read (s.part p (.ofKey key))
          if distinct && seen.contains name then s.fails p (.repeatedAxis name)
          pure (name, some value)
        pure (.obj (← d.members member fuel []))
    | e => if e.isEmpty then pure (.obj []) else s.unexpected p expected e

/-- The fields of a value, those that are not known passed over. -/
def record (s : Spot) (fuel : Nat) (kind : String) (fields : List (String × Bool))
    (read : String → Spot → Read Json) : Read Json :=
  d.resolved fun e p => do
    let complete (members : List (String × Json)) : Read Json :=
      match fields.find? fun f => f.2 && (members.lookup f.1).isNone with
      | some f => s.fails p (.missingField f.1)
      | none => pure (.obj members)
    match e with
    | .mappingStart _ =>
      let members ← nested s p do
        let member (seen : List String) (key : Event) : Read (String × Option Json) := do
          let name ← d.text s "field identifier"
          if (fields.lookup name).isNone then
            d.ignore fuel 0
            pure (name, none)
          else if seen.contains name then s.fails p (.repeatedField name)
          else pure (name, some (← read name (s.part p (.ofKey key))))
        d.members member fuel []
      complete members
    | e => if e.isEmpty then complete [] else s.unexpected p ("struct " ++ kind) e

/-- A scalar of any kind except for whole numbers that are too large. -/
def anyScalar (s : Spot) (p : Place) (tooLarge : Found → Mismatch) (tag : Option String)
    (style : Style) (text : String) : Read Resolved :=
  match resolve tag style text with
  | .ok (.wide minus n) => s.fails p (tooLarge (.value (.wide minus n)))
  | .ok r => pure r
  | .error asked => s.fails p (.wrongValue (.value (.text text)) asked)

def anything : Nat → Spot → Read Json
  | 0, _ => throw .endOfDocument
  | fuel + 1, s =>
    d.resolved fun e p => do
      let tagged (tag : Option String) (read : Read Json) : Read Json :=
        if (localTag? tag).isSome then s.fails p (.wrongKind .tagged "any valid JSON value")
        else read
      match e with
      | .scalar tag style text =>
        tagged tag do pure (← anyScalar s p (fun _ => .tooLarge) tag style text).json
      | .listStart tag =>
        tagged tag do nested s p do pure (.arr (← d.items s p (anything fuel) fuel 0))
      | .mappingStart tag =>
        tagged tag do
          nested s p do
            let member (seen : List String) (key : Event) : Read (String × Option Json) := do
              let name ← d.text s (if seen.isEmpty then "a string key" else "a string")
              pure (name, some (← anything fuel (s.part p (.ofKey key))))
            pure (.obj (Bindings.ofList (← d.members member fuel [])))
      | _ => pure .null

end Stream

inductive Content where
  | scalar (r : Resolved)
  | list (items : List Json)
  | mapping (entries : List (Label × Json))

namespace Content

def label : Content → Label
  | .scalar (.text s) => .name s
  | .scalar (.natural n) => .position n
  | _ => .other

def json : Content → Json
  | .scalar r => r.json
  | .list items => .arr items
  | .mapping entries =>
    .obj (entries.map fun
      | (.name s, j) => (s, j)
      | (_, j) => ("", j))

/-- A text, or the members by the names of fields. -/
def textOrFields? (names : List String) : Content → Option Json
  | .scalar (.text s) => some (.str s)
  | .mapping entries =>
    (entries.mapM fun (e : Label × Json) => (e.1.field? names).map (·, e.2)).map .obj
  | _ => none

end Content

namespace Stream

variable (d : Stream)

/-- Keeps what is there until it is known what it is for. -/
def content : Nat → Spot → Read Content
  | 0, _ => throw .endOfDocument
  | fuel + 1, s =>
    d.resolved fun e p => do
      let tagged (tag : Option String) (read : Read Content) : Read Content :=
        if (localTag? tag).isSome then s.fails p .taggedAlternative else read
      match e with
      | .scalar tag style text =>
        tagged tag do
          pure (.scalar (← anyScalar s p (.wrongKind · "any value") tag style text))
      | .listStart tag =>
        tagged tag do
          nested s p do
            let items ← d.items s p (content fuel) fuel 0
            pure (.list (items.map Content.json))
      | .mappingStart tag =>
        tagged tag do
          nested s p do
            let member (_ : List Label) (key : Event) : Read (Label × Option Json) := do
              let name ← content fuel s
              let value ← content fuel (s.part p (.ofKey key))
              pure (name.label, some value.json)
            pure (.mapping (← d.members member fuel []))
      | _ => pure (.scalar .nothing)

mutual

/-- Reads what an outline asks for. The number bounds how deep calls are nested. -/
def read : Nat → Outline → Spot → Read Json
  | 0, _, _ => throw .endOfDocument
  | fuel + 1, o, s =>
    match o with
    | .text => do pure (.str (← d.text s "a string"))
    | .truth => do pure (.bool (← d.truth s))
    | .count => do pure (Json.ofNat (← d.count s))
    | .choice names => do pure (.str (← d.choice s names))
    | .maybe inner => d.maybe s (read fuel inner s)
    | .list inner => d.list s fuel (read fuel inner)
    | .mapping inner => d.mapping s fuel "a map" false (read fuel inner)
    | .ordered expected inner => d.mapping s fuel expected true (read fuel inner)
    | .record kind fields =>
      d.record s fuel kind (fields.map fun f => (f.name, f.required))
        fun name s => readField fuel fields name s
    | .textOrRecord kind names fits => do
      match ((← d.content fuel s).textOrFields? names).filter fits with
      | some j => pure j
      | none => s.failsOutside (.noAlternative kind)
    | .anything => d.anything fuel s

def readField : Nat → List OutlineField → String → Spot → Read Json
  | 0, _, _, _ => throw .endOfDocument
  | _, [], _, _ => throw .endOfDocument
  | fuel + 1, f :: fields, name, s =>
    if f.name = name then read fuel f.value s else readField fuel fields name s

end

end Stream

/-- Reads a text that holds exactly one document. -/
def read (o : Outline) (text : String) : Except Fault Json := do
  let d := Stream.ofText text.toList
  let j ← (d.read (200 * (d.events.size + 20)) o .root |>.run ⟨0, 0⟩).run.1
  match d.fault with
  | some f => .error (.broken f)
  | none => if d.continues then .error .severalDocuments else .ok j

end GatedPipeline.Yaml
