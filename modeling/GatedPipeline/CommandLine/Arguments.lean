import GatedPipeline.Event
import GatedPipeline.Settings.Basic

namespace GatedPipeline.CommandLine

inductive Request where
  | validate (path : Option String)
  | plan (path : Option String) (event : Event) (format : Option OutputFormat)
  | run (path : Option String) (event : Event) (secretsFile workspace : Option String)
      (format : Option OutputFormat)
  | schema
  | showConfig
  | setConfig (key value : String)
  | configPath
  | version
deriving DecidableEq, Repr

structure Flag where
  long : String
  short : Option Char

structure Words where
  options : List (String × String)
  others : List String

namespace Words

/-- A word that looks like an option. A lone dash does not. -/
def isFlag (w : String) : Bool := w.startsWith "-" && w ≠ "-"

def flag? (flags : List Flag) (w : String) : Option (Flag × Option String) :=
  match w.toList with
  | '-' :: '-' :: cs =>
    let name := String.ofList (cs.takeWhile (· != '='))
    let value :=
      match cs.dropWhile (· != '=') with
      | _ :: v => some (String.ofList v)
      | [] => none
    (flags.find? (·.long == name)).map (·, value)
  | '-' :: c :: cs =>
    let value :=
      match cs with
      | [] => none
      | '=' :: v => some (String.ofList v)
      | v => some (String.ofList v)
    (flags.find? (·.short == some c)).map (·, value)
  | _ => none

/-- Sorts words. None where an option is unknown, has no value or is there twice. -/
def read? (flags : List Flag) : List String → Option Words
  | [] => some ⟨[], []⟩
  | w :: ws =>
    if w = "--" then some ⟨[], ws⟩
    else if isFlag w then
      match flag? flags w with
      | none => none
      | some (f, some value) => (read? flags ws).bind (add f value)
      | some (f, none) =>
        match ws with
        | [] => none
        | value :: ws => if isFlag value then none else (read? flags ws).bind (add f value)
    else (read? flags ws).map fun r => { r with others := w :: r.others }
where
  add (f : Flag) (value : String) (r : Words) : Option Words :=
    if r.options.any (·.1 == f.long) then none
    else some { r with options := (f.long, value) :: r.options }

def option? (r : Words) (name : String) : Option String := r.options.lookup name

/-- A path in an option must not be empty. None is an error. -/
def path? (r : Words) (name : String) : Option (Option String) :=
  match r.option? name with
  | none => some none
  | some p => if p.isEmpty then none else some (some p)

/-- The only other word, if there is one: a path. None is an error. -/
def onlyPath? (r : Words) : Option (Option String) :=
  match r.others with
  | [] => some none
  | [p] => if p.isEmpty then none else some (some p)
  | _ => none

def format? (r : Words) : Option (Option OutputFormat) :=
  match r.option? "format" with
  | none => some none
  | some f => (OutputFormat.ofText? f).map some

def event? (r : Words) : Option Event := do
  let kind ← EventKind.ofText? ((r.option? "event").getD "push")
  some ⟨kind, (r.option? "ref").getD "refs/heads/main"⟩

end Words

namespace Request

def eventFlags : List Flag := [⟨"event", some 'e'⟩, ⟨"ref", some 'r'⟩, ⟨"format", some 'f'⟩]

def runFlags : List Flag := eventFlags ++ [⟨"secrets-file", none⟩, ⟨"workspace", some 'w'⟩]

def others? (count : Nat) (words : List String) : Option (List String) := do
  let r ← Words.read? [] words
  if r.others.length = count then some r.others else none

def asksVersion (w : String) : Bool := w == "--version" || w.startsWith "-V"

def ofWords? : List String → Option Request
  | "validate" :: words => do
    let r ← Words.read? [] words
    some (.validate (← r.onlyPath?))
  | "plan" :: words => do
    let r ← Words.read? eventFlags words
    some (.plan (← r.onlyPath?) (← r.event?) (← r.format?))
  | "run" :: words => do
    let r ← Words.read? runFlags words
    some (.run (← r.onlyPath?) (← r.event?) (← r.path? "secrets-file") (← r.path? "workspace")
      (← r.format?))
  | "schema" :: words => (others? 0 words).map fun _ => .schema
  | "config" :: "show" :: words => (others? 0 words).map fun _ => .showConfig
  | "config" :: "path" :: words => (others? 0 words).map fun _ => .configPath
  | "config" :: "set" :: words =>
    (others? 2 words).bind fun
      | [key, value] => some (.setConfig key value)
      | _ => none
  | w :: _ => if asksVersion w then some .version else none
  | [] => none

end Request

end GatedPipeline.CommandLine
