import GatedPipeline.Shell.Syntax

namespace GatedPipeline.Shell

namespace Redirection

def operator : RedirectionKind → String
  | .input => "<"
  | .output => ">"
  | .append => ">>"
  | .clobber => ">|"
  | .inputOutput => "<>"
  | .outputAndError => "&>"
  | .appendAndError => "&>>"
  | .copyInput => "<&"
  | .copyOutput => ">&"
  | .document _ => "<<"
  | .text => "<<<"

def shown (documents : Array Document) (r : Redirection) : String :=
  let front :=
    match r.descriptor, r.kind with
    | .number n, _ => toString n
    | .named v, _ => "\x7b" ++ v ++ "\x7d"
    | .usual, .copyOutput => "1"
    | .usual, .copyInput => "0"
    | .usual, _ => ""
  let operator :=
    match r.kind with
    | .document n => if (documents[n]?).any (·.stripsTabs) then "<<-" else "<<"
    | k => Redirection.operator k
  let space :=
    match r.kind with
    | .copyInput => ""
    | .copyOutput => ""
    | .document _ => ""
    | _ => " "
  front ++ operator ++ space ++ r.target

end Redirection

namespace Test

def shown : Test → String
  | .unary operator w => operator ++ " " ++ w
  | .binary a operator b => a ++ " " ++ operator ++ " " ++ b
  | .not t => "! " ++ shown t
  | .and a b => shown a ++ " && " ++ shown b
  | .or a b => shown a ++ " || " ++ shown b
  | .enclosed t => "( " ++ shown t ++ " )"

end Test

structure Listing.Form where
  documents : Array Document
  /-- Functions are declared without a word in front of them. -/
  isPlain : Bool
  indent : Nat
  step : Nat
  inFunction : Bool
  isConnected : Bool

namespace Listing

/-- What has been written, and the documents that are to come after the line. -/
structure Written where
  text : String
  awaited : List Redirection
  /-- A document has come, after which no separator is needed. -/
  isAfterDocument : Bool

abbrev Writer := StateM Written

namespace Form

def flat (documents : Array Document) (isPlain : Bool) : Form :=
  ⟨documents, isPlain, 0, 4, false, false⟩

def deeper (f : Form) : Form := { f with indent := f.indent + f.step }

def connected (f : Form) : Form := { f with isConnected := true }

def withinFunction (f : Form) : Form := { f with inFunction := true }

end Form

def put (t : String) : Writer Unit := modify fun w => { w with text := w.text ++ t }

def spaces (n : Nat) : String := String.ofList (List.replicate n ' ')

def putLine (f : Form) (t : String) : Writer Unit := put ("\n" ++ spaces f.indent ++ t)

/-- Separates a command from a word, unless that is done. -/
def putSemicolon : Writer Unit :=
  modify fun w =>
    if w.text.endsWith "&" || w.text.endsWith "\n" then w else { w with text := w.text ++ ";" }

def putDocuments (f : Form) (rs : List Redirection) : Writer Unit := do
  put "\n"
  rs.forM fun r =>
    match r.kind with
    | .document n => (f.documents[n]?).forM fun d => put (d.body ++ d.delimiter ++ "\n")
    | _ => return ()
  modify fun w => { w with isAfterDocument := true }

/-- Writes what connects commands, and after it the documents of the first one. -/
def connect (f : Form) (t : String) : Writer Unit := do
  let awaited := (← get).awaited
  put t
  if !awaited.isEmpty then
    putDocuments f awaited
    if !t.isEmpty then put " "
  modify fun w => { w with awaited := [] }

def settle (f : Form) : Writer Unit := do
  if !(← get).awaited.isEmpty then connect f ""

def isDocument (r : Redirection) : Bool :=
  match r.kind with
  | .document _ => true
  | _ => false

/-- Writes redirections. Documents of a command among others come after what connects it to
them. -/
def redirections (f : Form) (rs : List Redirection) : Writer Unit := do
  modify fun w => { w with isAfterDocument := false }
  put (" ".intercalate (rs.map (·.shown f.documents)))
  let documents := rs.filter isDocument
  if !documents.isEmpty then
    if f.isConnected then modify fun w => { w with awaited := documents }
    else putDocuments f documents

def separate (f : Form) : Writer Unit := do
  let w ← get
  if !w.awaited.isEmpty then connect f ""
  else if w.isAfterDocument then set { w with isAfterDocument := false }
  else put ";"
  put (if f.inFunction then "\n" else " ")

def isBackground : Command → Bool
  | .background _ => true
  | _ => false

def rounds (f : Form) (body : Writer Unit) : Writer Unit := do
  putLine f "do\n"
  body
  settle f
  putSemicolon
  putLine f "done"

/-- Writes the body of a function in braces, and redirections of it. -/
def block (f : Form) (start : String) (body : Writer Unit) (rs : List Redirection) :
    Writer Unit := do
  put start
  body
  settle f
  if rs.isEmpty then putLine f "\x7d"
  else
    putLine f "\x7d "
    redirections f rs

mutual

/-- Writes a command; `isIndented` tells that it stands at the start of a line. -/
def command (f : Form) (isIndented : Bool) : Command → Writer Unit
  | .simple _ assignments words rs => do
    if isIndented then put (spaces f.indent)
    put (" ".intercalate (assignments ++ words))
    if !rs.isEmpty then
      if !(assignments.isEmpty && words.isEmpty) then put " "
      redirections f rs
  | .redirected _ c rs => do
    command f isIndented c
    put " "
    redirections f rs
  | .sequence cs => do
    if isIndented then put (spaces f.indent)
    list (if cs.length > 1 then f.connected else f) true false cs
  | .background c => do
    command f.connected isIndented c
    connect f " &"
  | .both a b => do
    command f.connected isIndented a
    connect f " && "
    command f.connected false b
    settle f
  | .either a b => do
    command f.connected isIndented a
    connect f " || "
    command f.connected false b
    settle f
  | .negated (.timed isBrief c) => do
    if isIndented then put (spaces f.indent)
    put (if isBrief then "time -p ! " else "time ! ")
    command f false c
  | .negated c => do
    if isIndented then put (spaces f.indent)
    put "! "
    command f false c
  | .timed isBrief c => do
    if isIndented then put (spaces f.indent)
    put (if isBrief then "time -p " else "time ")
    command f false c
  | .pipeline cs => stages f.connected isIndented cs
  | .group c => do
    if isIndented then put (spaces f.indent)
    if f.inFunction then
      put "\x7b \n"
      command f.deeper true c
      settle f
      putLine f "\x7d"
    else
      put "\x7b "
      command f false c
      settle f
      putSemicolon
      put " \x7d"
  | .subshell _ c => do
    if isIndented then put (spaces f.indent)
    put "( "
    command f false c
    settle f
    put " )"
  | .arithmetic _ e => do
    if isIndented then put (spaces f.indent)
    put ("((" ++ e ++ "))")
  | .test _ t => do
    if isIndented then put (spaces f.indent)
    put ("[[ " ++ t.shown ++ " ]]")
  | .conditional test yes no => do
    if isIndented then put (spaces f.indent)
    put "if "
    command f false test
    putSemicolon
    put " then\n"
    command f.deeper true yes
    settle f
    match no with
    | some c =>
      putSemicolon
      putLine f "else\n"
      command f.deeper true c
      settle f
    | none => pure ()
    putSemicolon
    putLine f "fi"
  | .loop isUntil test body => do
    if isIndented then put (spaces f.indent)
    put (if isUntil then "until " else "while ")
    command f false test
    settle f
    putSemicolon
    put " do\n"
    command f.deeper true body
    settle f
    putSemicolon
    putLine f "done"
  | .each _ name words body => do
    if isIndented then put (spaces f.indent)
    put ("for " ++ name ++ " in " ++ " ".intercalate (words.getD ["\"$@\""]) ++ ";")
    rounds f (command f.deeper true body)
  | .menu _ name words body => do
    if isIndented then put (spaces f.indent)
    put ("select " ++ name ++ " in " ++ " ".intercalate (words.getD ["\"$@\""]) ++ ";")
    rounds f (command f.deeper true body)
  | .count _ a b c body => do
    if isIndented then put (spaces f.indent)
    put ("for ((" ++ a ++ "; " ++ b ++ "; " ++ c ++ "))")
    rounds f (command f.deeper true body)
  | .choice _ w bs => do
    if isIndented then put (spaces f.indent)
    put ("case " ++ w ++ " in ")
    branches f.deeper bs
    putLine f "esac"
  | .function _ name body => do
    if isIndented then put (spaces f.indent)
    put ((if f.isPlain then "" else "function ") ++ name ++ " () \n" ++ spaces f.indent)
    let inside := f.deeper.withinFunction
    match body with
    | .redirected _ (.group c) rs => block f "\x7b \n" (command inside true c) rs
    | .group c => block f "\x7b \n" (command inside true c) []
    | c => block f "\x7b \n" (command inside true c) []
  | .coprocess _ name body => do
    if isIndented then put (spaces f.indent)
    put ("coproc " ++ name ++ " ")
    command f false body

def list (f : Form) (isFirst isIndented : Bool) : List (Command × Bool) → Writer Unit
  | [] => return ()
  | (c, _) :: rest => do
    command f isIndented c
    if !isFirst then settle f
    if !rest.isEmpty then
      if isBackground c then put " " else separate f
      list f false (f.inFunction && !isBackground c) rest

/-- Writes commands each of which reads from the one before. -/
def stages (f : Form) (isIndented : Bool) : List Command → Writer Unit
  | [] => return ()
  | c :: rest => do
    command f isIndented c
    if rest.isEmpty then settle f
    else
      connect f " |"
      put " "
      stages f false rest

def branches (f : Form) : List (List Word × Option Command × BranchEnd) → Writer Unit
  | [] => return ()
  | (patterns, body, ending) :: rest => do
    putLine f (" | ".intercalate patterns ++ ")\n")
    match body with
    | some c =>
      command f.deeper true c
      settle f
    | none => pure ()
    putLine f (match ending with
      | .done => ";;"
      | .fall => ";&"
      | .resume => ";;&")
    branches f rest

end

/-- Writes the body of a function, which is put in braces if it is not. -/
def functionBody (f inside : Form) (start : String) : Command → Writer Unit
  | .redirected _ (.group c) rs => block f start (command inside true c) rs
  | .group c => block f start (command inside true c) []
  | c => block f start (command inside true c) []

def written (w : Writer Unit) : String := (w.run ⟨"", [], false⟩).2.text

end Listing

namespace Command

def shown (documents : Array Document) (c : Command) : String :=
  Listing.written (Listing.command (Listing.Form.flat documents false) false c)

/-- A command as it is named where it is told which one is evaluated. -/
def headline (documents : Array Document) : Command → String
  | .each _ name words _ => "for " ++ name ++ " in " ++ " ".intercalate (words.getD ["\"$@\""])
  | .menu _ name words _ => "select " ++ name ++ " in " ++ " ".intercalate (words.getD ["\"$@\""])
  | .choice _ w _ => "case " ++ w ++ " in "
  | .count _ a _ _ _ => "((" ++ a ++ "))"
  | c => shown documents c

def definition (documents : Array Document) (isPlain : Bool) (name : String) (body : Command) :
    String :=
  let form := Listing.Form.flat documents isPlain
  name ++ " () \n" ++
    Listing.written (Listing.functionBody form form.deeper.withinFunction "\x7b \n" body)

/-- A function as an environment hands it on, without its name. -/
def handedOn (documents : Array Document) (body : Command) : String :=
  let form : Listing.Form := { Listing.Form.flat documents false with indent := 1, step := 0 }
  "() " ++ Listing.written
    (Listing.functionBody { form with indent := 0 } form.withinFunction "\x7b " body)

end Command

end GatedPipeline.Shell
