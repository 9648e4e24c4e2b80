import GatedPipeline.Shell.Evaluation.Calling

namespace GatedPipeline.Shell

namespace Evaluation

section

/- Evaluates a command within another one. -/
variable (inner : Command → Act Unit)

def isProgram (s : State) : Command → Bool
  | .simple _ _ (w :: _) _ =>
    !w.toList.any (fun c => "$\x60*?[~".toList.contains c) &&
      (match choose s false (Quoting.removed w) with
        | .program _ => true
        | _ => false)
  | .redirected _ c _ => isProgram s c
  | _ => false

/-- The command is a subshell, perhaps with redirections. -/
def isSubshell : Command → Bool
  | .subshell .. => true
  | .redirected _ (.subshell ..) _ => true
  | _ => false

/-- Takes a command for the current one, and its line for the current line. -/
def beginCommand (line : Nat) (c : Command) : Act Unit := do
  if line != 0 then modify fun s => { s with
    line := line, current := if s.keepsCurrent then s.current else some c }

/-- What comes before a command that is evaluated in a child. -/
def beforeChild (c : Command) : Act Unit := do
  match c with
  | .simple line .. =>
    beginCommand line c
    runDebug inner
  | .subshell line _ => beginCommand line c
  | .redirected _ (.subshell line _) _ => beginCommand line c
  | _ => return ()

/-- What a process does as a subshell that has a line. A subshell which is all that it consists of
needs no process of its own. -/
def insideSubshell (line : Nat) : Command → List Redirection → Act Unit
  | .subshell line' body, rs => do
    if ← opened rs then
      modify fun s => { s with depth := s.depth + 1 }
      insideSubshell line' body []
  | .redirected _ (.subshell line' body) rs', rs => do
    if ← opened rs then
      modify fun s => { s with depth := s.depth + 1 }
      insideSubshell line' body rs'
  | body, rs => do
    if ← opened rs then
      modify fun s => { s with isLast := true, lostStatus := 1 }
      untilEnd inner (inner body)
where
  opened (rs : List Redirection) : Act Bool := do
    if line != 0 then modify fun s => { s with line := line, compoundLine := line }
    Redirecting.all (substitute inner) rs

/-- How many loops are around a command that is evaluated in a child. -/
def loopDepthIn (s : State) : Command → Nat
  | .simple .. => s.loopDepth
  | _ => if s.isStrict then s.loopDepth else 0

/-- The line that counts for the redirections of a command. -/
def redirectionLine (s : State) (c : Command) : Nat :=
  match c with
  | .redirected line .. => if s.isStrict then line else s.compoundLine
  | c => if c.line != 0 then c.line else s.line

/-- Evaluates a command whose redirections are made first; tells whether they can be made. -/
def afterRedirections (c : Command) (body : Command) (rs : List Redirection) : Act Bool := do
  let before ← get
  modify fun s => { s with line := redirectionLine s c }
  let done ← redirected inner rs (inner body)
  closeSubstituted inner before
  if done.isNone then modify fun s => { s with line := before.line }
  return done.isSome

/-- What a child does for a command. A subshell is the child itself. -/
def insideChild (c : Command) : Act Unit :=
  match c with
  | .simple _ as ws rs => untilEnd inner (do
    simpleAlone inner as ws rs
    /- Redirections without a command are carried out, and all is well. -/
    if ws.isEmpty && !rs.isEmpty && !(← Act.isStrict) then Act.setStatus 0
    checkSignals inner)
  | .subshell line body => insideSubshell inner line body []
  | .redirected _ (.subshell line body) rs => insideSubshell inner line body rs
  | c => do
    modify fun s => { s with lostStatus := 1 }
    untilEnd inner (inner c)

structure StageEnd where
  status : Nat
  time : Nat
  death : Death

/-- Evaluates stages one after another; each begins at the same time and reads what the one before
wrote. -/
def stages (start : Nat) (keepsLast : Bool) : Option Nat → List Command → Act (List StageEnd)
  | _, [] => return []
  | input, c :: rest => do
    let s ← get
    let reading ← input.mapM fun pipe => Act.newOpening ⟨.pipe pipe, 0, false, true, false⟩
    let output ← if rest.isEmpty then pure none else some <$> Act.newPipe .empty
    let writing ← output.mapM fun pipe => Act.newOpening ⟨.pipe pipe, 0, false, false, true⟩
    modify fun s => { s with now := start }
    beforeChild inner c
    let setup (child : State) : State :=
      let child := match reading with
        | some n => withDescriptor 0 n child
        | none => child
      let child := match writing with
        | some n => withDescriptor 1 n child
        | none => child
      let child := if isSubshell c then Act.withoutListed child else child
      let child := Act.withoutCoprocess s child
      { child with isReplaced := isProgram s c, loopDepth := loopDepthIn s c }
    if rest.isEmpty && keepsLast then
      let before ← get
      match reading with
      | some n => Act.direct 0 n
      | none => pure ()
      Act.protect (inner c) (modify fun t => { t with descriptors := before.descriptors })
      return [⟨(← get).status, (← get).now, none⟩]
    else
      let e ← Act.inChild setup (insideChild inner c)
      match output with
      | some pipe => Act.holdUntil [pipe] e.state.now
      | none => pure ()
      let finish := e.state.now
      let after ← stages start keepsLast output rest
      /- Who writes what nobody reads any more is ended by that. -/
      let lost ← do
        match output, after.head? with
        | some pipe, some reader =>
          let left := (((← get).world.pipes[pipe]?).getD .empty).chunks
          pure ((left.map (·.text.length)).foldr (· + ·) 0 > 65536 ||
            left.any fun c => reader.time < c.time)
        | _, _ => pure false
      let death : Death := if lost then none else e.signal.map (e.state.process, ·)
      return ⟨if lost then 141 else e.state.status, finish, death⟩ :: after

def pipeline (cs : List Command) : Act Unit := do
  let s ← get
  let keepsLast := s.hasExtra "lastpipe" && !s.isStrict
  let endsWithSubshell := (cs.getLast?).any isSubshell
  let results ← stages inner s.now keepsLast none cs
  let deciding :=
    (if s.hasOption "pipefail" then results.filter (·.status != 0) else results).getLast?
  modify fun t => { t with
    now := (results.map (·.time)).foldl max s.now
    status := (deciding.map (·.status)).getD 0
    stageStatuses := results.map (·.status) }
  Act.passUntil (← get).now
  Act.forgetEnded
  if s.isStrict then results.forM fun r => tellDeath "" r.death
  else tellDeath "" (deciding.bind (·.death))
  /- A subshell at the end is looked at for itself, too. -/
  if endsWithSubshell && !s.isStrict then checkFailure inner
  checkFailure inner

/-- Begins a command in a process that is not waited for. What comes first is done there before the
redirections, and those are carried out before anything else is held. -/
def begin (text : String) (pipes : Option (Nat × Nat)) (first : Act Unit) (c : Command) :
    Act Unit := do
  let s ← get
  let (rs, body) : List Redirection × Command :=
    match c with
    | .simple _ _ [] _ => ([], c)
    | .simple line as ws rs => (rs, .simple line as ws [])
    | .redirected _ c rs => (rs, c)
    | c => ([], c)
  let setup : Act Bool := do
    modify (Act.withoutCoprocess s)
    first
    modify fun s => { s with line := redirectionLine s c }
    Redirecting.all (substitute inner) rs
  let isLast := isProgram s c
  Act.launch text isLast pipes setup (do
    modify fun child => { child with isLast := isLast, loopDepth := loopDepthIn s c }
    /- The keyboard does not end what is not waited for. -/
    match c with
    | .simple .. => pure ()
    | _ => if !s.isStrict && !s.hasOption "monitor" then modify fun child =>
        { child with traps := child.traps.insert "INT" "" }
    insideChild inner body)

/-- Begins a command that is not waited for. -/
def background (c : Command) : Act Unit := do
  beforeChild inner c
  begin inner (Command.shown (← get).documents c) none (do
    let n ← Act.newOpening ⟨.nothing, 0, false, true, false⟩
    Act.direct 0 n) c

def coprocess (line : Nat) (name : Word) (body : Command) : Act Unit := do
  beginCommand line (.coprocess line name body)
  let s ← get
  match s.coprocess with
  | some c =>
    if !c.descriptors.isEmpty then
      Act.complain ("warning: execute_coproc: coproc [" ++ toString c.process ++ ":" ++ c.name ++
        "] still exists")
    modify fun s => { s with coprocess := none }
  | none => pure ()
  let name ← Expansion.text (substitute inner) name
  if !isName name.toList then
    Act.fault ("\x60" ++ name ++ "': not a valid identifier") 1
  else
    let isFree (n : Nat) : Bool := (s.descriptors.lookup n).isNone
    let free := ((List.range 50).map (63 - ·)).filter isFree
    let ends : Nat × Nat := (free.headD 63, (free.drop 3).headD 60)
    let pipe ← Act.newPipe { Pipe.empty with heldUntil := maxTime }
    let answers ← Act.newPipe .empty
    let shown := Command.shown s.documents (.coprocess line name body)
    begin inner shown (some (pipe, answers)) (do
      if isSubshell body then modify fun s => { s with depth := s.depth + 1 }
      Act.direct 0 (← Act.newOpening ⟨.pipe pipe, 0, false, true, false⟩)
      Act.direct 1 (← Act.newOpening ⟨.pipe answers, 0, false, false, true⟩)) body
    Act.direct ends.1 (← Act.newOpening ⟨.pipe answers, 0, false, true, false⟩)
    Act.direct ends.2 (← Act.newOpening ⟨.pipe pipe, 0, false, false, true⟩)
    let process := ((← get).lastJob).getD 0
    let c : Coprocess := ⟨process, name, some ends.1, some ends.2⟩
    modify fun s => { s with coprocess := some c }
    if ← Assigning.isWritable name then
      modify (·.modifyVariable name fun v => { v with value := c.value })
      let number := name ++ "_PID"
      if ← Assigning.isWritable number then
        modify (·.modifyVariable number fun v => { v with value := .text (toString process) })
    Act.setStatus 0

/-- Evaluates a command in a process of its own, whose redirections are made there. -/
def subshell (line : Nat) (body : Command) (rs : List Redirection) : Act Unit := do
  let whole : Command :=
    if rs.isEmpty then .subshell line body else .redirected line (.subshell line body) rs
  beginCommand line whole
  let s ← get
  let e ← Act.inChild (Act.withoutCoprocess s ∘ Act.withoutListed)
    (insideSubshell inner line body rs)
  Act.forgetEnded
  Act.setStatus e.state.status
  tellDeath (Command.shown s.documents whole) (e.signal.map (e.state.process, ·))
  finish inner

/-- Tells an expression that stands for itself, and evaluates it. A wrong one is a failure. -/
def expression (text : String) : Act (Option Int) := do
  try
    let t ← Expansion.arithmetic (substitute inner) text
    Tracing.tell (substitute inner) ("(( " ++ t ++ " ))")
    return some (← evaluateArithmetic "((: " t)
  catch e =>
    if e == .discarding then
      Act.setStatus 1
      return none
    else throw e

def arithmetic (line : Nat) (text : String) : Act Unit := do
  modify fun s => { s with line := line }
  runDebug inner
  match ← expression inner text with
  | some v => Act.setStatus (if v == 0 then 1 else 0)
  | none => Act.setStatus 1
  finish inner

inductive RoundEnd where
  | whole
  | next
  | broken
deriving DecidableEq, Repr

def round (part : Act Unit) : Act RoundEnd := do
  try
    part
    return .whole
  catch e =>
    match e with
    | .breaking n => if n ≤ 1 then return .broken else throw (.breaking (n - 1))
    | .continuing n => if n ≤ 1 then return .next else throw (.continuing (n - 1))
    | e => throw e

/-- A loop does not go round more often than this. -/
def maxRounds : Nat := 100000

/-- What has no line of its own inside is counted by this line. -/
def countedFrom (line : Nat) (act : Act Unit) : Act Unit := do
  let before := (← get).compoundLine
  modify fun s => { s with compoundLine := line }
  Act.protect act (modify fun s => { s with compoundLine := before })

def inLoop (act : Act Unit) : Act Unit := do
  modify fun s => { s with loopDepth := s.loopDepth + 1 }
  Act.protect act (modify fun s => { s with loopDepth := s.loopDepth - 1 })

/-- Repeats a body as long as a test allows; the status is that of the last round. -/
def loop (isUntil : Bool) (test body : Command) : Act Unit :=
  inLoop (go maxRounds 0)
where
  go : Nat → Nat → Act Unit
    | 0, _ => throw .endless
    | n + 1, last => do
      match ← round (tested (inner test)) with
      | .broken => return ()
      | .next => go n 0
      | .whole =>
        if ((← Act.status) == 0) == isUntil then Act.setStatus last
        else
          match ← round (inner body) with
          | .broken => return ()
          | _ => go n (← Act.status)

/-- Says that a variable cannot have a name. This is a failure that ends no shell, except where the
standard is kept to. -/
def refuseName (name : String) : Act Unit := do
  let isFinal := (← get).hasOption "posix"
  Act.fault ("\x60" ++ name ++ "': not a valid identifier") (if isFinal then 2 else 1)
  if isFinal then throw .leaving

def each (line : Nat) (name : String) (ws : Option (List Word)) (body : Command) : Act Unit := do
  modify fun s => { s with line := line }
  let s ← get
  if !isName name.toList then refuseName name
  else
    let items ← do
      match ws with
      | some ws => Expansion.fields (substitute inner) ws
      | none => pure s.parameters
    if items.isEmpty then Act.setStatus 0
    countedFrom line <| inLoop (go s.current ((ws.map fun ws => " in " ++ " ".intercalate ws).getD "") items)
where
  go (whole : Option Command) (shown : String) : List String → Act Unit
    | [] => return ()
    | item :: rest => do
      modify fun s => { s with
        line := line, current := if s.keepsCurrent then s.current else whole }
      runDebug inner
      if !(← Act.isStrict) then
        let shown := if shown.isEmpty then " in \"$@\"" else shown
        Tracing.tell (substitute inner) ("for " ++ name ++ shown)
      if ← Assigning.assign? (evaluateArithmetic "") name none false item then
        if (← round (inner body)) != .broken then go whole shown rest

def menu (line : Nat) (name : String) (ws : Option (List Word)) (body : Command) : Act Unit := do
  modify fun s => { s with line := line }
  let s ← get
  if !isName name.toList then refuseName name
  else
    let items ← do
      match ws with
      | some ws => Expansion.fields (substitute inner) ws
      | none => pure s.parameters
    if items.isEmpty then Act.setStatus 0
    else
      Tracing.tell (substitute inner) ("select " ++ name ++
        (ws.map fun ws => " in " ++ " ".intercalate ws).getD " in \"$@\"")
      countedFrom line <| inLoop (go items maxRounds true)
where
  shown (items : List String) : String :=
    let digits := (toString items.length).length
    let widest := (items.map String.length).foldl max 0 + digits + 4
    let parts (size : Nat) : Nat := (items.length + size - 1) / max size 1
    let rows := parts (max (80 / widest) 1)
    let columns := parts rows
    let (rows, columns) := if rows == 1 then (columns, 1) else (rows, columns)
    let cell (row column : Nat) : Option String :=
      (items[column * rows + row]?).map fun t =>
        let n := toString (column * rows + row + 1)
        let width := if column = 0 then (toString rows).length else digits
        String.ofList (List.replicate (width - n.length) ' ') ++ n ++ ") " ++ t
    String.join ((List.range rows).map fun row =>
      let cells := (List.range columns).filterMap (cell row)
      String.join (cells.mapIdx fun i t =>
        if i + 1 == cells.length then t
        else t ++ between (i * widest + t.length) ((i + 1) * widest)) ++ "\n")
  between (start finish : Nat) : String :=
    let tabs := finish / 8 - start / 8
    String.ofList (List.replicate tabs '\t' ++
      List.replicate (if tabs = 0 then finish - start else finish % 8) ' ')
  go (items : List String) : Nat → Bool → Act Unit
    | 0, _ => throw .endless
    | n + 1, shows => do
      if shows then Act.put 2 (shown items)
      Act.put 2 ((((← get).value? "PS3").getD "#? "))
      match ← Act.takeLine 0 '\n' none with
      | .error _ =>
        Act.put 1 "\n"
        Act.setStatus 1
      | .ok (text, isFull) =>
        if text.isEmpty && !isFull then
          Act.put 1 "\n"
          Act.setStatus 1
        else
          let front := (text.toList.dropWhile isSpace).reverse
          let text := String.ofList (front.dropWhile isSpace).reverse
          Builtin.store "REPLY" text
          if text.isEmpty then go items n true
          else
            let item := match text.toNat? with
              | some i => if i = 0 then "" else (items[i - 1]?).getD ""
              | none => ""
            if ← Assigning.assign? (evaluateArithmetic "") name none false item then
              if (← round (inner body)) != .broken then go items n false

def count (line : Nat) (start condition step : String) (body : Command) : Act Unit := do
  modify fun s => { s with line := line }
  let evaluate (text : String) : Act (Option Int) := do
    modify fun s => { s with line := line }
    expression inner text
  Act.setStatus 0
  let rec go : Nat → Nat → Act Unit
    | 0, _ => throw .endless
    | n + 1, last => do
      match ← evaluate condition with
      | none => Act.setStatus 1
      | some 0 => Act.setStatus last
      | some _ =>
        Act.setStatus last
        if (← round (inner body)) != .broken then
          let last ← Act.status
          match ← evaluate step with
          | none => Act.setStatus 1
          | some _ => go n last
  inLoop (do
    runDebug inner
    match ← evaluate start with
    | none => Act.setStatus 1
    | some _ => go maxRounds 0)
  checkSignals inner

def choice (line : Nat) (w : Word) (branches : List (List Word × Option Command × BranchEnd)) :
    Act Unit := do
  modify fun s => { s with line := line }
  runDebug inner
  let s ← get
  if !s.isStrict then Tracing.tell (substitute inner) ("case " ++ w ++ " in")
  let text ← Expansion.text (substitute inner) w
  countedFrom line (go text.toList branches)
where
  fits (text : List Char) : List Word → Act Bool
    | [] => return false
    | p :: ps => do
      let m ← Expansion.pattern (substitute inner) p
      if ((← get).pattern m).isMatch text then return true else fits text ps
  enter (text : List Char) : List (List Word × Option Command × BranchEnd) → Act Unit
    | [] => return ()
    | (_, body, ending) :: rest => do
      match body with
      | some c => inner c
      | none => Act.setStatus 0
      match ending with
      | .done => return ()
      | .fall => enter text rest
      | .resume => go text rest
  go (text : List Char) : List (List Word × Option Command × BranchEnd) → Act Unit
    | [] => Act.setStatus 0
    | (ps, body, ending) :: rest => do
      if ← fits text ps then
        match body with
        | some c => inner c
        | none => Act.setStatus 0
        match ending with
        | .done => return ()
        | .fall => enter text rest
        | .resume => go text rest
      else go text rest

def shownTime (decimals : Nat) (isLong : Bool) (milliseconds : Nat) : String :=
  let ms := toString (milliseconds % 1000)
  let fraction := String.ofList ((List.replicate (3 - ms.length) '0' ++ ms.toList).take decimals)
  let seconds := milliseconds / 1000
  (if isLong then toString (seconds / 60) ++ "m" ++ toString (seconds % 60)
    else toString seconds) ++ (if fraction.isEmpty then "" else "." ++ fraction) ++
    (if isLong then "s" else "")

/-- The times of a command in a format, or the letter that has no meaning in it. No time is spent
but the one that passes. -/
def timesText (elapsed : Nat) : Nat → List Char → Except Char String
  | n + 1, '%' :: '%' :: cs => return "%" ++ (← timesText elapsed n cs)
  | _ + 1, ['%'] => return "%"
  | n + 1, '%' :: 'P' :: cs => return "0.00" ++ (← timesText elapsed n cs)
  | n + 1, '%' :: cs => do
    let digits := (cs.takeWhile Char.isDigit).take 1
    let cs := cs.drop digits.length
    let decimals := match digits with
      | d :: _ => min 3 (d.toNat - 48)
      | [] => 3
    let isLong := cs.head? == some 'l'
    match if isLong then cs.drop 1 else cs with
    | [] => throw '\x00'
    | c :: cs =>
      let time ←
        match c with
        | 'R' => pure elapsed
        | 'U' => pure 0
        | 'S' => pure 0
        | c => throw c
      return shownTime decimals isLong time ++ (← timesText elapsed n cs)
  | n + 1, c :: cs => return String.singleton c ++ (← timesText elapsed n cs)
  | _, _ => return ""

def tellTime (isBrief : Bool) (elapsed : Nat) : Act Unit := do
  let s ← get
  let format :=
    if isBrief then "real %2R\nuser %2U\nsys %2S"
    else (s.value? "TIMEFORMAT").getD "\nreal\t%3lR\nuser\t%3lU\nsys\t%3lS"
  if !format.isEmpty then
    match timesText elapsed (format.length + 1) format.toList with
    | .ok t => Act.put 2 (t ++ "\n")
    | .error c =>
      Act.complain ("TIMEFORMAT: \x60" ++ String.singleton c ++ "': invalid format character")

def define (line : Nat) (name : String) (body : Command) : Act Unit := do
  let s ← get
  if s.hasOption "posix" && Builtin.mindsSpecial s name then
    modify fun s => { s with line := line }
    Act.fault ("\x60" ++ name ++ "': is a special builtin") 2
    throw .leaving
  else if s.hasOption "posix" && !isName name.toList then
    modify fun s => { s with line := line }
    Act.fault ("\x60" ++ name ++ "': not a valid identifier") 2
    throw .leaving
  else if !s.isStrict && name.toList.any fun c => "$\x60'\"\\".toList.contains c then
    modify fun s => { s with line := line }
    Act.fault ("\x60" ++ name ++ "': not a valid identifier") 1
    finish inner
  else
    let source := if s.source == s.name then s.functionSource else s.source
    set { s with
      functions := s.functions.insert name ⟨body, source, line, false⟩
      status := 0 }

end

end Evaluation

end GatedPipeline.Shell
