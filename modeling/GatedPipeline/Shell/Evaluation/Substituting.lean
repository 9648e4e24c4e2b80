import GatedPipeline.Shell.Evaluation.Text
import GatedPipeline.Shell.Elements
import GatedPipeline.Shell.Redirecting

namespace GatedPipeline.Shell

namespace Evaluation

section

/- Evaluates a command within another one. -/
variable (inner : Command → Act Unit)

/-- The file whose content a substitution stands for, if it has nothing but an input. -/
def contentOf? (s : State) (text : String) : Option Word :=
  if s.isStrict || !(text.toList.dropWhile isSpace).head?.any (· == '<') then none
  else
    let start := Cursor.start (Expansion.dialect s) 1 0 text.toList
    match Parser.next?.run start with
    | .ok (some (.simple _ [] [] [r])) c =>
      if r.kind == .input && r.descriptor == .usual && c.rest.isEmpty then some r.target else none
    | _ => none

def substitutedDescriptor (s : State) : Nat :=
  (((List.range 50).map (63 - ·)).find? fun n => (s.descriptors.lookup n).isNone).getD 63

/-- Evaluates a child beside the shell, which does not wait for it. -/
def beside (setup : State → State) (act : Act Unit) : Act Nat := do
  let before := (← get).now
  let e ← Act.inChild setup act
  Act.holdUntil (Act.pipesOf e.state) e.state.now
  modify fun s => { s with now := before, lastJob := some e.state.process }
  return e.state.now

def withDescriptor (n opening : Nat) (s : State) : State :=
  { s with descriptors := (n, opening) :: s.descriptors.filter (·.1 != n) }

def outputOf (kind : TextKind) (text : String) : Act String := do
  let s ← get
  match contentOf? s text with
  | some w =>
    let path ← Expansion.text (fun _ => return "") w
    match ← Redirecting.openFile .input path with
    | .error e =>
      Act.complain e
      modify fun s => { s with innerStatus := some 1 }
      return ""
    | .ok opening =>
      let before := (← get).descriptors
      Act.direct 64 opening
      let text ← Act.takeText 64
      modify fun s => { s with descriptors := before, innerStatus := some 0 }
      return trimmed (text.toOption.getD "")
  | none =>
    let pipe ← Act.newPipe .empty
    let opening ← Act.newOpening ⟨.pipe pipe, 0, false, false, true⟩
    let keepsErrexit := s.isStrict || s.hasExtra "inherit_errexit"
    let setup (c : State) : State :=
      withDescriptor 1 opening { c with
        options := if keepsErrexit then c.options else c.options.filter (· != "errexit")
        isTested := c.isTested && !c.isStrict
        lostStatus := 1
        isSubstituting := true
        traceDepth := if c.isStrict then 0 else c.traceDepth + 1 }
    let e ← Act.inChild setup (untilEnd inner (runText inner kind text s.line))
    if s.isStrict then
      e.signal.forM fun signal => Builtin.tellEnd true e.state.process text signal
    let p := ((← get).world.pipes[pipe]?).getD .empty
    Act.passUntil p.heldUntil
    let p := ((← get).world.pipes[pipe]?).getD .empty
    let output := String.join (p.chunks.map (·.text))
    modify fun s => { s with
      innerStatus := some e.state.status
      status := if s.isStrict then s.status else e.state.status }
    Act.modifyPipe pipe fun _ => .empty
    Act.forgetEnded
    if output.contains '\x00' then
      if !s.isStrict then
        Act.complain "warning: command substitution: ignored null byte in input"
      return trimmed (String.ofList (output.toList.filter (· != '\x00')))
    else return trimmed output
where
  trimmed (s : String) : String :=
    String.ofList (s.toList.reverse.dropWhile (· == '\n')).reverse

/-- Runs what has to be run for a word. -/
def substitute : Substitution → Act String
  | .output text => outputOf inner .laidOut text
  | .rawOutput text => outputOf inner .substitution text
  | .source text => do
    let s ← get
    let pipe ← Act.newPipe .empty
    let writing ← Act.newOpening ⟨.pipe pipe, 0, false, false, true⟩
    let finish ← beside
      (fun c => withDescriptor 1 writing { c with isTested := false, outerTraps := [] })
      (untilEnd inner (runText inner .laidOut text s.line))
    Act.holdUntil [pipe] finish
    let reading ← Act.newOpening ⟨.pipe pipe, 0, false, true, false⟩
    let n := substitutedDescriptor (← get)
    Act.direct n reading
    modify fun s => { s with substituted := n :: s.substituted }
    return "/dev/fd/" ++ toString n
  | .sink text => do
    let pipe ← Act.newPipe .empty
    let writing ← Act.newOpening ⟨.pipe pipe, 0, false, false, true⟩
    let n := substitutedDescriptor (← get)
    Act.direct n writing
    modify fun s => { s with substituted := n :: s.substituted, sinks := (pipe, text) :: s.sinks }
    return "/dev/fd/" ++ toString n

/-- Closes what stands for commands, as far as it has been opened since an earlier state, and lets
those commands read what is for them. -/
def closeSubstituted (before : State) : Act Unit := do
  let s ← get
  if s.substituted.length > before.substituted.length || s.sinks.length > before.sinks.length then
    let fresh := s.substituted.take (s.substituted.length - before.substituted.length)
    let sinks := s.sinks.take (s.sinks.length - before.sinks.length)
    set { s with
      descriptors := s.descriptors.filter fun d => !fresh.contains d.1
      substituted := before.substituted
      sinks := before.sinks }
    sinks.reverse.forM fun sink => do
      Act.holdUntil [sink.1] (← get).now
      let reading ← Act.newOpening ⟨.pipe sink.1, 0, false, true, false⟩
      let _ ← beside (fun c => withDescriptor 0 reading { c with isTested := false })
        (untilEnd inner (runText inner .laidOut sink.2 s.line))

/-- Does something with redirections, which hold no longer than that. Nothing is done if they are
not possible; the status is that of a failure then. -/
def redirected (rs : List Redirection) (act : Act α) : Act (Option α) := do
  if rs.isEmpty then return some (← act)
  else
    let before := (← get).descriptors
    let reserved := (← get).reserved
    let touched := Redirecting.touched rs
    let restore (lasting : List Nat) : Act Unit :=
      modify fun s => { s with
        descriptors := Redirecting.restored s before touched lasting, reserved := reserved }
    modify (Redirecting.reserve touched)
    let isDone ←
      try Redirecting.all (substitute inner) rs
      catch e =>
        restore []
        throw e
    let lasting ← Redirecting.lasting (substitute inner) rs
    if isDone then some <$> Act.protect act (restore lasting)
    else
      restore lasting
      return none

/-- Runs a program with redirections. They are carried out in its own process, so that what they do
to variables is lost, and what goes wrong with them is wrong there only. -/
def redirectedApart (rs : List Redirection) (act : Act α) : Act (Option α) := do
  if rs.isEmpty then return some (← act)
  else
    let s ← get
    let restore : Act Unit := modify fun t => { t with
      bindings := s.bindings, scopes := s.scopes, descriptors := s.descriptors }
    let run : Act (Option α) := do
      let isDone ←
        try Redirecting.all (substitute inner) rs
        catch e => if e == .leaving || e == .discarding then pure false else throw e
      if isDone then some <$> act else return none
    Act.protect run restore

/-- Does something while failures are looked at. -/
def tested (act : Act α) : Act α := do
  let before := (← get).isTested
  modify fun s => { s with isTested := true }
  Act.protect act (modify fun s => { s with isTested := before })

def call (name : String) (f : Function) (args : List String) : Act Unit := do
  let s ← get
  set { s with
    scopes := ⟨true, name, f.source, s.line, none, []⟩ :: s.scopes
    line := if f.line = 0 then 0 else s.line
    parameters := args
    source := if s.isStrict then s.source else f.source
    compoundLine := f.line
    loopDepth := 0 }
  let restore : Act Unit := do
    modify fun t => { t.leaveScope with
      options := ((t.scopes.head?).bind (·.options)).getD t.options
      parameters := s.parameters
      source := s.source
      line := s.line
      compoundLine := s.compoundLine
      loopDepth := s.loopDepth }
    match (← get).lostCount with
    | some hasLostSource =>
      let source := (← get).source
      if hasLostSource then modify fun t => { t with source := "environment" }
      Act.complain "pop_var_context: head of shell_variables not a function context"
      modify fun t => { t with source := source }
    | none => return ()
  let body : Act Unit := do
    if s.hasOption "functrace" then runDebug inner
    try inner f.body
    catch e => if e == .returning then pure () else throw e
    runTrap inner "RETURN"
  /- What is done at the end of a function is what it has asked for itself. -/
  let outer := s.traps.get? "RETURN"
  if s.hasOption "functrace" || outer.isNone then Act.protect body restore
  else
    modify fun t => { t with traps := t.traps.erase "RETURN" }
    Act.protect body (do
      restore
      if ((← get).traps.get? "RETURN").isNone then
        modify fun t => { t with traps := t.traps.insert "RETURN" (outer.getD "") })

end

end Evaluation

end GatedPipeline.Shell
