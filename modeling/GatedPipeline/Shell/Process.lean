import GatedPipeline.Shell.Channel

namespace GatedPipeline.Shell

namespace Act

/-- The changes from one tree to another, made in a third one. -/
def changed (before after now : Files) : Files :=
  let set (f : Files) (path : String) : Files :=
    match after.entry? path with
    | some e => f.set path e
    | none => f.withEntries (f.entries.erase path)
  let paths := ((before.entries ++ after.entries).map (·.1)).eraseDups
  (paths.filter fun p => before.entry? p != after.entry? p).foldl set now

def settle (o : JobOutcome) : Act Unit := do
  o.written.forM fun w => modifyPipe w.1 (·.add w.2)
  o.held.forM fun h => holdUntil [h.1] h.2
  modify fun s => { s with world := { s.world with
    files := changed o.before o.after s.world.files } }

def count (n : Nat) : Act Unit := modify fun s => { s with ended := s.ended.map (· + n) }

def settleJobs (which : Job → Bool) : Act Unit := do
  hear
  let s ← get
  let fresh := s.jobs.filter fun j => which j && !j.isSettled
  fresh.forM fun j => settle j.outcome
  count fresh.length
  modify fun s => { s with
    jobs := s.jobs.map fun j => if which j then { j with isSettled := true } else j }

def passUntil (time : Nat) : Act Unit := do
  settleJobs fun j => j.outcome.finish ≤ time
  waitUntil time

/-- Waits up to a time; a signal for which something is done ends that, and is told. -/
def waitFor (finish : Nat) : Act (Option Nat) := do
  let s ← get
  let noticed := (← signalsUntil finish).find? fun x =>
    match s.traps.get? (signalName x.2) with
    | some text => !text.isEmpty
    | none => x.2 == 9 || !isHarmless x.2
  match noticed with
  | none =>
    passUntil finish
    return none
  | some (time, signal) =>
    passUntil time
    if signal != 9 && (s.traps.get? (signalName signal)).isSome then return some signal
    else
      takeSignal time signal
      throw (.killed signal)

/-- Does nothing for a while. A signal that ends the process ends it in the middle, while the
program that it waits for goes on. -/
def sleepFor (duration : Nat) : Act Unit := do
  let s ← get
  let finish := s.now + duration
  match ← deadlyUntil finish with
  | some (time, signal) =>
    if !s.isReplaced then holdUntil (pipesOf s) finish
    takeSignal time signal
    passUntil time
    throw (.killed signal)
  | none => passUntil finish

def childOf (s : State) : State :=
  { s with
    depth := s.depth + 1
    jobs := []
    coprocess := none
    ended := some 0
    inherited :=
      s.jobs.map (fun j => if s.isStrict then { j with number := 0 } else j) ++ s.inherited
    process := s.world.nextProcess
    ancestors := s.process :: s.ancestors
    substituted := []
    sinks := []
    isReplaced := false
    isLast := false
    isSubstituting := false
    failedCalls := none
    lostCount := none
    traps := s.traps.filter fun t =>
      (t.2.isEmpty && t.1 != "EXIT") || (t.1 == "ERR" && s.hasOption "errtrace") ||
        ((t.1 == "DEBUG" || t.1 == "RETURN") && s.hasOption "functrace")
    outerTraps := if s.isStrict then [] else s.outerTraps.insertAll s.traps
    isTrapping := false
    loopDepth := if s.isStrict then s.loopDepth else 0
    world := { s.world with nextProcess := s.world.nextProcess + 1 } }

structure Ended where
  state : State
  signal : Option Nat
  isEndless : Bool

/-- Evaluates a child to its end, what it leaves in the background included. -/
def evaluateChild (act : Act Unit) (child : State) : Ended :=
  let whole : Act (Option Nat) := do
    let signal : Option Nat ←
      try
        act
        pure none
      catch i =>
        match i with
        | .killed n =>
          setStatus (128 + n)
          pure (some n)
        | .endless => throw .endless
        | _ => pure none
    let s ← get
    /- Nothing is said any more to those that it has talked to. -/
    set { s with descriptors := [] }
    settleJobs fun _ => true
    modify fun t => { t with now := s.now, descriptors := s.descriptors }
    return signal
  match whole child with
  | .ok signal c => ⟨c, signal, false⟩
  | .error _ c => ⟨c, none, true⟩

/-- Does something at the end, also where what comes before is broken off. -/
def protect (act : Act α) (after : Act Unit) : Act α := do
  let result ←
    try act
    catch e =>
      after
      throw e
  after
  return result

/-- Forgets the command beside the shell once it has ended. -/
def forgetEnded : Act Unit := do
  if (← get).coprocess.isSome then
    hear
    let s ← get
    match s.coprocess with
    | none => return ()
    | some c =>
      if (s.jobs.find? (·.process == c.process)).all (·.outcome.finish ≤ s.now) then
        let t := { s with
          coprocess := none
          descriptors := s.descriptors.filter fun d => !c.descriptors.contains d.1 }
        set ((t.forgetVariable c.name).forgetVariable (c.name ++ "_PID"))

/-- Closes a descriptor; where it is one for the command beside the shell, that is told. -/
def shut (n : Nat) : Act Unit := do
  close n
  let s ← get
  match s.coprocess with
  | none => return ()
  | some c =>
    if c.descriptors.contains n then
      let c := { c with
        reading := c.reading.filter (· != n), writing := c.writing.filter (· != n) }
      set ({ s with coprocess := some c }.modifyVariable c.name fun v => { v with value := c.value })

/-- A child that cannot talk to the command that runs beside its parent. -/
def withoutCoprocess (s : State) (child : State) : State :=
  let closed := (s.coprocess.map (·.descriptors)).getD []
  { child with descriptors := child.descriptors.filter fun d => !closed.contains d.1 }

/-- A child that does not list the jobs of its parent. -/
def withoutListed (s : State) : State :=
  { s with inherited := s.inherited.map fun j => { j with number := 0 } }

def notice (process : Nat) (signals : List (Nat × Nat × Nat)) : Act Unit := do
  let s ← get
  match s.jobs.find? (·.process == process) with
  | none => return ()
  | some j =>
    let all := j.signals ++ signals
    let o := j.redo j.heard all
    let talk := s.world.dialogues.find? (·.process == process)
    let shown := (talk.map fun d => withoutAnswers d o).getD o
    let hit (k : Job) : Job :=
      if k.process == process then { k with signals := all, outcome := shown } else k
    set { s with jobs := s.jobs.map hit }
    talk.forM fun d => answer d o

/-- Lets jobs that have not ended notice the signals that others have sent to them. -/
def deliver : Act Unit := do
  let s ← get
  let forJob (j : Job) : List (Nat × Nat × Nat) :=
    s.world.signals.filter fun x => x.1 == j.process && x.2.1 < j.outcome.finish && !j.isSettled
  let hit := (s.jobs.map fun j => (j.process, forJob j)).filter (!·.2.isEmpty)
  if !hit.isEmpty then
    hit.forM fun x => notice x.1 x.2
    modify fun t => { t with world := { t.world with
      signals := t.world.signals.filter fun x => !s.jobs.any (·.process == x.1) } }

def inChild (setup : State → State) (act : Act Unit) : Act Ended := do
  let s ← get
  let e := evaluateChild act (setup (childOf s))
  set { s with
    world := { e.state.world with limit := s.world.limit }
    now := e.state.now
    random := e.state.random }
  if e.isEndless then throw .endless
  if e.state.process != s.process then count 1
  deliver
  modify fun t => { t with
    jobs := t.jobs.map fun j => { j with isNoticed := j.isNoticed || j.outcome.finish ≤ t.now } }
  return e

/-- Begins a child that is not waited for. `setup` opens what it writes to before it is on its own,
and tells whether that is possible. What is said to it comes through `input`, and what it answers
goes through `output`. -/
def launch (text : String) (isReplaced : Bool) (pipes : Option (Nat × Nat)) (setup : Act Bool)
    (act : Act Unit) : Act Unit := do
  let s ← get
  let process := s.world.nextProcess
  let whole : Act Unit := do
    if ← setup then
      modify fun c => { c with held := pipesOf c }
      act
  let redo (heard : Pipe) (signals : List (Nat × Nat × Nat)) : JobOutcome :=
    let child := withoutListed (childOf s)
    let world := { child.world with signals := child.world.signals ++ signals }
    let world :=
      match pipes with
      | none => world
      | some p => { world with
          pipes := world.pipes.modify p.1 fun _ => heard
          limit := some (world.limit.getD maxTime) }
    let e := evaluateChild whole { child with world := world, isReplaced := isReplaced }
    let after := e.state.world
    let finish := if e.isEndless then maxTime else e.state.now
    let shared := (List.range s.world.pipes.size).filter (some · != pipes.map (·.1))
    { finish := finish
      status := e.state.status
      signal := e.signal
      written := shared.flatMap fun k =>
        match world.pipes[k]?, after.pipes[k]? with
        | some p, some q => ((q.latest.take (q.writes - p.writes)).reverse).map (k, ·)
        | _, _ => []
      held := (e.state.held.map (·, finish)) ++ shared.filterMap fun k =>
        match world.pipes[k]?, after.pipes[k]? with
        | some p, some q => if p.heldUntil < q.heldUntil then some (k, q.heldUntil) else none
        | _, _ => none
      sent := after.signals.filter fun x => x.1 != process && !world.signals.contains x
      before := world.files
      after := after.files }
  let heard : Pipe := { Pipe.empty with heldUntil := maxTime }
  let outcome := redo heard []
  let number := ((s.jobs.filter (s.now < ·.outcome.finish)).map (·.number)).foldl max 0 + 1
  let talk := pipes.map fun p => Dialogue.mk process s.process p.1 p.2 0
  let shown := (talk.map fun d => withoutAnswers d outcome).getD outcome
  set { s with
    jobs := s.jobs ++ [Job.mk number process text [] false false false shown heard redo]
    lastJob := some process
    status := 0
    world := { s.world with
      nextProcess := process + 1
      dialogues := s.world.dialogues ++ talk.toList
      signals := s.world.signals ++ outcome.sent } }
  talk.forM fun d => answer d outcome
  deliver

/-- Sends a signal to a process; tells whether there is one. -/
def send (process signal : Nat) : Act Bool := do
  let s ← get
  if process == s.process || s.ancestors.contains process then
    if signal != 0 then
      set { s with world := { s.world with
        signals := s.world.signals ++ [(process, s.now, signal)] } }
    return true
  else
    match s.jobs.find? (·.process == process) with
    | none =>
      if s.inherited.any fun j => j.process == process && s.now < j.outcome.finish then
        if signal != 0 then
          set { s with world := { s.world with
            signals := s.world.signals ++ [(process, s.now, signal)] } }
        return true
      else return false
    | some j =>
      if j.outcome.finish ≤ s.now then return false
      else if signal == 0 then return true
      else
        notice process [(process, s.now, signal)]
        return true

end Act

end GatedPipeline.Shell
