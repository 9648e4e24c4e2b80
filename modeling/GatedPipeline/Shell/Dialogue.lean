import GatedPipeline.Shell.Signal

namespace GatedPipeline.Shell.Act

def modifyPipe (n : Nat) (f : Pipe → Pipe) : Act Unit :=
  modify fun s => { s with world := { s.world with pipes := s.world.pipes.modify n f } }

def pipesOf (s : State) : List Nat :=
  (s.descriptors.filterMap fun d =>
    match s.world.openings[d.2]? with
    | some o =>
      match o.target, o.writes with
      | .pipe n, true => some n
      | _, _ => none
    | none => none).eraseDups

def holdUntil (pipes : List Nat) (time : Nat) : Act Unit :=
  pipes.forM fun n => modifyPipe n fun p => { p with heldUntil := max p.heldUntil time }

/-- What jobs that are not settled have to say to a pipe. -/
def pending (s : State) (pipe : Nat) : List Chunk :=
  (s.jobs.filter (!·.isSettled)).flatMap fun j =>
    (j.outcome.written.filter (·.1 == pipe)).map (·.2)

/-- All that is said to a command. It is the whole as soon as nobody can say more. -/
def said (s : State) (d : Dialogue) : Pipe :=
  let p := (s.world.pipes[d.input]?).getD .empty
  let isDropped := d.owner == s.process && p.heldUntil == maxTime && !(pipesOf s).contains d.input
  let others := s.jobs.flatMap fun j => (j.outcome.held.filter (·.1 == d.input)).map (·.2)
  let pieces := (p.chunks ++ pending s d.input).mergeSort fun a b => a.time ≤ b.time
  ⟨pieces, [], p.writes, if isDropped then others.foldl max s.now else p.heldUntil⟩

/-- Lets others read what a command writes to its pipe. What was to come later may have changed. -/
def answer (d : Dialogue) (o : JobOutcome) : Act Unit := do
  let s ← get
  let p := (s.world.pipes[d.output]?).getD .empty
  let here := p.chunks.filter (·.time ≤ s.now)
  let told := d.told - (p.chunks.length - here.length)
  let mine := ((o.written.filter (·.1 == d.output)).map (·.2)).mergeSort fun a b => a.time ≤ b.time
  let finish := ((o.held.filter (·.1 == d.output)).map (·.2)).foldl max 0
  modifyPipe d.output fun p =>
    { p with unread := here ++ mine.drop told, latest := [], heldUntil := finish }
  modify fun s => { s with world := { s.world with
    dialogues := s.world.dialogues.map fun e =>
      if e.process == d.process then { e with told := mine.length } else e } }

def withoutAnswers (d : Dialogue) (o : JobOutcome) : JobOutcome :=
  { o with
    written := o.written.filter (·.1 != d.output)
    held := o.held.filter (·.1 != d.output) }

/-- The command is evaluated anew with all that has been said to it so far. It does the same as
before up to the point where it reads what is new. -/
def attend (d : Dialogue) : Act Unit := do
  let s ← get
  match (s.jobs ++ s.inherited).find? (·.process == d.process) with
  | none => return ()
  | some j =>
    let heard := said s d
    let isNew := heard.unread != j.heard.unread || heard.heldUntil != j.heard.heldUntil
    if isNew && !j.isSettled then
      let o := j.redo heard j.signals
      let hit (k : Job) : Job :=
        if k.process == d.process then { k with heard := heard, outcome := withoutAnswers d o }
        else k
      set { s with
        jobs := s.jobs.map hit
        inherited := s.inherited.map hit
        world := { s.world with
          signals := s.world.signals ++ o.sent.filter fun x => !j.outcome.sent.contains x } }
      modifyPipe d.input fun p => { p with heldUntil := heard.heldUntil }
      answer d o

/-- Lets all commands take in what has been said to them, and what the end of another one lets them
take in. -/
def hear : Act Unit := do
  let all := (← get).world.dialogues
  all.forM fun _ => all.forM attend

/-- Waits until a pipe has something to read. Who waits without end can still be ended by a
signal. -/
def waitToRead (time : Nat) : Act Unit := do
  if time < maxTime then waitUntil time
  else
    match ← deadlyUntil time with
    | some (t, signal) =>
      takeSignal t signal
      waitUntil t
      throw (.killed signal)
    | none => waitUntil time

end GatedPipeline.Shell.Act
