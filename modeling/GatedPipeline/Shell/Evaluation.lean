import GatedPipeline.Shell.Evaluation.Compound

namespace GatedPipeline.Shell

namespace Evaluation

/-- Evaluates the last command of a process; the commands in it which are the last ones of their
process as well know that. -/
def passOn (inner : Command → Act Unit) (isLast : Bool) (c : Command) : Act Unit := do
  modify fun s => { s with isLast := isLast }
  inner c

def all (inner : Command → Act Unit) (isLast : Bool) : List (Command × Bool) → Act Unit
  | [] => return ()
  | [(c, _)] => passOn inner isLast c
  | (c, _) :: cs => do
    inner c
    all inner isLast cs

/-- Evaluates a command of either kind; `isLast` tells whether a program may replace the process. -/
def evaluate (inner : Command → Act Unit) (isLast : Bool) : Command → Act Unit
  | .simple line as ws rs => simple inner line as ws rs
  | .redirected _ (.subshell line c) rs => subshell inner line c rs
  | .redirected line c rs => do
    if !(← afterRedirections inner (.redirected line c rs) c rs) then checkFailure inner
  | .sequence cs => all inner isLast cs
  | .background c => background inner c
  | .coprocess line name c => coprocess inner line name c
  | .both a b => do
    tested (inner a)
    if (← Act.status) == 0 then passOn inner isLast b
  | .either a b => do
    tested (inner a)
    if (← Act.status) != 0 then passOn inner isLast b
  | .negated c => do
    let isDone ←
      match c with
      | .redirected _ (.subshell ..) _ => tested (inner c) *> pure true
      | .redirected _ body rs => tested (afterRedirections inner c body rs)
      | c => tested (inner c) *> pure true
    /- Where the redirections of a command cannot be made, that is a failure all the same. -/
    let n ← Act.status
    Act.setStatus (if isDone && n != 0 then 0 else 1)
  | .timed isBrief c => do
    let start := (← get).now
    inner c
    tellTime isBrief ((← get).now - start)
  | .pipeline cs => pipeline inner cs
  | .group c => do passOn inner (isLast && (← Act.isStrict)) c
  | .subshell line c => subshell inner line c []
  | .arithmetic line t => arithmetic inner line t
  | .test line t => do
    modify fun s => { s with line := line }
    runDebug inner
    let n ← Testing.condition (substitute inner) false t
    Act.setStatus n
    finish inner
  | .conditional test yes no => do
    tested (inner test)
    let isLast := isLast && (← Act.isStrict)
    if (← Act.status) == 0 then passOn inner isLast yes
    else
      match no with
      | some c => passOn inner isLast c
      | none => Act.setStatus 0
  | .loop isUntil test body => loop inner isUntil test body
  | .each line name ws body => each inner line name ws body
  | .menu line name ws body => menu inner line name ws body
  | .count line a b c body => count inner line a b c body
  | .choice line w bs => choice inner line w bs
  | .function line name body => define inner line name body

def step (inner : Command → Act Unit) (c : Command) : Act Unit := do
  let isLast := (← get).isLast
  match c with
  | .simple .. => pure ()
  | _ => modify fun s => { s with isLast := false }
  if c.line != 0 then modify fun s => { s with
    current := if s.keepsCurrent then s.current else some c }
  if !(← get).hasOption "noexec" then evaluate inner isLast c

/-- Evaluates a command whose parts are no deeper than a bound. A shell that goes deeper is ended by
the system. -/
def run : Nat → Command → Act Unit
  | 0, _ => throw (.killed 11)
  | n + 1, c => step (run n) c

def maxDepth : Nat := 5000

def runWith (name : String) (args : List String) : Act Unit := do
  match ← program (run maxDepth) (args.length + 2) name args with
  | some (_, signal) => throw (.killed signal)
  | none => return ()

end Evaluation

end GatedPipeline.Shell
