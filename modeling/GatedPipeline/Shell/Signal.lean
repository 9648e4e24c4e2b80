import GatedPipeline.Shell.State

namespace GatedPipeline.Shell

def signalNames : List (String × Nat) :=
  [("HUP", 1), ("INT", 2), ("QUIT", 3), ("ILL", 4), ("TRAP", 5), ("ABRT", 6), ("BUS", 7),
    ("FPE", 8), ("KILL", 9), ("USR1", 10), ("SEGV", 11), ("USR2", 12), ("PIPE", 13), ("ALRM", 14),
    ("TERM", 15), ("STKFLT", 16), ("CHLD", 17), ("CONT", 18), ("STOP", 19), ("TSTP", 20),
    ("TTIN", 21), ("TTOU", 22), ("URG", 23), ("XCPU", 24), ("XFSZ", 25), ("VTALRM", 26),
    ("PROF", 27), ("WINCH", 28), ("IO", 29), ("PWR", 30), ("SYS", 31)]

/-- What signals are called where one has ended a process. -/
def signalDescriptions : List (Nat × String) :=
  [(1, "Hangup"), (2, "Interrupt"), (3, "Quit"), (4, "Illegal instruction"),
    (5, "Trace/breakpoint trap"), (6, "Aborted"), (7, "Bus error"), (8, "Floating point exception"),
    (9, "Killed"), (10, "User defined signal 1"), (11, "Segmentation fault"),
    (12, "User defined signal 2"), (13, "Broken pipe"), (14, "Alarm clock"), (15, "Terminated"),
    (16, "Stack fault"), (24, "CPU time limit exceeded"), (25, "File size limit exceeded"),
    (26, "Virtual timer expired"), (27, "Profiling timer expired"), (29, "I/O possible"),
    (30, "Power failure"), (31, "Bad system call")]

def signalDescription (n : Nat) : String :=
  (signalDescriptions.lookup n).getD ("Unknown signal " ++ toString n)

def signalName (n : Nat) : String :=
  match signalNames.find? (·.2 == n) with
  | some s => s.1
  | none =>
    if n = 34 then "RTMIN" else if n = 64 then "RTMAX"
    else if 34 < n && n ≤ 49 then "RTMIN+" ++ toString (n - 34)
    else if 50 ≤ n && n < 64 then "RTMAX-" ++ toString (64 - n)
    else toString n

/-- Signals that a process gets over without doing anything. -/
def isHarmless (signal : Nat) : Bool := [0, 17, 18, 23, 28].contains signal

def maxTime : Nat := Nat.pow 10 15

namespace Act

/-- What is done for a signal: none if the usual is done. -/
def trap? (signal : Nat) : Act (Option String) := do
  return (← get).traps.get? (signalName signal)

/-- The signals for this process up to a time, the earliest first. -/
def signalsUntil (time : Nat) : Act (List (Nat × Nat)) := do
  let s ← get
  return (s.world.signals.filterMap fun x =>
    if x.1 == s.process && x.2.1 ≤ time then some (x.2.1, x.2.2) else none).mergeSort
      fun a b => a.1 ≤ b.1

/-- The next signal up to a time that ends this process. -/
def deadlyUntil (time : Nat) : Act (Option (Nat × Nat)) := do
  let s ← get
  return (← signalsUntil time).find? fun x =>
    x.2 == 9 || (!isHarmless x.2 && (s.traps.get? (signalName x.2)).isNone)

def takeSignal (time signal : Nat) : Act Unit := do
  let s ← get
  set { s with world := { s.world with
    signals := s.world.signals.erase (s.process, time, signal) } }

end Act

end GatedPipeline.Shell
