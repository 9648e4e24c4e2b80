import GatedPipeline.JobGraph
import GatedPipeline.Report

namespace GatedPipeline

/-- An instance waits as blocked until all its dependencies have succeeded, and is skipped as soon
as one of them has ended in any other way. -/
structure Slot where
  state : JobState
  waitingOn : Nat
  report : Option InstanceReport
deriving DecidableEq, Repr

/-- What is told about instances, which are given by their numbers. -/
inductive Milestone where
  | started (instanceNumber : Nat)
  | finished (instanceNumber : Nat) (report : InstanceReport)
deriving DecidableEq, Repr

/-- Slots stand in the order of the instances, milestones in that of time. -/
structure Progress where
  slots : List Slot
  milestones : List Milestone
deriving DecidableEq, Repr

namespace Progress

def initial (g : JobGraph) : Progress :=
  ⟨g.nodes.map fun n => ⟨.pending, n.dependencies.length, none⟩, []⟩

def state? (p : Progress) (i : Nat) : Option JobState := (p.slots[i]?).map (·.state)

def isBlocked (p : Progress) (i : Nat) : Bool := p.state? i == some .blocked

def change (p : Progress) (i : Nat) (f : Slot → Slot) : Progress :=
  { p with slots := p.slots.modify i f }

def enter (p : Progress) (i : Nat) (state : JobState) : Progress :=
  p.change i fun s => { s with state := state }

def tell (p : Progress) (m : Milestone) : Progress :=
  { p with milestones := p.milestones ++ [m] }

def finish (p : Progress) (i : Nat) (report : InstanceReport) : Progress :=
  (p.change i fun s => { s with state := report.state, report := some report }).tell
    (.finished i report)

def start (p : Progress) (i : Nat) : Progress :=
  ((p.enter i .ready).enter i .running).tell (.started i)

/-- One success less to wait for. -/
def release (p : Progress) (i : Nat) : Progress :=
  p.change i fun s => { s with waitingOn := s.waitingOn - 1 }

def idOf (g : JobGraph) (i : Nat) : InstanceId :=
  match g.node? i with
  | none => ⟨"", []⟩
  | some n => n.id

def skipReason (g : JobGraph) (p : Progress) (cause : Nat) : Reason :=
  if p.state? cause = some .failed then .dependencyFailed (g.display cause)
  else .dependencySkipped (g.display cause)

def skip (g : JobGraph) (now : Nat) (reason : Reason) (p : Progress) (i : Nat) : Progress :=
  p.finish i (.notStarted (idOf g i) .skipped reason now)

/-- Skips those of the given instances that are blocked, and lists them. -/
def skipBlocked (g : JobGraph) (now : Nat) (reason : Reason) :
    List Nat → Progress → Progress × List Nat
  | [], p => (p, [])
  | i :: is, p =>
    if p.isBlocked i then
      let (q, skipped) := skipBlocked g now reason is (p.skip g now reason i)
      (q, i :: skipped)
    else skipBlocked g now reason is p

def blockedCount (p : Progress) : Nat := p.slots.countP (·.state == .blocked)

theorem countP_modify {α : Type} (q : α → Bool) (f : α → α) {l : List α} {i : Nat} {a : α}
    (ha : l[i]? = some a) (hq : q a = true) (hf : q (f a) = false) :
    (l.modify i f).countP q + 1 = l.countP q := by
  induction l generalizing i with
  | nil => simp at ha
  | cons b l ih =>
    cases i with
    | zero =>
      simp only [List.getElem?_cons_zero, Option.some.injEq] at ha
      subst ha
      simp [hq, hf]
    | succ i =>
      have h := ih (by simpa using ha)
      simp only [List.modify_succ_cons, List.countP_cons]
      omega

theorem blockedCount_skip (g : JobGraph) (now : Nat) (reason : Reason) {p : Progress} {i : Nat}
    (h : p.isBlocked i = true) : (p.skip g now reason i).blockedCount + 1 = p.blockedCount := by
  simp only [isBlocked, state?, beq_iff_eq, Option.map_eq_some_iff] at h
  obtain ⟨s, hs, hb⟩ := h
  exact countP_modify _ _ hs (by simp [hb]) (by simp [InstanceReport.notStarted])

theorem blockedCount_skipBlocked (g : JobGraph) (now : Nat) (reason : Reason) (is : List Nat)
    (p : Progress) :
    (skipBlocked g now reason is p).1.blockedCount + (skipBlocked g now reason is p).2.length =
      p.blockedCount := by
  induction is generalizing p with
  | nil => simp [skipBlocked]
  | cons i is ih =>
    unfold skipBlocked
    split
    · next h =>
      have := ih (p.skip g now reason i)
      have := blockedCount_skip g now reason h
      simp only [List.length_cons]
      omega
    · exact ih p

/-- Skips everything that waits, directly or through others, for one of the given instances. -/
def skipDependents (g : JobGraph) (now : Nat) (origins : List Nat) (p : Progress) : Progress :=
  match origins with
  | [] => p
  | cause :: rest =>
    let r := skipBlocked g now (p.skipReason g cause) (g.dependents cause) p
    -- What was skipped last is looked at first.
    skipDependents g now (r.2.reverse ++ rest) r.1
termination_by p.blockedCount + origins.length
decreasing_by
  have := blockedCount_skipBlocked g now (p.skipReason g cause) (g.dependents cause) p
  simp only [List.length_append, List.length_reverse, List.length_cons]
  omega

def complete (g : JobGraph) (now : Nat) (i : Nat) (report : InstanceReport) (p : Progress) :
    Progress :=
  let q := p.finish i report
  if report.state.blocksDependents then q.skipDependents g now [i]
  else (g.dependents i).foldl release q

def gateOpen (g : JobGraph) (event : Event) (i : Nat) : Bool :=
  match g.node? i with
  | none => true
  | some n => Condition.gateOpen n.condition event

def conditionText (g : JobGraph) (i : Nat) : String :=
  ((g.node? i).bind fun n => n.condition.map Condition.source).getD ""

/-- An instance whose gate is open is blocked at first; any other ends right away. -/
def passGate (g : JobGraph) (event : Event) (now : Nat) (p : Progress) (i : Nat) : Progress :=
  if gateOpen g event i then p.enter i .blocked
  else
    p.finish i
      (.notStarted (idOf g i) .gatedSkip (.skippedByCondition (conditionText g i)) now)

def closedGates (g : JobGraph) (event : Event) : List Nat :=
  g.indices.filter (!gateOpen g event ·)

/-- All gates are looked at once, before anything runs. -/
def afterGates (g : JobGraph) (event : Event) (now : Nat) : Progress :=
  (closedGates g event).foldl (fun p i => p.skipDependents g now [i])
    (g.indices.foldl (passGate g event now) (initial g))

/-- The instances that wait for nothing any more, in their order. -/
def ready (g : JobGraph) (p : Progress) : List Nat :=
  g.indices.filter fun i =>
    (p.slots[i]?).any fun s => s.state == .blocked && s.waitingOn == 0

def neverScheduled : String := "instance was never scheduled"

/-- An instance without a report at the end of a run has failed. -/
def close (g : JobGraph) (now : Nat) (p : Progress) : Progress :=
  (g.indices.filter fun i => (p.slots[i]?).any (·.report.isNone)).foldl
    (fun p i => p.finish i (.notStarted (idOf g i) .failed (.executionError neverScheduled) now)) p

def reports (p : Progress) : List InstanceReport := p.slots.filterMap (·.report)

end Progress

end GatedPipeline
