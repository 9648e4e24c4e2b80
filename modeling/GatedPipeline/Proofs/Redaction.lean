import GatedPipeline.Run.Basic

namespace GatedPipeline

def StepReport.redacted (r : StepReport) : StepReport :=
  { r with duration := 0, output := r.output.map fun _ => "" }

/-- The message of a failed step may tell what the step was given. -/
def Reason.redacted : Reason → Reason
  | .stepFailed step exitCode message => .stepFailed step exitCode (message.map fun _ => "")
  | r => r

/-- Of the output the number of lines is left, of the times that they are there. -/
def InstanceReport.redacted (r : InstanceReport) : InstanceReport :=
  { r with
    reason := r.reason.redacted
    steps := r.steps.map StepReport.redacted
    startedAt := r.startedAt.map fun _ => 0
    completedAt := r.completedAt.map fun _ => 0
    duration := r.duration.map fun _ => 0 }

def StepsEnd.redacted : StepsEnd → StepsEnd
  | .failed reason => .failed reason.redacted
  | e => e

def StepsRun.redacted (r : StepsRun) : StepsRun :=
  ⟨r.reports.map StepReport.redacted, r.ending.redacted, [], 0⟩

def Slot.redacted (s : Slot) : Slot := { s with report := s.report.map InstanceReport.redacted }

def Milestone.redacted : Milestone → Milestone
  | .started i => .started i
  | .finished i r => .finished i r.redacted

def Progress.redacted (p : Progress) : Progress :=
  ⟨p.slots.map Slot.redacted, p.milestones.map Milestone.redacted⟩

def RunEvent.redacted : RunEvent → RunEvent
  | .jobFinished id state reason duration =>
    .jobFinished id state reason.redacted (duration.map fun _ => 0)
  | .runFinished status _ => .runFinished status 0
  | e => e

def RunReport.redacted (r : RunReport) : RunReport :=
  { r with instances := r.instances.map InstanceReport.redacted, startedAt := 0, completedAt := 0 }

def RunOutcome.redacted : RunOutcome → RunOutcome
  | .notTriggered => .notTriggered
  | .completed r => .completed r.redacted

theorem RunEvent.redacted_ofMilestone (g : JobGraph) (m : Milestone) :
    (ofMilestone g m).redacted = ofMilestone g m.redacted := by
  cases m <;> rfl

theorem RunStatus.aggregate_redacted (rs : List InstanceReport) :
    aggregate (rs.map InstanceReport.redacted) = aggregate rs := by
  simp only [aggregate, List.any_map]
  rfl

theorem InstanceReport.redacted_notStarted (id : InstanceId) (state : JobState) (reason : Reason)
    (now : Nat) : (notStarted id state reason now).redacted =
      notStarted id state reason.redacted 0 := rfl

theorem Execution.redacted_reportOfSteps (n : Instance) (start : Nat) (r : StepsRun) :
    (reportOfSteps n start r).redacted = reportOfSteps n 0 r.redacted := by
  obtain ⟨reports, ending, calls, finishedAt⟩ := r
  cases ending <;> rfl

namespace Progress

variable (g : JobGraph) (event : Event) (now : Nat) (p : Progress) (i : Nat)

@[simp] theorem state?_redacted : p.redacted.state? i = p.state? i := by
  simp only [state?, redacted, List.getElem?_map, Option.map_map]
  rfl

@[simp] theorem isBlocked_redacted : p.redacted.isBlocked i = p.isBlocked i := by
  simp [isBlocked]

theorem reports_redacted : p.redacted.reports = p.reports.map InstanceReport.redacted := by
  simp only [reports, redacted, List.filterMap_map, List.map_filterMap]
  rfl

theorem ready_redacted : p.redacted.ready g = p.ready g := by
  refine List.filter_congr fun i _ => ?_
  simp only [redacted, List.getElem?_map]
  cases p.slots[i]? <;> rfl

theorem redacted_change {f f' : Slot → Slot} (h : ∀ s, (f s).redacted = f' s.redacted) :
    (p.change i f).redacted = p.redacted.change i f' := by
  simp only [redacted, change, mk.injEq, and_true]
  refine List.ext_getElem? fun j => ?_
  simp only [List.getElem?_map, List.getElem?_modify]
  cases p.slots[j]? with
  | none => rfl
  | some s =>
    split
    · exact congrArg some (h s)
    · rfl

theorem redacted_tell (m : Milestone) : (p.tell m).redacted = p.redacted.tell m.redacted := by
  simp [redacted, tell]

theorem redacted_enter (state : JobState) :
    (p.enter i state).redacted = p.redacted.enter i state :=
  p.redacted_change i fun _ => rfl

theorem redacted_release : (p.release i).redacted = p.redacted.release i :=
  p.redacted_change i fun _ => rfl

theorem redacted_start : (p.start i).redacted = p.redacted.start i := by
  simp only [start, redacted_tell, redacted_enter, Milestone.redacted]

theorem redacted_finish (r : InstanceReport) :
    (p.finish i r).redacted = p.redacted.finish i r.redacted := by
  simp only [finish, redacted_tell, Milestone.redacted]
  exact congrArg (tell · _) (p.redacted_change i fun _ => rfl)

theorem redacted_skip (reason : Reason) :
    (p.skip g now reason i).redacted = p.redacted.skip g 0 reason.redacted i := by
  simp only [skip, redacted_finish, InstanceReport.redacted_notStarted]

/-- A skip has a dependency for its reason, of which nothing is left out. -/
theorem skipReason_redacted :
    p.redacted.skipReason g i = (p.skipReason g i).redacted := by
  simp only [skipReason, state?_redacted]
  split <;> rfl

theorem redacted_skipBlocked (reason : Reason) (is : List Nat) :
    skipBlocked g 0 reason.redacted is p.redacted =
      ((skipBlocked g now reason is p).1.redacted, (skipBlocked g now reason is p).2) := by
  induction is generalizing p with
  | nil => rfl
  | cons i is ih =>
    simp only [skipBlocked, isBlocked_redacted]
    split
    · rw [← redacted_skip, ih]
    · exact ih p

-- The calls of `skipDependents` are followed on the full side; on the redacted side the same
-- instances are blocked, so it goes on with the same origins.
theorem redacted_skipDependents (origins : List Nat) :
    (skipDependents g now origins p).redacted = skipDependents g 0 origins p.redacted := by
  induction origins, p using Progress.skipDependents.induct g now with
  | case1 p => simp only [skipDependents]
  | case2 p cause rest r ih =>
    rw [skipDependents, skipDependents, skipReason_redacted, redacted_skipBlocked g now]
    exact ih

/-- What follows from the end of an instance follows just so from the redacted report. -/
theorem redacted_complete (r : InstanceReport) :
    (p.complete g now i r).redacted = p.redacted.complete g 0 i r.redacted := by
  have hstate : r.redacted.state = r.state := rfl
  simp only [complete, hstate, ← redacted_finish]
  split
  · exact redacted_skipDependents g now _ _
  · exact (List.foldl_hom redacted fun p i => (p.redacted_release i).symm).symm

theorem redacted_passGate :
    (passGate g event now p i).redacted = passGate g event 0 p.redacted i := by
  unfold passGate
  split
  · exact p.redacted_enter i .blocked
  · simp only [redacted_finish, InstanceReport.redacted_notStarted, Reason.redacted]

theorem redacted_afterGates :
    (afterGates g event now).redacted = afterGates g event 0 := by
  have hinitial : (initial g).redacted = initial g := by
    simp [initial, redacted, Slot.redacted]
  have hgates : (g.indices.foldl (passGate g event now) (initial g)).redacted =
      g.indices.foldl (passGate g event 0) (initial g) := by
    rw [← List.foldl_hom redacted fun p i => (redacted_passGate g event now p i).symm, hinitial]
  rw [afterGates, afterGates, ← hgates]
  exact (List.foldl_hom redacted fun p i => (redacted_skipDependents g now p [i]).symm).symm

end Progress

end GatedPipeline
