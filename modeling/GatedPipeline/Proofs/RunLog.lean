import GatedPipeline.Proofs.Conclusion
import GatedPipeline.Proofs.Identity
import GatedPipeline.Run.Basic

namespace GatedPipeline

def Milestone.instanceNumber : Milestone → Nat
  | .started i => i
  | .finished i _ => i

def RunEvent.instance? : RunEvent → Option InstanceId
  | .jobStarted id => some id
  | .jobFinished id _ _ _ => some id
  | .runStarted .. | .runFinished .. => none

def InstanceReport.story (r : InstanceReport) : List RunEvent :=
  let ended := .jobFinished r.id r.state r.reason r.duration
  if r.state = .succeeded ∨ r.state = .failed then [.jobStarted r.id, ended] else [ended]

/-- The events tell the story of each report and are about no other instances. -/
structure RunEvent.Tell (events : List RunEvent) (reports : List InstanceReport) : Prop where
  distinct : (reports.map (·.id)).Nodup
  about : ∀ e ∈ events, ∃ r ∈ reports, e.instance? = some r.id
  stories : ∀ r ∈ reports, events.filter (·.instance? == some r.id) = r.story

theorem JobState.hasStarted_iff_of_isTerminal {state : JobState} (h : state.isTerminal = true) :
    state.hasStarted = true ↔ state = .succeeded ∨ state = .failed := by
  revert h
  cases state <;> decide

namespace Progress

def milestonesOf (i : Nat) (ms : List Milestone) : List Milestone :=
  ms.filter (·.instanceNumber == i)

theorem milestonesOf_snoc (i : Nat) (ms : List Milestone) (m : Milestone) :
    milestonesOf i (ms ++ [m]) =
      if m.instanceNumber = i then milestonesOf i ms ++ [m] else milestonesOf i ms := by
  split <;> rename_i hm <;> simp [milestonesOf, List.filter_append, hm]

theorem mem_milestonesOf {i : Nat} {ms : List Milestone} {m : Milestone} :
    m ∈ milestonesOf i ms ↔ m ∈ ms ∧ m.instanceNumber = i := by
  simp [milestonesOf]

inductive Story (i : Nat) : List Milestone → Prop where
  | untold : Story i []
  | started : Story i [.started i]
  | spared (r : InstanceReport) (idle : r.state.hasStarted = false) : Story i [.finished i r]
  | ended (r : InstanceReport) (ran : r.state.hasStarted = true) :
      Story i [.started i, .finished i r]

theorem Story.start {i : Nat} {past : List Milestone} (h : Story i past)
    (first : .started i ∉ past) (unfinished : ∀ r, .finished i r ∉ past) :
    Story i (past ++ [.started i]) := by
  cases h with
  | untold => exact .started
  | started | ended => exact absurd List.mem_cons_self first
  | spared r _ => exact absurd List.mem_cons_self (unfinished r)

theorem Story.finish {i : Nat} {past : List Milestone} (h : Story i past) {r : InstanceReport}
    (first : ∀ r', .finished i r' ∉ past)
    (ran : .started i ∈ past ↔ r.state.hasStarted = true) :
    Story i (past ++ [.finished i r]) := by
  cases h with
  | untold =>
    refine .spared r (Bool.eq_false_iff.mpr fun hr => ?_)
    cases ran.mpr hr
  | started => exact .ended r (ran.mp List.mem_cons_self)
  | spared r' _ => exact absurd List.mem_cons_self (first r')
  | ended r' _ => exact absurd (List.mem_cons_of_mem _ List.mem_cons_self) (first r')

/-- At all times each instance has a story, whatever is told of the others in between. -/
theorem Orderly.story {g : JobGraph} {event : Event} {ms : List Milestone}
    (h : Orderly g event ms) (i : Nat) : Story i (milestonesOf i ms) := by
  induction h with
  | nil => exact .untold
  | started _ _ _ first unfinished ih =>
    rw [milestonesOf_snoc]
    split
    · rename_i hj
      cases hj
      exact ih.start (fun hm => first (mem_milestonesOf.mp hm).1)
        fun r hm => unfinished r (mem_milestonesOf.mp hm).1
    · exact ih
  | finished _ first ran ih =>
    rw [milestonesOf_snoc]
    split
    · rename_i hj
      cases hj
      refine ih.finish (fun r' hm => first r' (mem_milestonesOf.mp hm).1) ?_
      rw [mem_milestonesOf, ← ran]
      exact and_iff_left rfl
    · exact ih

/-- The story of an instance that has finished. -/
theorem Story.of_finished {i : Nat} {past : List Milestone} (h : Story i past)
    {r : InstanceReport} (hr : .finished i r ∈ past) :
    past = if r.state.hasStarted then [.started i, .finished i r] else [.finished i r] := by
  cases h with
  | untold => cases hr
  | started => cases List.mem_singleton.mp hr
  | spared r' hidle =>
    cases List.mem_singleton.mp hr
    rw [if_neg (by rw [hidle]; exact Bool.false_ne_true)]
  | ended r' hran =>
    rcases List.mem_cons.mp hr with he | he
    · cases he
    · cases List.mem_singleton.mp he
      rw [if_pos hran]

/-- Where no identity is used twice, it gives the number of its instance. -/
theorem idOf_inj {g : JobGraph} (hids : (g.nodes.map (·.id)).Nodup) {i j : Nat}
    (hi : i < g.size) (hj : j < g.size) (he : idOf g i = idOf g j) : i = j := by
  obtain ⟨n, hn⟩ := JobGraph.node?_of_lt hi
  obtain ⟨m, hm⟩ := JobGraph.node?_of_lt hj
  rw [Scheduler.idOf_of_node hn, Scheduler.idOf_of_node hm] at he
  have hlt : i < (g.nodes.map (·.id)).length := by
    rw [List.length_map]
    exact hi
  refine (List.getElem?_inj hlt hids).mp ?_
  rw [List.getElem?_map, List.getElem?_map]
  change (g.node? i).map _ = (g.node? j).map _
  rw [hn, hm, Option.map_some, Option.map_some, he]

end Progress

namespace Scheduler

variable {σ : Type} {g : JobGraph} {event : Event} {fs : List Flight} {s : Session σ}

theorem Ended.instance_of_milestone (hg : g.Sound) (h : Ended g event fs s) {m : Milestone}
    (hm : m ∈ s.progress.milestones) :
    m.instanceNumber < g.size ∧
      (RunEvent.ofMilestone g m).instance? = some (Progress.idOf g m.instanceNumber) := by
  have hlogged := h.steady.coherent.logged
  cases m with
  | started i =>
    obtain ⟨state, hs, _⟩ := (hlogged.started i).mp hm
    obtain ⟨t, ht, _⟩ := Progress.state?_eq_some_iff.mp hs
    exact ⟨h.steady.coherent.accurate.lt_size ht, rfl⟩
  | finished i r =>
    obtain ⟨t, ht, hr⟩ := (hlogged.finished i r).mp hm
    exact ⟨h.steady.coherent.accurate.lt_size ht, congrArg some (h.report_of_slot hg ht hr).2⟩

theorem Ended.story (hg : g.Sound) (hids : (g.nodes.map (·.id)).Nodup) (h : Ended g event fs s)
    {r : InstanceReport} (hr : r ∈ s.progress.reports) :
    (s.progress.milestones.map (RunEvent.ofMilestone g)).filter (·.instance? == some r.id) =
      r.story := by
  obtain ⟨i, hri⟩ := List.mem_iff_getElem?.mp hr
  obtain ⟨t, ht, hrep, hstate, hid⟩ := h.slot_of_report hg hri
  have hi := h.steady.coherent.accurate.lt_size ht
  -- No identity is used twice: the events about this one are the milestones of its number.
  have hown : s.progress.milestones.filter
      ((fun e : RunEvent => e.instance? == some r.id) ∘ RunEvent.ofMilestone g) =
        Progress.milestonesOf i s.progress.milestones := by
    refine List.filter_congr fun m hm => ?_
    obtain ⟨hm, hinst⟩ := h.instance_of_milestone hg hm
    rw [Function.comp_apply, hinst, hid, Bool.eq_iff_iff, beq_iff_eq, beq_iff_eq,
      Option.some.injEq]
    exact ⟨Progress.idOf_inj hids hm hi, congrArg _⟩
  have hfinished : .finished i r ∈ Progress.milestonesOf i s.progress.milestones :=
    Progress.mem_milestonesOf.mpr
      ⟨(h.steady.coherent.logged.finished i r).mpr ⟨t, ht, hrep⟩, rfl⟩
  obtain ⟨u, hu, hterm⟩ := h.terminal hg hi
  rw [ht, Option.some.injEq] at hu
  subst hu
  have hran := JobState.hasStarted_iff_of_isTerminal (hstate ▸ hterm)
  rw [List.filter_map, hown, (h.steady.coherent.logged.orderly.story i).of_finished hfinished,
    InstanceReport.story]
  simp only [hran]
  split <;> simp only [List.map_cons, List.map_nil, RunEvent.ofMilestone, hid]

/-- What is told during a run is the log of its reports. -/
theorem Ended.tell (hg : g.Sound) (hids : (g.nodes.map (·.id)).Nodup) (h : Ended g event fs s) :
    RunEvent.Tell (s.progress.milestones.map (RunEvent.ofMilestone g)) s.progress.reports := by
  refine ⟨h.ids hg ▸ hids, fun e he => ?_, fun r hr => h.story hg hids hr⟩
  obtain ⟨m, hm, rfl⟩ := List.mem_map.mp he
  obtain ⟨hi, hinst⟩ := h.instance_of_milestone hg hm
  obtain ⟨_, r, _, _, hr, _, hid⟩ := h.report hg hi
  exact ⟨r, List.mem_of_getElem? hr, hinst.trans (congrArg some hid.symm)⟩

end Scheduler

namespace Pipeline

/-- A pipeline whose triggers reject the event runs nothing and tells nothing, and neither does one
whose definition is in error. Otherwise the events are the start of the run with the number of its
instances, the log of its reports, and its end with the status of the report. -/
theorem execute_tells {σ : Type} (p : Pipeline) (setup : RunSetup σ) (event : Event) (s : σ) :
    (Trigger.anyAccepts p.triggers event = false →
        p.execute setup event s = .ok ⟨.notTriggered, [], [], s⟩) ∧
      (Trigger.anyAccepts p.triggers event = true → ∀ e, JobGraph.build p = .error e →
        p.execute setup event s = .error e) ∧
      (Trigger.anyAccepts p.triggers event = true → ∀ g, JobGraph.build p = .ok g →
        ∃ record report told, p.execute setup event s = .ok record ∧
          record.outcome = .completed report ∧
          record.events = .runStarted p.name event report.instances.length ::
            (told ++ [.runFinished report.status report.duration]) ∧
          RunEvent.Tell told report.instances) := by
  refine ⟨fun hreject => ?_, fun haccept e he => ?_, fun haccept g hbuild => ?_⟩
  · rw [execute, hreject]
    rfl
  · rw [execute, haccept, he]
    rfl
  · have hg := JobGraph.build_sound hbuild
    obtain ⟨fs, _, hended⟩ := Scheduler.course_lastSession hg (p.context setup event) setup.store
      setup.runner setup.order setup.startedAt s
    rw [← Scheduler.run_eq hg] at hended
    refine ⟨p.executeGraph setup event g s, _, _, ?_, rfl, ?_,
      hended.tell hg (JobGraph.nodup_ids_of_build hbuild)⟩
    · rw [execute, haccept, hbuild]
      rfl
    · simp only [executeGraph, reportOf, hended.length_reports hg]

def quietSetup : RunSetup Unit := ⟨⟨0⟩, 0, "/work", none, .empty, .scripted [], .byTime⟩

/-- The diamond on a push to a branch, then with a trigger for tags alone, then without jobs. -/
theorem execute_tells_diamond :
    (∃ record report told,
      JobGraph.diamond.execute quietSetup ⟨.push, "refs/heads/main"⟩ () = .ok record ∧
        record.outcome = .completed report ∧
        record.events = .runStarted "diamond" ⟨.push, "refs/heads/main"⟩ report.instances.length ::
          (told ++ [.runFinished report.status report.duration]) ∧
        RunEvent.Tell told report.instances) ∧
      { JobGraph.diamond with triggers := [⟨.push, [], ["v*"]⟩] }.execute quietSetup
        ⟨.push, "refs/heads/main"⟩ () = .ok ⟨.notTriggered, [], [], ()⟩ ∧
      { JobGraph.diamond with jobs := [] }.execute quietSetup ⟨.push, "refs/heads/main"⟩ () =
        .error (.definition (.invalidPipeline "pipeline has no jobs")) :=
  ⟨(execute_tells JobGraph.diamond quietSetup ⟨.push, "refs/heads/main"⟩ ()).2.2 rfl _
      JobGraph.build_diamond,
    (execute_tells { JobGraph.diamond with triggers := [⟨.push, [], ["v*"]⟩] } quietSetup
      ⟨.push, "refs/heads/main"⟩ ()).1 (by decide +kernel),
    (execute_tells { JobGraph.diamond with jobs := [] } quietSetup
      ⟨.push, "refs/heads/main"⟩ ()).2.1 rfl _ rfl⟩

end Pipeline

end GatedPipeline
