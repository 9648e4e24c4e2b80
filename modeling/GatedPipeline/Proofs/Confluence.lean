import GatedPipeline.Proofs.Resolution
import GatedPipeline.Proofs.RunHistory
import GatedPipeline.Proofs.Timeless
import GatedPipeline.Run.Basic

namespace GatedPipeline

def RunEvent.timeless : RunEvent → RunEvent
  | .jobFinished id state reason duration =>
    .jobFinished id state reason.anonymous (duration.map fun _ => 0)
  | .runFinished status _ => .runFinished status 0
  | e => e

theorem Progress.anonymous_skipReason (g : JobGraph) (p : Progress) (cause : Nat) :
    (p.skipReason g cause).anonymous = .dependencySkipped "" := by
  unfold skipReason
  split <;> rfl

/-- Two slots of an instance that show the same state have reports that differ in times only, and
in the dependency that is named for a skip. -/
theorem Progress.Standing.timeless_eq {g : JobGraph} {event : Event} {due due' : List Nat}
    {p p' : Progress} {i : Nat} {s s' : Slot} {r r' : InstanceReport}
    (h : Standing g event due p i s) (h' : Standing g event due' p' i s')
    (hstate : s.state = s'.state) (hr : s.report = some r) (hr' : s'.report = some r')
    (hown : s.state.hasStarted = true → r.timeless = r'.timeless) : r.timeless = r'.timeless := by
  rcases h.state_of_report (hr ▸ Option.some_ne_none r) with hgated | hskipped | hstarted
  · obtain ⟨_, now, he⟩ := h.report_of_gatedSkip hgated
    obtain ⟨_, now', he'⟩ := h'.report_of_gatedSkip (hstate ▸ hgated)
    rw [Option.some.inj (hr.symm.trans he), Option.some.inj (hr'.symm.trans he')]
    rfl
  · obtain ⟨_, cause, _, _, now, he⟩ := h.report_of_skipped hskipped
    obtain ⟨_, cause', _, _, now', he'⟩ := h'.report_of_skipped (hstate ▸ hskipped)
    rw [Option.some.inj (hr.symm.trans he), Option.some.inj (hr'.symm.trans he')]
    simp only [InstanceReport.timeless, InstanceReport.notStarted, anonymous_skipReason,
      Option.map_some]
  · exact hown hstarted

namespace Scheduler

variable {σ τ : Type}

/-- What an instance hands to the runner when it is executed on its own. -/
def contextsOf (c : RunContext) (store : SecretStore) (runner : StepRunner σ) (g : JobGraph)
    (start : σ) (i : Nat) : List StepContext :=
  match g.node? i with
  | none => []
  | some n => (Execution.run c store runner n 0 [] start).1.calls.map Call.context

variable {c : RunContext} {store : SecretStore} {runner : StepRunner σ} {runner' : StepRunner τ}
  {g : JobGraph} {now now' : Nat} {start : σ} {start' : τ} {fs fs' : List Flight}
  {s : Session σ} {s' : Session τ} {order : CompletionOrder} {event : Event} {i : Nat}
  {answer : StepContext → List String × Option StepEnd}

section Answers

variable (h : runner.Answers answer) (h' : runner'.Answers answer)
  (hp : store.PlainFor g)

include h h' hp

/-- In two runs an instance is executed alike. -/
theorem Course.alike (hc : Course c store runner g now start fs s)
    (hc' : Course c store runner' g now' start' fs' s') {f f' : Flight} (hf : f ∈ fs)
    (hf' : f' ∈ fs') (he : f.instanceNumber = f'.instanceNumber) : f.run.Alike f'.run := by
  obtain ⟨before, after, hsplit⟩ := List.append_of_mem hf
  obtain ⟨u, n, hu, _, hn, hrun⟩ := hc.execution hsplit
  obtain ⟨before', after', hsplit'⟩ := List.append_of_mem hf'
  obtain ⟨v, m, hv, _, hm, hrun'⟩ := hc'.execution hsplit'
  rw [← he, hn, Option.some.injEq] at hm
  subst hm
  have hplain := hp.node hn
  rw [hrun, hrun']
  exact Execution.run_alike h h' (ScopedSecrets.resolve_eq (hu.truthful hp) (hv.truthful hp) hplain
    hplain fun _ _ => rfl) u.now v.now u.runnerState v.runnerState

/-- The calls of a run are those of its executions, each as if it were the only one. -/
theorem Course.contexts (hc : Course c store runner' g now' start' fs' s') (start : σ) :
    (fs'.flatMap (·.run.calls)).map Call.context =
      (fs'.map Flight.instanceNumber).flatMap (contextsOf c store runner g start) := by
  induction hc with
  | opening => rfl
  | @launched fs s i n hc _ hn ih =>
    have hplain := hp.node hn
    have halike := Execution.run_alike (c := c) (n := n) h' h (ScopedSecrets.resolve_eq
      (hc.truthful hp) (SecretStore.truthful_nil store) hplain hplain fun _ _ => rfl) s.now 0
      s.runnerState start
    rw [List.flatMap_append, List.map_append, ih, List.map_append, List.flatMap_append]
    refine congrArg _ ?_
    simp only [List.flatMap_cons, List.flatMap_nil, List.append_nil, List.map_cons, List.map_nil,
      contextsOf, hn]
    exact halike.contexts
  | landed _ _ _ ih => exact ih

end Answers

theorem Ended.state?_eq (hg : g.Sound) (h : Ended g event fs s) (i : Nat) :
    s.progress.state? i = (s.progress.reports[i]?).map (·.state) := by
  by_cases hi : i < g.size
  · obtain ⟨r, hr, hs⟩ := h.report_state hg hi
    rw [hr, hs]
    rfl
  · have hsize : g.size ≤ i := Nat.le_of_not_lt hi
    rw [List.getElem?_eq_none (by rw [h.length_reports hg]; exact hsize), Progress.state?,
      List.getElem?_eq_none (by rw [h.steady.coherent.accurate.size]; exact hsize)]
    rfl

theorem Ended.finished_iff (hg : g.Sound) (h : Ended g event fs s) :
    (∃ r, .finished i r ∈ s.progress.milestones) ↔ i < g.size := by
  simp only [h.steady.coherent.logged.finished]
  constructor
  · rintro ⟨r, t, ht, _⟩
    exact h.steady.coherent.accurate.lt_size ht
  · intro hi
    obtain ⟨t, r, ht, hr, _⟩ := h.slot hg hi
    exact ⟨r, t, ht, hr⟩

/-- Where the states agree, what is told of which instance is the same but for the order. -/
theorem Ended.kinds_perm (hg : g.Sound) (h : Ended g event fs s) (h' : Ended g event fs' s')
    (hstate : ∀ i, s.progress.state? i = s'.progress.state? i) :
    (s.progress.milestones.map Milestone.kind).Perm
      (s'.progress.milestones.map Milestone.kind) := by
  have hlogged := h.steady.coherent.logged
  have hlogged' := h'.steady.coherent.logged
  refine (List.perm_ext_iff_of_nodup hlogged.orderly.nodup_kinds
    hlogged'.orderly.nodup_kinds).mpr fun k => ?_
  cases k with
  | inl i =>
    rw [Progress.inl_mem_kinds, Progress.inl_mem_kinds, hlogged.started, hlogged'.started, hstate]
  | inr i =>
    rw [Progress.inr_mem_kinds, Progress.inr_mem_kinds, h.finished_iff hg, h'.finished_iff hg]

theorem Ended.starts_perm (h : Ended g event fs s) (h' : Ended g event fs' s')
    (hstate : ∀ i, s.progress.state? i = s'.progress.state? i) :
    (fs.map Flight.instanceNumber).Perm (fs'.map Flight.instanceNumber) := by
  refine (List.perm_ext_iff_of_nodup h.steady.nodup h'.steady.nodup).mpr fun i => ?_
  rw [h.steady.launched, h'.steady.launched, Progress.starts, Progress.starts,
    Progress.mem_startsIn, Progress.mem_startsIn, h.steady.coherent.logged.started,
    h'.steady.coherent.logged.started, hstate]

theorem Ended.reports_timeless (hg : g.Sound) (h : Ended g event fs s)
    (h' : Ended g event fs' s') (hstate : ∀ i, s.progress.state? i = s'.progress.state? i)
    (halike : ∀ f ∈ fs, ∀ f' ∈ fs', f.instanceNumber = f'.instanceNumber → f.run.Alike f'.run) :
    s.progress.reports.map InstanceReport.timeless =
      s'.progress.reports.map InstanceReport.timeless := by
  refine List.ext_getElem? fun i => ?_
  rw [List.getElem?_map, List.getElem?_map]
  by_cases hi : i < g.size
  · obtain ⟨t, r, ht, hrep, hr, _⟩ := h.report hg hi
    obtain ⟨t', r', ht', hrep', hr', _⟩ := h'.report hg hi
    have hsame : t.state = t'.state := by
      have he := hstate i
      rw [Progress.state?_of_slot ht, Progress.state?_of_slot ht'] at he
      exact Option.some.inj he
    rw [hr, hr', Option.map_some, Option.map_some]
    refine congrArg some ((h.steady.coherent.accurate.standing i t ht).timeless_eq
      (h'.steady.coherent.accurate.standing i t' ht') hsame hrep hrep' fun hst => ?_)
    obtain ⟨f, hf, hfi, _, hown⟩ := h.execution ht hst
    obtain ⟨f', hf', hfi', _, hown'⟩ := h'.execution ht' (hsame ▸ hst)
    rw [Option.some.inj (hrep.symm.trans hown), Option.some.inj (hrep'.symm.trans hown')]
    exact (halike f hf f' hf' (hfi.trans hfi'.symm)).report
  · have hsize : g.size ≤ i := Nat.le_of_not_lt hi
    rw [List.getElem?_eq_none (by rw [h.length_reports hg]; exact hsize),
      List.getElem?_eq_none (by rw [h'.length_reports hg]; exact hsize)]

def told (g : JobGraph) (reports : List InstanceReport) : Nat ⊕ Nat → RunEvent
  | .inl i => .jobStarted (Progress.idOf g i)
  | .inr i =>
    match reports[i]? with
    | none => .jobStarted (Progress.idOf g i)
    | some r => .jobFinished r.id r.state r.reason r.duration

theorem Ended.told_eq (hg : g.Sound) (h : Ended g event fs s) :
    (s.progress.milestones.map (RunEvent.ofMilestone g)).map RunEvent.timeless =
      (s.progress.milestones.map Milestone.kind).map
        (told g (s.progress.reports.map InstanceReport.timeless)) := by
  rw [List.map_map, List.map_map]
  refine List.map_congr_left fun m hm => ?_
  cases m with
  | started i => rfl
  | finished i r =>
    obtain ⟨t, ht, hrep⟩ := (h.steady.coherent.logged.finished i r).mp hm
    obtain ⟨hr, _⟩ := h.report_of_slot hg ht hrep
    simp only [Function.comp_apply, Milestone.kind, told, List.getElem?_map, hr, Option.map_some]
    rfl

/-- A skip is put down to a dependency that ended without success, by the state in which it did. -/
def NamesDependencies (g : JobGraph) (reports : List InstanceReport) : Prop :=
  ∀ i r, reports[i]? = some r → r.state = .skipped →
    ∃ d ∈ g.dependencies i, ∃ r', reports[d]? = some r' ∧ r'.state.blocksDependents = true ∧
      r.reason = if r'.state = .failed then .dependencyFailed (g.display d)
        else .dependencySkipped (g.display d)

theorem Ended.namesDependencies (hg : g.Sound) (h : Ended g event fs s) :
    NamesDependencies g s.progress.reports := by
  intro i r hr hskip
  obtain ⟨t, ht, hrep, hstate, _⟩ := h.slot_of_report hg hr
  obtain ⟨_, cause, hdep, ⟨state, hs, hblocks⟩, _, he⟩ :=
    (h.steady.coherent.accurate.standing i t ht).report_of_skipped (hstate ▸ hskip)
  obtain ⟨r', hr', hs'⟩ := h.report_state hg (hg.bounded i cause hdep)
  rw [hs, Option.some.injEq] at hs'
  subst hs'
  refine ⟨cause, hdep, r', hr', hblocks, ?_⟩
  rw [Option.some.inj (hrep.symm.trans he)]
  simp only [InstanceReport.notStarted, Progress.skipReason, hs, Option.some.injEq]

/-- Two sessions that differ in times and in the order of what happened. -/
structure Alike (g : JobGraph) (s : Session σ) (s' : Session τ) : Prop where
  reports : s.progress.reports.map InstanceReport.timeless =
    s'.progress.reports.map InstanceReport.timeless
  calls : (s.calls.map Call.context).Perm (s'.calls.map Call.context)
  told : ((s.progress.milestones.map (RunEvent.ofMilestone g)).map RunEvent.timeless).Perm
    ((s'.progress.milestones.map (RunEvent.ofMilestone g)).map RunEvent.timeless)

/-- Whatever completes when, the loop of a run ends in the same way. -/
theorem lastSession_alike (hg : g.Sound) (h : runner.Answers answer)
    (h' : runner'.Answers answer)
    (hp : store.PlainFor g)
    (order order' : CompletionOrder) (now now' : Nat) (start : σ) (start' : τ) :
    Alike g (lastSession c store runner order g now start)
      (lastSession c store runner' order' g now' start') := by
  obtain ⟨fs, hc, he⟩ := course_lastSession hg c store runner order now start
  obtain ⟨fs', hc', he'⟩ := course_lastSession hg c store runner' order' now' start'
  generalize lastSession c store runner order g now start = s at hc he ⊢
  generalize lastSession c store runner' order' g now' start' = s' at hc' he' ⊢
  have halike : ∀ f ∈ fs, ∀ f' ∈ fs', f.instanceNumber = f'.instanceNumber →
      f.run.Alike f'.run := fun f hf f' hf' => hc.alike h h' hp hc' hf hf'
  have hstate : ∀ i, s.progress.state? i = s'.progress.state? i := by
    intro i
    rw [he.state?_eq hg, he'.state?_eq hg]
    refine he.state_eq hg hc he' hc' rfl fun j _ f hf f' hf' hj hj' => ?_
    exact (halike f hf f' hf' (hj.trans hj'.symm)).state
  have hreports := he.reports_timeless hg he' hstate halike
  refine ⟨hreports, ?_, ?_⟩
  · have hperm := (he.starts_perm he' hstate).flatMap_right (contextsOf c store runner g start)
    rw [← hc.contexts h h hp start, ← hc'.contexts h h' hp start, ← he.steady.calls,
      ← he'.steady.calls] at hperm
    exact hperm
  · have hperm := (he.kinds_perm hg he' hstate).map
      (told g (s.progress.reports.map InstanceReport.timeless))
    rw [← he.told_eq hg, hreports, ← he'.told_eq hg] at hperm
    exact hperm

theorem namesDependencies_lastSession (hg : g.Sound) :
    NamesDependencies g (lastSession c store runner order g now start).progress.reports := by
  obtain ⟨fs, _, he⟩ := course_lastSession hg c store runner order now start
  exact he.namesDependencies hg

end Scheduler

/-- Two reports that differ in times, and in the dependencies that they name for skips. -/
structure RunReport.Alike (g : JobGraph) (u v : RunReport) : Prop where
  runId : u.runId = v.runId
  pipelineName : u.pipelineName = v.pipelineName
  event : u.event = v.event
  status : u.status = v.status
  summary : u.summary = v.summary
  instances : u.instances.map InstanceReport.timeless = v.instances.map InstanceReport.timeless
  named : Scheduler.NamesDependencies g u.instances ∧ Scheduler.NamesDependencies g v.instances

inductive RunOutcome.Alike (g : JobGraph) : RunOutcome → RunOutcome → Prop where
  | notTriggered : Alike g .notTriggered .notTriggered
  | completed {u v : RunReport} (reports : u.Alike g v) : Alike g (.completed u) (.completed v)

/-- Two records of runs that differ in times and in the order of what happened. -/
structure RunRecord.Alike {σ τ : Type} (g : JobGraph) (u : RunRecord σ) (v : RunRecord τ) :
    Prop where
  outcome : u.outcome.Alike g v.outcome
  calls : (u.calls.map Call.context).Perm (v.calls.map Call.context)
  events : (u.events.map RunEvent.timeless).Perm (v.events.map RunEvent.timeless)

namespace Pipeline

variable {σ τ : Type} {p : Pipeline} {g : JobGraph} {runner : StepRunner σ}
  {runner' : StepRunner τ} {answer : StepContext → List String × Option StepEnd}

theorem executeGraph_alike (hg : g.Sound) (event : Event) (h : runner.Answers answer)
    (h' : runner'.Answers answer) (runId : RunId) (workspace : String)
    (timeout : Option Duration) {store : SecretStore}
    (hp : store.PlainFor g)
    (order order' : CompletionOrder) (now now' : Nat) (start : σ) (start' : τ) :
    (p.executeGraph ⟨runId, now, workspace, timeout, store, runner, order⟩ event g start).Alike g
      (p.executeGraph ⟨runId, now', workspace, timeout, store, runner', order'⟩ event g
        start') := by
  have hsession := Scheduler.lastSession_alike (c := ⟨runId, event, p.env, workspace, timeout⟩) hg
    h h' hp order order' now now' start start'
  have hstatus := congrArg RunStatus.aggregate hsession.reports
  rw [RunStatus.aggregate_timeless, RunStatus.aggregate_timeless] at hstatus
  have hsummary := congrArg Summary.ofReports hsession.reports
  rw [Summary.ofReports_timeless, Summary.ofReports_timeless] at hsummary
  simp only [executeGraph, context, reportOf, Scheduler.run_eq hg]
  refine ⟨.completed ⟨rfl, rfl, rfl, hstatus, hsummary, hsession.reports,
    Scheduler.namesDependencies_lastSession hg, Scheduler.namesDependencies_lastSession hg⟩,
    ?_, ?_⟩
  · exact ((List.mergeSort_perm _ _).map _).trans
      (hsession.calls.trans ((List.mergeSort_perm _ _).map _).symm)
  · simp only [List.map_cons, List.map_append, List.map_nil, RunEvent.timeless, hstatus]
    exact (hsession.told.append_right _).cons _

/-- Two runs of a definition for an event, with the same secrets and with runners that give the same
answers, come to the same whatever completes when and however long it takes: the states and the
reports of all instances, the status, the counts, and, but for their order, the calls and what is
told. Of the skipped instances another dependency may be named. -/
theorem execute_alike (h : JobGraph.build p = .ok g) (event : Event)
    (hanswers : runner.Answers answer) (hanswers' : runner'.Answers answer) (runId : RunId)
    (workspace : String) (timeout : Option Duration) (store : SecretStore)
    (hcolon : ∀ j ∈ p.jobs, ∀ r ∈ j.secrets, ':' ∉ (store.providerName r).toList)
    (order order' : CompletionOrder) (now now' : Nat) (start : σ) (start' : τ) :
    ∃ u v,
      p.execute ⟨runId, now, workspace, timeout, store, runner, order⟩ event start = .ok u ∧
      p.execute ⟨runId, now', workspace, timeout, store, runner', order'⟩ event start' = .ok v ∧
      u.Alike g v := by
  unfold execute
  split
  · rw [h]
    exact ⟨_, _, rfl, rfl, executeGraph_alike (JobGraph.build_sound h) event hanswers hanswers'
      runId workspace timeout (SecretStore.plainFor_of_build h hcolon)
      order order' now now' start start'⟩
  · exact ⟨_, _, rfl, rfl, .notTriggered, .nil, .nil⟩

def slowRunner (command : String) : StepRunner Unit :=
  .scripted [(command, { ScriptedStep.silent with delay := 5 })]

theorem answers_slowRunner (command : String) :
    (slowRunner command).Answers fun _ => ([], some (.exited 0 true)) := by
  intro c s
  simp only [slowRunner, StepRunner.scripted, Bindings.get?]
  split <;> exact ⟨rfl, rfl⟩

/-- The two jobs in the middle overtake each other. -/
theorem execute_alike_diamond :
    ∃ u v,
      JobGraph.diamond.execute ⟨⟨0⟩, 0, "/work", none,
        SecretStore.empty.register "env" (.ofValues [("TOKEN", "s3cret")]),
        slowRunner "make lint", .byTime⟩ ⟨.tagPush, "refs/tags/v1"⟩ () = .ok u ∧
      JobGraph.diamond.execute ⟨⟨0⟩, 9, "/work", none,
        SecretStore.empty.register "env" (.ofValues [("TOKEN", "s3cret")]),
        slowRunner "make test", .byTime⟩ ⟨.tagPush, "refs/tags/v1"⟩ () = .ok v ∧
      u.Alike JobGraph.diamondGraph v :=
  execute_alike JobGraph.build_diamond ⟨.tagPush, "refs/tags/v1"⟩
    (answers_slowRunner "make lint") (answers_slowRunner "make test") ⟨0⟩ "/work" none
    (SecretStore.empty.register "env" (.ofValues [("TOKEN", "s3cret")])) (by decide +kernel)
    .byTime .byTime 0 9 () ()

end Pipeline

end GatedPipeline
