import GatedPipeline.Plan
import GatedPipeline.Proofs.Confluence
import GatedPipeline.Proofs.RunLog

namespace GatedPipeline

/-- An execution tells of its own success or failure, never of a skip. -/
theorem Execution.category_run {σ : Type} (c : RunContext) (store : SecretStore)
    (runner : StepRunner σ) (n : Instance) (now : Nat) (cache : SecretCache) (s : σ) :
    (run c store runner n now cache s).1.report.reason.category = .succeeded ∨
      (run c store runner n now cache s).1.report.reason.category = .failed := by
  unfold run
  split
  · rename_i e _ _
    cases e <;> exact .inr rfl
  · rename_i secrets _ _
    rcases reason_reportOfSteps n now (runSteps c n secrets runner now s n.job.steps).1 with
      hr | hr | hr
    · exact .inl (congrArg Reason.category hr)
    · obtain ⟨step, code, message, he⟩ := ending_runSteps hr
      exact .inr (congrArg Reason.category he)
    · exact .inr (congrArg Reason.category hr)

structure PlannedInstance.Foretells (i : PlannedInstance) (r : InstanceReport) : Prop where
  id : r.id = i.id
  gate : i.gateOpen = false ↔ r.state = .gatedSkip ∧
    ∃ condition, i.condition = some condition ∧ r.reason = .skippedByCondition condition
  needs : ∀ dependency,
    r.reason = .dependencyFailed dependency ∨ r.reason = .dependencySkipped dependency →
      ∃ need ∈ i.needs, need.display = dependency

theorem Condition.exists_of_gate_closed {condition : Option Condition} {event : Event}
    (h : gateOpen condition event = false) : ∃ c, condition = some c := by
  cases condition with
  | none => cases h
  | some c => exact ⟨c, rfl⟩

namespace JobGraph

variable {g : JobGraph} {i d : Nat} {n : Instance}

theorem conditionText_of_node (h : g.node? i = some n) {c : Condition}
    (hc : n.condition = some c) : Progress.conditionText g i = c.source := by
  simp [Progress.conditionText, h, hc]

/-- The display of a dependency is that of a planned need. -/
theorem Sound.display_mem_needs (hg : g.Sound) (h : g.node? i = some n)
    (hd : d ∈ g.dependencies i) (event : Event) :
    ∃ need ∈ (Plan.planned g event n).needs, need.display = g.display d := by
  obtain ⟨m, hm⟩ := node?_of_lt (hg.bounded i d hd)
  rw [dependencies_of_node? h] at hd
  refine ⟨m.id, List.mem_filterMap.mpr ⟨d, hd, by rw [hm]; rfl⟩, ?_⟩
  simp [display, hm]

end JobGraph

namespace Scheduler

variable {σ : Type} {c : RunContext} {store : SecretStore} {runner : StepRunner σ} {g : JobGraph}
  {now : Nat} {start : σ} {fs : List Flight} {s : Session σ} {i : Nat} {n : Instance}
  {r : InstanceReport} {event : Event}

/-- A gate that is closed ends its instance with the text of the condition, and nothing else
does. -/
theorem Ended.gate_foretold (hg : g.Sound) (h : Ended g event fs s) (hn : g.node? i = some n)
    (hr : s.progress.reports[i]? = some r) :
    Condition.gateOpen n.condition event = false ↔ r.state = .gatedSkip ∧
      ∃ condition, n.condition.map Condition.source = some condition ∧
        r.reason = .skippedByCondition condition := by
  obtain ⟨t, ht, hrep, hstate, _⟩ := h.slot_of_report hg hr
  rw [← gateOpen_of_node hn, ← h.gated_iff ht, hstate]
  refine ⟨fun hgated => ⟨hgated, ?_⟩, fun hgated => hgated.1⟩
  obtain ⟨hclosed, now, he⟩ :=
    (h.steady.coherent.accurate.standing i t ht).report_of_gatedSkip hgated
  rw [gateOpen_of_node hn] at hclosed
  obtain ⟨condition, hcondition⟩ := Condition.exists_of_gate_closed hclosed
  refine ⟨condition.source, by rw [hcondition, Option.map_some], ?_⟩
  rw [Option.some.inj (hrep.symm.trans he), ← JobGraph.conditionText_of_node hn hcondition]
  rfl

/-- A dependency is named for a skip only, and it is one of those that the instance has. -/
theorem Ended.named_dependency (hg : g.Sound) (h : Ended g c.event fs s)
    (hc : Course c store runner g now start fs s) (hn : g.node? i = some n)
    (hr : s.progress.reports[i]? = some r) {dependency : String}
    (hreason : r.reason = .dependencyFailed dependency ∨
      r.reason = .dependencySkipped dependency) :
    ∃ d ∈ g.dependencies i, g.display d = dependency := by
  obtain ⟨r', hr', -, hresolved⟩ := h.resolved hg hc hn
  rw [hr, Option.some.injEq] at hr'
  subst hr'
  by_cases hskipped : r.state = .skipped
  · obtain ⟨d, hd, r', -, -, hnamed⟩ := h.namesDependencies hg i r hr hskipped
    refine ⟨d, hd, ?_⟩
    rw [hnamed] at hreason
    split at hreason <;> simpa using hreason
  · have hcategory : r.reason.category = .skippedByPropagation := by
      rcases hreason with he | he <;> rw [he] <;> rfl
    by_cases hgated : r.state = .gatedSkip
    · obtain ⟨_, condition, _, he⟩ :=
        (h.gate_foretold hg hn hr).mp (hresolved.gated.mp hgated)
      rw [he] at hcategory
      cases hcategory
    · obtain ⟨-, f, -, -, rfl, time, cache, state, hrun, -⟩ :=
        hresolved.executed hgated hskipped
      rw [hrun] at hcategory
      rcases Execution.category_run c store runner n time cache state with he | he <;>
        cases hcategory.symm.trans he

theorem Ended.foretold (hg : g.Sound) (h : Ended g c.event fs s)
    (hc : Course c store runner g now start fs s) (hn : g.node? i = some n)
    (hr : s.progress.reports[i]? = some r) : (Plan.planned g c.event n).Foretells r where
  id := by
    obtain ⟨_, _, _, _, hid⟩ := h.slot_of_report hg hr
    exact hid.trans (idOf_of_node hn)
  gate := h.gate_foretold hg hn hr
  needs dependency hreason := by
    obtain ⟨d, hd, rfl⟩ := h.named_dependency hg hc hn hr hreason
    exact hg.display_mem_needs hn hd c.event

/-- The plan is borne out as a whole, instance by instance. -/
theorem Ended.planned_foretell (hg : g.Sound) (h : Ended g c.event fs s)
    (hc : Course c store runner g now start fs s) :
    List.Forall₂ PlannedInstance.Foretells (g.nodes.map (Plan.planned g c.event))
      s.progress.reports := by
  refine List.forall₂_iff_get.mpr ⟨?_, fun i hi hi' => ?_⟩
  · rw [List.length_map, h.length_reports hg, JobGraph.size]
  · rw [List.length_map] at hi
    have hn : g.node? i = some g.nodes[i] := List.getElem?_eq_getElem hi
    have hr : s.progress.reports[i]? = some s.progress.reports[i] := List.getElem?_eq_getElem hi'
    simpa using h.foretold hg hc hn hr

end Scheduler

namespace Pipeline

variable {σ : Type}

theorem completed_of_build {p : Pipeline} {g : JobGraph} (hbuild : JobGraph.build p = .ok g)
    (event : Event) (haccept : Trigger.anyAccepts p.triggers event = true) (setup : RunSetup σ)
    (start : σ) :
    ∃ record report, p.execute setup event start = .ok record ∧
      record.outcome = .completed report := by
  rw [execute, if_pos haccept, hbuild]
  exact ⟨_, _, rfl, rfl⟩

/-- A run that completes is that of a graph, and has come to rest. -/
theorem ended_of_completed {p : Pipeline} {setup : RunSetup σ} {event : Event} {start : σ}
    {record : RunRecord σ} {report : RunReport} (h : p.execute setup event start = .ok record)
    (hcompleted : record.outcome = .completed report) :
    Trigger.anyAccepts p.triggers event = true ∧ ∃ g fs s, JobGraph.build p = .ok g ∧
      Scheduler.Course (p.context setup event) setup.store setup.runner g setup.startedAt start fs
        s ∧ Scheduler.Ended g event fs s ∧ s.progress.reports = report.instances := by
  unfold execute at h
  split at h
  · rename_i haccept
    obtain ⟨g, hbuild, rfl⟩ := JobGraph.map_eq_ok h
    cases hcompleted
    have hg := JobGraph.build_sound hbuild
    obtain ⟨fs, hc, hended⟩ := Scheduler.course_lastSession hg (p.context setup event)
      setup.store setup.runner setup.order setup.startedAt start
    rw [← Scheduler.run_eq hg] at hc hended
    exact ⟨haccept, g, fs, _, hbuild, hc, hended, rfl⟩
  · cases h
    cases hcompleted

/-- A run that completes has been planned, with the same instances in the same order, the gates that
keep instances from running, and the needs that are named for skips. Whether there is a run, and
what is wrong with a definition, is what the plan says. -/
theorem execute_as_planned (p : Pipeline) (setup : RunSetup σ) (event : Event) (s : σ) :
    (∀ record report, p.execute setup event s = .ok record → record.outcome = .completed report →
        ∃ plan, Plan.make p event = .ok plan ∧ plan.triggered = true ∧
          List.Forall₂ PlannedInstance.Foretells plan.instances report.instances) ∧
      (∀ plan, Plan.make p event = .ok plan → plan.triggered = true →
        ∃ record report, p.execute setup event s = .ok record ∧
          record.outcome = .completed report) ∧
      (∀ plan, Plan.make p event = .ok plan → plan.triggered = false →
        ∃ record, p.execute setup event s = .ok record ∧ record.outcome = .notTriggered) ∧
      (∀ e, Plan.make p event = .error e → Trigger.anyAccepts p.triggers event = true →
        p.execute setup event s = .error e) := by
  refine ⟨fun record report hrecord hcompleted => ?_, fun plan hplan htriggered => ?_,
    fun plan hplan htriggered => ?_, fun e hplan haccept => ?_⟩
  · obtain ⟨haccept, g, fs, session, hbuild, hc, hended, hreports⟩ :=
      ended_of_completed hrecord hcompleted
    refine ⟨_, by rw [Plan.make, hbuild]; rfl, haccept, ?_⟩
    rw [← hreports]
    exact hended.planned_foretell (JobGraph.build_sound hbuild) hc
  · obtain ⟨g, hbuild, rfl⟩ := JobGraph.map_eq_ok hplan
    exact completed_of_build hbuild event htriggered setup s
  · obtain ⟨g, hbuild, rfl⟩ := JobGraph.map_eq_ok hplan
    rw [execute, if_neg (ne_true_of_eq_false htriggered)]
    exact ⟨_, rfl, rfl⟩
  · rw [execute, if_pos haccept]
    cases hbuild : JobGraph.build p with
    | error e' =>
      rw [Plan.make, hbuild] at hplan
      cases hplan
      rfl
    | ok g =>
      rw [Plan.make, hbuild] at hplan
      cases hplan

/-- The diamond on a push to a branch; one job with a trigger for tags alone; and no jobs. -/
theorem execute_as_planned_diamond :
    (∃ record report, JobGraph.diamond.execute quietSetup ⟨.push, "refs/heads/main"⟩ () =
          .ok record ∧ record.outcome = .completed report ∧
        ∃ plan, Plan.make JobGraph.diamond ⟨.push, "refs/heads/main"⟩ = .ok plan ∧
          plan.triggered = true ∧
          List.Forall₂ PlannedInstance.Foretells plan.instances report.instances) ∧
      (∃ record, Pipeline.execute
          ⟨"tags", none, [⟨.push, [], ["v*"]⟩], [], [JobGraph.plainJob "build" [] none]⟩
            quietSetup ⟨.push, "refs/heads/main"⟩ () = .ok record ∧
        record.outcome = .notTriggered) ∧
      Pipeline.execute ⟨"empty", none, [], [], []⟩ quietSetup ⟨.push, "refs/heads/main"⟩ () =
        .error (.definition (.invalidPipeline "pipeline has no jobs")) := by
  refine ⟨?_, ?_, ?_⟩
  · have hagrees := execute_as_planned JobGraph.diamond quietSetup ⟨.push, "refs/heads/main"⟩ ()
    have hplan : Plan.make JobGraph.diamond ⟨.push, "refs/heads/main"⟩ =
        .ok ⟨"diamond", ⟨.push, "refs/heads/main"⟩, true, JobGraph.diamondGraph.nodes.map
          (Plan.planned JobGraph.diamondGraph ⟨.push, "refs/heads/main"⟩)⟩ := by
      rw [Plan.make, JobGraph.build_diamond]
      rfl
    obtain ⟨record, report, hrecord, hcompleted⟩ := hagrees.2.1 _ hplan rfl
    exact ⟨record, report, hrecord, hcompleted, hagrees.1 record report hrecord hcompleted⟩
  · exact (execute_as_planned
      ⟨"tags", none, [⟨.push, [], ["v*"]⟩], [], [JobGraph.plainJob "build" [] none]⟩
      quietSetup ⟨.push, "refs/heads/main"⟩ ()).2.2.1
      ⟨"tags", ⟨.push, "refs/heads/main"⟩, false, [⟨⟨"build", []⟩, [], none, true⟩]⟩
      (by decide +kernel) rfl
  · exact (execute_as_planned ⟨"empty", none, [], [], []⟩ quietSetup
      ⟨.push, "refs/heads/main"⟩ ()).2.2.2 _ rfl rfl

end Pipeline

end GatedPipeline
