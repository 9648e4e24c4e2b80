import GatedPipeline.Proofs.Lockstep

namespace GatedPipeline

/-- Two records of runs with different secrets under the same names. What is reported and told
differs in the redacted parts only, and the runner gets the same steps in the same order, with
differences in the variables that the job names for its secrets. -/
structure RunRecord.EqualApart {σ τ : Type} (p : Pipeline) (c : RunContext) (u : RunRecord σ)
    (v : RunRecord τ) : Prop where
  outcome : u.outcome.redacted = v.outcome.redacted
  events : u.events.map RunEvent.redacted = v.events.map RunEvent.redacted
  calls : List.Forall₂ (fun a b => ∃ n : Instance, n.job ∈ p.jobs ∧ a.EqualApart c n b) u.calls
    v.calls

variable {σ τ : Type} {g : JobGraph} {store store' : SecretStore} {runner : StepRunner σ}
  {runner' : StepRunner τ} {act : StepContext → StepRun}

theorem Scheduler.lockstep_run (hg : g.Sound) (c : RunContext) (hk : store.SameKinds g store')
    (hr : runner.IgnoresEnv act) (hr' : runner'.IgnoresEnv act) {order order' : CompletionOrder}
    {now now' : Nat} {start : σ} {start' : τ}
    (horder : completed c store runner order g now start =
      completed c store' runner' order' g now' start') :
    Lockstep c g store store' now now' (run c store runner order g now start)
      (run c store' runner' order' g now' start') := by
  have hopen : Course c store runner g now start [] (opening c g now start) := .opening
  obtain ⟨more, hc, _, hidle⟩ := hopen.launchReady
  rw [run_eq hg, run_eq hg]
  exact (lockstep_opening.launchReady hk hr hr').completions hk hr hr' hg hc hidle horder

namespace Pipeline

theorem executeGraph_equalApart (p : Pipeline) (event : Event) (hg : g.Sound)
    (hjobs : ∀ i n, g.node? i = some n → n.job ∈ p.jobs) (hk : store.SameKinds g store')
    (hr : runner.IgnoresEnv act) (hr' : runner'.IgnoresEnv act) (runId : RunId)
    (workspace : String) (timeout : Option Duration) (order order' : CompletionOrder)
    (now now' : Nat) (start : σ) (start' : τ)
    (horder :
      Scheduler.completed ⟨runId, event, p.env, workspace, timeout⟩ store runner order g now start =
        Scheduler.completed ⟨runId, event, p.env, workspace, timeout⟩ store' runner' order' g now'
          start') :
    (p.executeGraph ⟨runId, now, workspace, timeout, store, runner, order⟩ event g
      start).EqualApart p ⟨runId, event, p.env, workspace, timeout⟩
      (p.executeGraph ⟨runId, now', workspace, timeout, store', runner', order'⟩ event g
        start') := by
  have h := Scheduler.lockstep_run hg _ hk hr hr' horder
  have hreports := congrArg Progress.reports h.progress
  rw [Progress.reports_redacted, Progress.reports_redacted] at hreports
  have hstatus := congrArg RunStatus.aggregate hreports
  rw [RunStatus.aggregate_redacted, RunStatus.aggregate_redacted] at hstatus
  have hmilestones := congrArg (List.map (RunEvent.ofMilestone g) ∘ Progress.milestones) h.progress
  refine ⟨?_, ?_, ?_⟩
  · simp only [executeGraph, reportOf, context, RunOutcome.redacted, RunReport.redacted, hreports,
      hstatus]
  · simp only [Function.comp_apply, Progress.redacted, List.map_map] at hmilestones
    simp only [executeGraph, reportOf, context, List.map_cons, List.map_append, List.map_nil,
      List.map_map, RunEvent.redacted, hstatus]
    have htold : ∀ ms : List Milestone,
        ms.map (RunEvent.redacted ∘ RunEvent.ofMilestone g) =
          ms.map (RunEvent.ofMilestone g ∘ Milestone.redacted) :=
      fun ms => List.map_congr_left fun m _ => RunEvent.redacted_ofMilestone g m
    rw [htold, htold, hmilestones]
  · refine (forall₂_mergeSort ?_ h.calls).imp ?_
    · rintro a b ⟨_, _, _, hab, _⟩ a' b' ⟨_, _, _, hab', _⟩
      exact decide_eq_decide.mpr (by omega)
    · rintro a b ⟨i, n, hn, _, hab⟩
      exact ⟨n, hjobs i n hn, hab⟩

/-- Under a runner that does not look at the environment, two stores that answer what is declared in
the same way, but with different values, lead to the same run, as long as the same instances
complete in the same order: the same error in the definition, or else the same calls in the same
order, apart from the variables for secrets, and the same events and reports, apart from what steps
put out, the messages of failed steps, and times. -/
theorem execute_equalApart (p : Pipeline) (event : Event) (hr : runner.IgnoresEnv act)
    (hr' : runner'.IgnoresEnv act) (runId : RunId) (workspace : String) (timeout : Option Duration)
    (store store' : SecretStore)
    (hcolon : ∀ j ∈ p.jobs, ∀ r ∈ j.secrets,
      ':' ∉ (store.providerName r).toList ∧ ':' ∉ (store'.providerName r).toList)
    (hkinds : ∀ j ∈ p.jobs, ∀ r ∈ j.secrets,
      SecretStore.AlikeBy (fun _ _ => True) (store.lookup r) (store'.lookup r))
    (order order' : CompletionOrder) (now now' : Nat) (start : σ) (start' : τ)
    (horder : ∀ g, JobGraph.build p = .ok g →
      Scheduler.completed ⟨runId, event, p.env, workspace, timeout⟩ store runner order g now start =
        Scheduler.completed ⟨runId, event, p.env, workspace, timeout⟩ store' runner' order' g now'
          start') :
    match p.execute ⟨runId, now, workspace, timeout, store, runner, order⟩ event start,
      p.execute ⟨runId, now', workspace, timeout, store', runner', order'⟩ event start' with
    | .ok u, .ok v => u.EqualApart p ⟨runId, event, p.env, workspace, timeout⟩ v
    | .error e, .error e' => e = e'
    | _, _ => False := by
  cases ht : Trigger.anyAccepts p.triggers event with
  | false =>
    simp only [execute, ht, Bool.false_eq_true, if_false]
    exact ⟨rfl, rfl, .nil⟩
  | true =>
    simp only [execute, ht, if_true]
    cases hb : JobGraph.build p with
    | error e => rfl
    | ok g =>
      have hjobs : ∀ i n, g.node? i = some n → n.job ∈ p.jobs :=
        fun i n => JobGraph.job_mem_of_build hb
      have hk : store.SameKinds g store' :=
        ⟨SecretStore.plainFor_of_build hb fun j hj r hr => (hcolon j hj r hr).1,
          SecretStore.plainFor_of_build hb fun j hj r hr => (hcolon j hj r hr).2,
          fun i n hn => hkinds n.job (hjobs i n hn)⟩
      exact executeGraph_equalApart p event (JobGraph.build_sound hb) hjobs hk hr hr' runId
        workspace timeout order order' now now' start start' (horder g hb)

/-- Two runs for a tag whose tokens differ: publishing puts out the token of the one, which only
that one has to mask. -/
theorem execute_equalApart_diamond :
    ∃ u v,
      JobGraph.diamond.execute ⟨⟨0⟩, 0, "/work", none, .holding [("TOKEN", "s3cret")],
        Scheduler.printing "make publish" ["to s3cret!"], .byTime⟩ ⟨.tagPush, "refs/tags/v1"⟩ () =
          .ok u ∧
      JobGraph.diamond.execute ⟨⟨0⟩, 9, "/work", none, .holding [("TOKEN", "t0ken")],
        Scheduler.printing "make publish" ["to s3cret!"], .byTime⟩ ⟨.tagPush, "refs/tags/v1"⟩ () =
          .ok v ∧
      u.EqualApart JobGraph.diamond ⟨⟨0⟩, ⟨.tagPush, "refs/tags/v1"⟩, [], "/work", none⟩ v := by
  have hsecret : ∀ j ∈ JobGraph.diamond.jobs, ∀ r ∈ j.secrets, r = .named "TOKEN" := by
    decide +kernel
  have hlookup : (SecretStore.holding [("TOKEN", "s3cret")]).lookup (.named "TOKEN") =
      .ok "s3cret" := by decide +kernel
  have hlookup' : (SecretStore.holding [("TOKEN", "t0ken")]).lookup (.named "TOKEN") =
      .ok "t0ken" := by decide +kernel
  have hact : (Scheduler.printing "make publish" ["to s3cret!"]).IgnoresEnv _ :=
    StepRunner.ignoresEnv_scripted _
  have h := execute_equalApart JobGraph.diamond ⟨.tagPush, "refs/tags/v1"⟩ hact hact ⟨0⟩ "/work"
    none (.holding [("TOKEN", "s3cret")]) (.holding [("TOKEN", "t0ken")]) (by decide +kernel)
    (fun j hj r hr => by
      rw [hsecret j hj r hr, hlookup, hlookup']
      exact .found trivial)
    .byTime .byTime 0 9 () () fun g hg => by
      cases Except.ok.inj (JobGraph.build_diamond.symm.trans hg)
      decide +kernel
  simp only [execute, JobGraph.build_diamond] at h ⊢
  exact ⟨_, _, rfl, rfl, h⟩

end Pipeline

end GatedPipeline
