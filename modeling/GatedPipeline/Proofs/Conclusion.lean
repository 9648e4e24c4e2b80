import GatedPipeline.Proofs.Course

namespace GatedPipeline

variable {order : CompletionOrder} {f : Flight} {fs rest : List Flight}

/-- What completes next is one of the running instances, and the others run on. -/
theorem CompletionOrder.next?_eq_some (h : order.next? fs = some (f, rest)) :
    ∃ earlier later, fs = earlier ++ f :: later ∧ rest = earlier ++ later := by
  cases fs with
  | nil => cases h
  | cons x xs =>
    simp only [next?, Option.some.injEq, Prod.mk.injEq] at h
    obtain ⟨hf, hrest⟩ := h
    have hi : order (x :: xs) % (xs.length + 1) < (x :: xs).length := by
      exact Nat.mod_lt _ (Nat.succ_pos _)
    rw [List.getElem?_eq_getElem hi, Option.getD_some] at hf
    refine ⟨(x :: xs).take _, (x :: xs).drop _, ?_, hrest ▸ List.eraseIdx_eq_take_drop_succ ..⟩
    rw [← hf, List.getElem_cons_drop, List.take_append_drop]

theorem CompletionOrder.mem_of_next? (h : order.next? fs = some (f, rest)) : f ∈ fs := by
  obtain ⟨earlier, later, rfl, _⟩ := next?_eq_some h
  exact List.mem_append_right _ List.mem_cons_self

theorem CompletionOrder.length_of_next? (h : order.next? fs = some (f, rest)) :
    fs.length = rest.length + 1 := by
  obtain ⟨earlier, later, rfl, rfl⟩ := next?_eq_some h
  rw [List.length_append, List.length_cons, List.length_append, Nat.add_assoc]

theorem CompletionOrder.next?_eq_none : order.next? fs = none ↔ fs = [] := by
  cases fs <;> simp [next?]

namespace Progress

variable {g : JobGraph} {event : Event} {due : List Nat} {p : Progress} {i j : Nat} {s : Slot}

theorem mem_ready_start : j ∈ (p.start i).ready g ↔ j ∈ p.ready g ∧ j ≠ i := by
  simp only [mem_ready, slots_start]
  by_cases hij : i = j
  · subst hij
    cases p.slots[i]? <;> simp
  · simp [hij, Ne.symm hij]

/-- A blocked instance is ready as soon as its dependencies have ended: had one of them ended
without success, the instance would have been skipped. -/
theorem Accurate.mem_ready_of_blocked (h : Accurate g event [] p) (hs : p.slots[i]? = some s)
    (hb : s.state = .blocked)
    (hd : ∀ d ∈ g.dependencies i, ∃ t, p.slots[d]? = some t ∧ t.state.isTerminal = true) :
    i ∈ p.ready g := by
  have hdeps : ∀ d ∈ g.dependencies i, p.state? d = some .succeeded := by
    intro d hdep
    obtain ⟨t, ht, hterm⟩ := hd d hdep
    have hstate := state?_of_slot ht
    cases hbd : t.state.blocksDependents with
    | true =>
      have hdue := ((h.standing i s hs).report_of_blocked hb).2.2 d hdep ⟨t.state, hstate, hbd⟩
      cases hdue
    | false =>
      simp only [JobState.isTerminal, hbd, Bool.or_false, beq_iff_eq] at hterm
      rw [hstate, hterm]
  have hw : s.waitingOn = 0 := by
    rw [h.counted i s hs, awaited, List.countP_eq_zero]
    intro d hdep
    simp [hdeps d hdep]
  exact mem_ready.mpr ⟨h.lt_size hs, s, hs, hb, hw⟩

theorem Standing.report_of_terminal (h : Standing g event due p i s)
    (ht : s.state.isTerminal = true) :
    ∃ r, s.report = some r ∧ r.state = s.state ∧ r.id = idOf g i := by
  cases h with
  | gated => exact ⟨_, rfl, rfl, rfl⟩
  | skipped => exact ⟨_, rfl, rfl, rfl⟩
  | ended w r _ _ hown _ => exact ⟨r, rfl, rfl, hown⟩
  | blocked | running => cases ht

/-- Where every slot has a report, the reports are those of the slots. -/
theorem reports_eq (h : ∀ s ∈ p.slots, s.report.isSome = true) :
    p.reports.map some = p.slots.map (·.report) := by
  unfold reports
  generalize p.slots = slots at h ⊢
  induction slots with
  | nil => rfl
  | cons s slots ih =>
    obtain ⟨r, hr⟩ := Option.isSome_iff_exists.mp (h s List.mem_cons_self)
    rw [List.filterMap_cons, hr]
    simp only [List.map_cons, hr, ih fun t ht => h t (List.mem_cons_of_mem s ht)]

end Progress

namespace Scheduler

variable {σ : Type}

def lastSession (c : RunContext) (store : SecretStore) (runner : StepRunner σ)
    (order : CompletionOrder) (g : JobGraph) (now : Nat) (start : σ) : Session σ :=
  completions c store runner order g g.size
    (launchReady c store runner g (opening c g now start))

/-- Nothing is running and nothing can start. -/
structure Ended (g : JobGraph) (event : Event) (fs : List Flight) (s : Session σ) : Prop where
  steady : Steady g event fs s
  idle : s.progress.ready g = []
  landed : s.flights = []

variable {c : RunContext} {store : SecretStore} {runner : StepRunner σ} {g : JobGraph}
  {now : Nat} {start : σ} {s : Session σ} {i : Nat} {event : Event}

/-- No instance is launched twice, so there are no more launches than instances. -/
theorem Steady.length_le (h : Steady g event fs s) : fs.length ≤ g.size := by
  have hsub : fs.map Flight.instanceNumber ⊆ g.indices := by
    intro i hi
    rw [h.launched] at hi
    obtain ⟨state, hs, _⟩ := (h.coherent.logged.started i).mp (Progress.mem_startsIn.mp hi)
    obtain ⟨t, ht, _⟩ := Progress.state?_eq_some_iff.mp hs
    exact JobGraph.mem_indices.mpr (h.coherent.accurate.lt_size ht)
  have hle := (h.nodup.subperm hsub).length_le
  rwa [List.length_map, JobGraph.indices, List.length_range] at hle

/-- Launching all that is ready, one after another, leaves nothing ready. -/
theorem Course.foldl_launch (h : Course c store runner g now start fs s) {is : List Nat}
    (his : is.Nodup) (hready : ∀ j, j ∈ is ↔ j ∈ s.progress.ready g) :
    ∃ more, Course c store runner g now start (fs ++ more)
        (is.foldl (launch c store runner g) s) ∧
      (is.foldl (launch c store runner g) s).flights = s.flights ++ more ∧
      (is.foldl (launch c store runner g) s).progress.ready g = [] := by
  induction is generalizing fs s with
  | nil =>
    refine ⟨[], by simpa using h, by simp, ?_⟩
    exact List.eq_nil_iff_forall_not_mem.mpr fun j hj => List.not_mem_nil ((hready j).mpr hj)
  | cons i is ih =>
    obtain ⟨hi, his⟩ := List.nodup_cons.mp his
    have hr : i ∈ s.progress.ready g := (hready i).mp List.mem_cons_self
    obtain ⟨n, hn⟩ := JobGraph.node?_of_lt (Progress.mem_ready.mp hr).1
    have hnext := h.launched hr hn
    have hrest : ∀ j, j ∈ is ↔ j ∈ (launch c store runner g s i).progress.ready g := by
      intro j
      rw [launch_of_node hn, Progress.mem_ready_start, ← hready, List.mem_cons]
      constructor
      · intro hj
        exact ⟨.inr hj, fun he => hi (he ▸ hj)⟩
      · rintro ⟨hj | hj, hne⟩
        · exact absurd hj hne
        · exact hj
    obtain ⟨more, hc, hf, hidle⟩ := ih hnext his hrest
    refine ⟨[⟨i, (Execution.run c store runner n s.now s.cache s.runnerState).1⟩] ++ more,
      ?_, ?_, hidle⟩
    · rw [← List.append_assoc]
      exact hc
    · rw [List.foldl_cons, hf, launch_of_node hn, List.append_assoc]

theorem Course.launchReady (h : Course c store runner g now start fs s) :
    ∃ more, Course c store runner g now start (fs ++ more) (launchReady c store runner g s) ∧
      (Scheduler.launchReady c store runner g s).flights = s.flights ++ more ∧
      (Scheduler.launchReady c store runner g s).progress.ready g = [] :=
  h.foldl_launch (g.nodup_indices.filter _) fun _ => .rfl

/-- One turn of the loop: a running instance lands, and then all that is ready is launched. -/
theorem Course.turn (h : Course c store runner g now start fs s) (idle : s.progress.ready g = [])
    (hnext : order.next? s.flights = some (f, rest)) :
    ∃ more, Course c store runner g now start (fs ++ more)
        (Scheduler.launchReady c store runner g (land g f rest s)) ∧
      (Scheduler.launchReady c store runner g (land g f rest s)).flights = rest ++ more ∧
      (Scheduler.launchReady c store runner g (land g f rest s)).progress.ready g = [] := by
  obtain ⟨earlier, later, hf, rfl⟩ := CompletionOrder.next?_eq_some hnext
  exact (h.landed idle hf).launchReady

/-- With enough fuel the loop runs until everything has landed: each completion takes one of the
launches that are still under way, and there are at most as many launches as instances. -/
theorem Course.completions (hg : g.Sound) (h : Course c store runner g now start fs s)
    (idle : s.progress.ready g = []) {n : Nat} (hn : g.size + s.flights.length ≤ n + fs.length) :
    ∃ fs', Course c store runner g now start fs' (completions c store runner order g n s) ∧
      Ended g c.event fs' (Scheduler.completions c store runner order g n s) := by
  have hle := (h.steady hg).length_le
  induction n generalizing fs s with
  | zero =>
    have hlanded : s.flights = [] := List.eq_nil_of_length_eq_zero (by omega)
    exact ⟨fs, h, h.steady hg, idle, hlanded⟩
  | succ n ih =>
    unfold Scheduler.completions
    split
    · rename_i hnone
      exact ⟨fs, h, h.steady hg, idle, CompletionOrder.next?_eq_none.mp hnone⟩
    · rename_i f rest hsome
      obtain ⟨more, hc, hflights, hidle⟩ := h.turn idle hsome
      refine ih hc hidle ?_ (hc.steady hg).length_le
      have hlength := CompletionOrder.length_of_next? hsome
      rw [hflights, List.length_append, List.length_append]
      omega

/-- The loop of a run ends with everything landed. -/
theorem course_lastSession (hg : g.Sound) (c : RunContext) (store : SecretStore)
    (runner : StepRunner σ) (order : CompletionOrder) (now : Nat) (start : σ) :
    ∃ fs, Course c store runner g now start fs (lastSession c store runner order g now start) ∧
      Ended g c.event fs (lastSession c store runner order g now start) := by
  have hopen : Course c store runner g now start [] (opening c g now start) := .opening
  obtain ⟨more, hc, hf, hidle⟩ := hopen.launchReady
  refine hc.completions hg hidle ?_
  rw [hf]
  exact Nat.le_refl _

/-- A session that has come to rest is complete. -/
theorem Ended.terminal (hg : g.Sound) (h : Ended g event fs s) (hi : i < g.size) :
    ∃ t, s.progress.slots[i]? = some t ∧ t.state.isTerminal = true := by
  -- Along dependencies: what is still blocked would be ready once these have ended.
  induction i using hg.founded.induction with
  | _ i ih =>
    have ha := h.steady.coherent.accurate
    have hlt : i < s.progress.slots.length := ha.size.symm ▸ hi
    obtain ⟨t, ht⟩ : ∃ t, s.progress.slots[i]? = some t := ⟨_, List.getElem?_eq_getElem hlt⟩
    refine ⟨t, ht, ?_⟩
    rcases (ha.standing i t ht).waits_or_terminal with hb | hrun | hterm
    · have hready := ha.mem_ready_of_blocked ht hb fun d hd => ih d hd (hg.bounded i d hd)
      rw [h.idle] at hready
      cases hready
    · have hmem := (h.steady.running i).mp (hrun ▸ Progress.state?_of_slot ht)
      rw [h.landed] at hmem
      cases hmem
    · exact hterm

theorem Ended.slot (hg : g.Sound) (h : Ended g event fs s) (hi : i < g.size) :
    ∃ t r, s.progress.slots[i]? = some t ∧ t.report = some r ∧ r.state = t.state ∧
      r.id = Progress.idOf g i := by
  obtain ⟨t, ht, hterm⟩ := h.terminal hg hi
  obtain ⟨r, hr, hstate, hid⟩ :=
    (h.steady.coherent.accurate.standing i t ht).report_of_terminal hterm
  exact ⟨t, r, ht, hr, hstate, hid⟩

theorem Ended.isSome_report (hg : g.Sound) (h : Ended g event fs s) :
    ∀ t ∈ s.progress.slots, t.report.isSome = true := by
  intro t hm
  obtain ⟨i, hlt, he⟩ := List.mem_iff_getElem.mp hm
  have hi : i < g.size := h.steady.coherent.accurate.size ▸ hlt
  obtain ⟨u, r, hu, hr, _⟩ := h.slot hg hi
  rw [List.getElem?_eq_getElem hlt, he, Option.some.injEq] at hu
  rw [hu, hr]
  rfl

/-- The report of each instance stands at its number. -/
theorem Ended.report (hg : g.Sound) (h : Ended g event fs s) (hi : i < g.size) :
    ∃ t r, s.progress.slots[i]? = some t ∧ t.report = some r ∧
      s.progress.reports[i]? = some r ∧ r.state = t.state ∧ r.id = Progress.idOf g i := by
  obtain ⟨t, r, ht, hr, hstate, hid⟩ := h.slot hg hi
  refine ⟨t, r, ht, hr, ?_, hstate, hid⟩
  have he := congrArg (·[i]?) (Progress.reports_eq (h.isSome_report hg))
  simp only [List.getElem?_map, ht, Option.map_some, hr] at he
  obtain ⟨r', hr', hsome⟩ := Option.map_eq_some_iff.mp he
  cases hsome
  exact hr'

theorem Ended.length_reports (hg : g.Sound) (h : Ended g event fs s) :
    s.progress.reports.length = g.size := by
  have he := congrArg List.length (Progress.reports_eq (h.isSome_report hg))
  rw [List.length_map, List.length_map, h.steady.coherent.accurate.size] at he
  exact he

theorem Ended.slot_of_report (hg : g.Sound) (h : Ended g event fs s) {r : InstanceReport}
    (hr : s.progress.reports[i]? = some r) :
    ∃ t, s.progress.slots[i]? = some t ∧ t.report = some r ∧ r.state = t.state ∧
      r.id = Progress.idOf g i := by
  have hi : i < g.size := h.length_reports hg ▸ (List.getElem?_eq_some_iff.mp hr).1
  obtain ⟨t, r', ht, hrep, hr', hstate, hid⟩ := h.report hg hi
  rw [hr, Option.some.injEq] at hr'
  subst hr'
  exact ⟨t, ht, hrep, hstate, hid⟩

theorem Ended.report_of_slot (hg : g.Sound) (h : Ended g event fs s) {t : Slot}
    (ht : s.progress.slots[i]? = some t) {r : InstanceReport} (hr : t.report = some r) :
    s.progress.reports[i]? = some r ∧ r.id = Progress.idOf g i := by
  obtain ⟨u, r', hu, hr', hreport, _, hid⟩ :=
    h.report hg (h.steady.coherent.accurate.lt_size ht)
  rw [ht, Option.some.injEq] at hu
  subst hu
  rw [hr, Option.some.injEq] at hr'
  subst hr'
  exact ⟨hreport, hid⟩

/-- Every execution is recorded with its own report. -/
theorem Ended.recorded (h : Ended g event fs s) (hf : f ∈ fs) :
    ∃ n, s.progress.slots[f.instanceNumber]? =
      some ⟨f.run.report.state, n, some f.run.report⟩ := by
  rcases h.steady.recorded f hf with hfl | hslot
  · rw [h.landed] at hfl
    cases hfl
  · exact hslot

theorem Ended.report_of_mem (hg : g.Sound) (h : Ended g event fs s) (hf : f ∈ fs) :
    s.progress.reports[f.instanceNumber]? = some f.run.report := by
  obtain ⟨n, hn⟩ := h.recorded hf
  exact (h.report_of_slot hg hn rfl).1

/-- What an instance that has started reports is what its own execution came to. -/
theorem Ended.execution (h : Ended g event fs s) {t : Slot} (ht : s.progress.slots[i]? = some t)
    (hs : t.state.hasStarted = true) :
    ∃ f ∈ fs, f.instanceNumber = i ∧ t.state = f.run.report.state ∧
      t.report = some f.run.report := by
  have hstart : i ∈ fs.map Flight.instanceNumber := by
    rw [h.steady.launched]
    exact Progress.mem_startsIn.mpr
      ((h.steady.coherent.logged.started i).mpr ⟨t.state, Progress.state?_of_slot ht, hs⟩)
  obtain ⟨f, hf, rfl⟩ := List.mem_map.mp hstart
  obtain ⟨n, hn⟩ := h.recorded hf
  rw [hn, Option.some.injEq] at ht
  subst ht
  exact ⟨f, hf, rfl, rfl, rfl⟩

theorem Ended.unreported (hg : g.Sound) (h : Ended g event fs s) :
    (g.indices.filter fun i => (s.progress.slots[i]?).any (·.report.isNone)) = [] := by
  refine List.filter_eq_nil_iff.mpr fun i hi => ?_
  obtain ⟨t, r, ht, hr, _⟩ := h.slot hg (JobGraph.mem_indices.mp hi)
  simp [ht, hr]

/-- At the end of a session that is complete there is nothing to close. -/
theorem Ended.close (hg : g.Sound) (h : Ended g event fs s) (now : Nat) :
    s.progress.close g now = s.progress := by
  rw [Progress.close, h.unreported hg]
  rfl

theorem run_eq (hg : g.Sound) (c : RunContext) (store : SecretStore) (runner : StepRunner σ)
    (order : CompletionOrder) (now : Nat) (start : σ) :
    run c store runner order g now start = lastSession c store runner order g now start := by
  obtain ⟨fs, _, he⟩ := course_lastSession hg c store runner order now start
  have hrun : run c store runner order g now start =
      { lastSession c store runner order g now start with
        progress := (lastSession c store runner order g now start).progress.close g
          (lastSession c store runner order g now start).now } := rfl
  rw [hrun, he.close hg]

theorem completions_of_landed (h : s.flights = []) (n : Nat) :
    completions c store runner order g n s = s := by
  cases n with
  | zero => rfl
  | succ n =>
    unfold completions
    rw [h]
    rfl

/-- Once the loop has landed everything, more fuel does nothing. -/
theorem completions_add {n : Nat}
    (h : (completions c store runner order g n s).flights = []) (m : Nat) :
    completions c store runner order g (n + m) s = completions c store runner order g n s := by
  induction n generalizing s with
  | zero => exact completions_of_landed h _
  | succ n ih =>
    rw [Nat.succ_add]
    unfold completions at h ⊢
    split
    · rfl
    · rename_i f rest hn
      rw [hn] at h
      exact ih h

/-- Each reason of a run was given by a gate, by a dependency or by an execution. -/
theorem Ended.reason_ne (hg : g.Sound) (h : Ended g event fs s)
    (hc : Course c store runner g now start fs s) {r : InstanceReport}
    (hr : r ∈ s.progress.reports) : r.reason ≠ .executionError Progress.neverScheduled := by
  obtain ⟨i, hi⟩ := List.mem_iff_getElem?.mp hr
  obtain ⟨t, ht, hrep, _⟩ := h.slot_of_report hg hi
  have hstanding := h.steady.coherent.accurate.standing i t ht
  rcases hstanding.state_of_report (hrep ▸ Option.some_ne_none r) with hgated | hskipped | hstarted
  · obtain ⟨_, _, he⟩ := hstanding.report_of_gatedSkip hgated
    cases Option.some.inj (hrep.symm.trans he)
    exact Reason.noConfusion
  · obtain ⟨_, cause, _, _, _, he⟩ := hstanding.report_of_skipped hskipped
    cases Option.some.inj (hrep.symm.trans he)
    intro hn
    simp only [InstanceReport.notStarted, Progress.skipReason] at hn
    split at hn <;> cases hn
  · obtain ⟨f, hmem, _, _, hown⟩ := h.execution ht hstarted
    rw [Option.some.inj (hrep.symm.trans hown)]
    obtain ⟨before, after, hsplit⟩ := List.append_of_mem hmem
    obtain ⟨s', n, _, _, _, hrun⟩ := hc.execution hsplit
    rw [hrun]
    exact Execution.reason_run_ne c store runner n s'.now s'.cache s'.runnerState

theorem Ended.ids (hg : g.Sound) (h : Ended g event fs s) :
    s.progress.reports.map (·.id) = g.nodes.map (·.id) := by
  refine List.ext_getElem? fun i => ?_
  rw [List.getElem?_map, List.getElem?_map]
  by_cases hi : i < g.size
  · obtain ⟨_, r, _, _, hr, _, hid⟩ := h.report hg hi
    obtain ⟨n, hn⟩ := JobGraph.node?_of_lt hi
    have hnode : g.nodes[i]? = some n := hn
    rw [hr, hnode, Option.map_some, Option.map_some, hid, idOf_of_node hn]
  · have hlen := h.length_reports hg
    rw [List.getElem?_eq_none (by omega), List.getElem?_eq_none (Nat.le_of_not_lt hi)]
    rfl

def onPush : RunContext := ⟨⟨0⟩, ⟨.push, "refs/heads/main"⟩, [], "/work", none⟩

/-- The loop of a run stops with nothing under way, not for want of fuel, and every instance has its
report by then: what closes the run adds none. The reports are those of the instances, one for each
and in their order. -/
theorem run_reports_every_instance {p : Pipeline} {g : JobGraph} (h : JobGraph.build p = .ok g)
    (c : RunContext) (store : SecretStore) (runner : StepRunner σ) (order : CompletionOrder)
    (now : Nat) (start : σ) :
    (lastSession c store runner order g now start).flights = [] ∧
      (∀ fuel, g.size ≤ fuel →
        completions c store runner order g fuel
          (launchReady c store runner g (opening c g now start)) =
        lastSession c store runner order g now start) ∧
      (∀ i < g.size, ∃ t r,
        (lastSession c store runner order g now start).progress.slots[i]? = some t ∧
          t.report = some r) ∧
      run c store runner order g now start = lastSession c store runner order g now start ∧
      (run c store runner order g now start).progress.reports.map (·.id) = g.nodes.map (·.id) ∧
      ∀ r ∈ (run c store runner order g now start).progress.reports,
        r.reason ≠ .executionError Progress.neverScheduled := by
  have hg := JobGraph.build_sound h
  obtain ⟨fs, hc, he⟩ := course_lastSession hg c store runner order now start
  rw [run_eq hg]
  refine ⟨he.landed, fun fuel hfuel => ?_, fun i hi => ?_, rfl, he.ids hg,
    fun r => he.reason_ne hg hc⟩
  · obtain ⟨m, rfl⟩ := Nat.exists_eq_add_of_le hfuel
    exact completions_add he.landed m
  · obtain ⟨t, r, ht, hr, _⟩ := he.slot hg hi
    exact ⟨t, r, ht, hr⟩

/-- A run for a push, with a runner that breaks down at once. -/
theorem run_reports_every_instance_diamond :
    JobGraph.build JobGraph.diamond = .ok JobGraph.diamondGraph ∧
      (run onPush .empty (fun _ s => (⟨[], none, 1⟩, s)) .byTime JobGraph.diamondGraph 0
        ()).progress.reports.map (·.id) =
        [⟨"build", []⟩, ⟨"lint", []⟩, ⟨"test", []⟩, ⟨"publish", []⟩] :=
  ⟨JobGraph.build_diamond, (run_reports_every_instance JobGraph.build_diamond onPush .empty
    (fun _ s => (⟨[], none, 1⟩, s)) .byTime 0 ()).2.2.2.2.1⟩

end Scheduler

end GatedPipeline
