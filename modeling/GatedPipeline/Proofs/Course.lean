import GatedPipeline.Proofs.Completion
import GatedPipeline.Proofs.Execution
import GatedPipeline.Proofs.Gates
import GatedPipeline.Run.Scheduler

namespace GatedPipeline.Scheduler

variable {σ : Type}

/-- The executions launched so far, in order, and the session that has been reached. Whatever is
ready is launched before any running instance lands; which one lands is left open. -/
inductive Course (c : RunContext) (store : SecretStore) (runner : StepRunner σ) (g : JobGraph)
    (now : Nat) (start : σ) : List Flight → Session σ → Prop where
  | opening : Course c store runner g now start [] (opening c g now start)
  | launched {fs : List Flight} {s : Session σ} {i : Nat} {n : Instance}
      (before : Course c store runner g now start fs s) (ready : i ∈ s.progress.ready g)
      (node : g.node? i = some n) :
      Course c store runner g now start
        (fs ++ [⟨i, (Execution.run c store runner n s.now s.cache s.runnerState).1⟩])
        (launch c store runner g s i)
  | landed {fs : List Flight} {s : Session σ} {f : Flight} {earlier later : List Flight}
      (before : Course c store runner g now start fs s) (idle : s.progress.ready g = [])
      (flies : s.flights = earlier ++ f :: later) :
      Course c store runner g now start fs (land g f (earlier ++ later) s)

/-- The invariant of a session: its flights are the running instances, and every execution that is
no longer under way is recorded with its own report. -/
structure Steady (g : JobGraph) (event : Event) (fs : List Flight) (s : Session σ) : Prop where
  coherent : s.progress.Coherent g event []
  running : ∀ i, s.progress.state? i = some .running ↔ i ∈ s.flights.map Flight.instanceNumber
  distinct : (s.flights.map Flight.instanceNumber).Nodup
  launched : fs.map Flight.instanceNumber = s.progress.starts
  underway : ∀ f ∈ s.flights, f ∈ fs
  own : ∀ f ∈ fs, f.run.report.id = Progress.idOf g f.instanceNumber ∧
    (f.run.report.state = .succeeded ∨ f.run.report.state = .failed)
  recorded : ∀ f ∈ fs, f ∈ s.flights ∨
    ∃ n, s.progress.slots[f.instanceNumber]? = some ⟨f.run.report.state, n, some f.run.report⟩
  calls : s.calls = fs.flatMap (·.run.calls)

variable {c : RunContext} {store : SecretStore} {runner : StepRunner σ} {g : JobGraph} {now : Nat}
  {start : σ} {fs : List Flight} {s : Session σ} {i : Nat} {n : Instance} {event : Event}

theorem launch_of_node (h : g.node? i = some n) :
    launch c store runner g s i =
      { s with
        progress := s.progress.start i
        flights := s.flights ++
          [⟨i, (Execution.run c store runner n s.now s.cache s.runnerState).1⟩]
        calls := s.calls ++ (Execution.run c store runner n s.now s.cache s.runnerState).1.calls
        cache := (Execution.run c store runner n s.now s.cache s.runnerState).2.1
        runnerState := (Execution.run c store runner n s.now s.cache s.runnerState).2.2 } := by
  simp only [launch, h]

theorem idOf_of_node (h : g.node? i = some n) : Progress.idOf g i = n.id := by
  simp [Progress.idOf, h]

theorem gateOpen_of_node (h : g.node? i = some n) :
    Progress.gateOpen g event i = Condition.gateOpen n.condition event := by
  simp only [Progress.gateOpen, h]

theorem Steady.nodup (h : Steady g event fs s) : (fs.map Flight.instanceNumber).Nodup := by
  rw [h.launched]
  exact h.coherent.logged.orderly.nodup_startsIn

theorem steady_opening (c : RunContext) (g : JobGraph) (now : Nat) (start : σ) :
    Steady g c.event [] (opening c g now start) := by
  refine ⟨Progress.coherent_afterGates, fun i => ?_, List.nodup_nil,
    Progress.starts_afterGates.symm, ?_, ?_, ?_, rfl⟩
  · constructor
    · intro h
      cases Progress.not_hasStarted_afterGates h
    · intro h
      cases h
  · intro f hf
    cases hf
  · intro f hf
    cases hf
  · intro f hf
    cases hf

theorem Steady.launch (h : Steady g event fs s) (hi : i ∈ s.progress.ready g)
    (hn : g.node? i = some n) :
    Steady g event (fs ++ [⟨i, (Execution.run c store runner n s.now s.cache s.runnerState).1⟩])
      (launch c store runner g s i) := by
  rw [launch_of_node hn]
  obtain ⟨_, t, ht, hb, _⟩ := Progress.mem_ready.mp hi
  have hrep := Progress.replaces_start ht
  -- A ready instance is still blocked, so it is none of those that are running.
  have hnot : i ∉ s.flights.map Flight.instanceNumber := by
    rw [← h.running, Progress.state?_of_slot ht, hb]
    simp
  have hstanding := (h.coherent.accurate.standing i t ht).report_of_blocked hb
  refine ⟨h.coherent.start hi, fun j => ?_, ?_, ?_, ?_, ?_, ?_, ?_⟩
  · simp only [hrep.state?, List.map_append, List.map_cons, List.map_nil, List.mem_append,
      List.mem_singleton, ← h.running]
    split
    · rename_i he
      simp [he]
    · rename_i hne
      simp [Ne.symm hne]
  · rw [List.map_append]
    refine h.distinct.append (List.nodup_singleton i) fun j hj hm => ?_
    have he : j = i := List.mem_singleton.mp hm
    exact hnot (he ▸ hj)
  · rw [List.map_append, h.launched, Progress.starts_start]
    rfl
  · intro f hf
    rcases List.mem_append.mp hf with hf | hf
    · exact List.mem_append_left _ (h.underway f hf)
    · exact List.mem_append_right _ hf
  · intro f hf
    rcases List.mem_append.mp hf with hf | hf
    · exact h.own f hf
    · cases List.mem_singleton.mp hf
      rw [idOf_of_node hn]
      exact ⟨Execution.id_run .., Execution.state_run ..⟩
  · intro f hf
    rcases List.mem_append.mp hf with hf | hf
    · rcases h.recorded f hf with hfl | ⟨m, hm⟩
      · exact .inl (List.mem_append_left _ hfl)
      · right
        have hterm := JobState.isTerminal_of_final (h.own f hf).2
        have hu := h.coherent.accurate.unfinished ht hstanding.1
        exact hrep.keeps hu _ _ hm hterm
    · exact .inl (List.mem_append_right _ hf)
  · rw [h.calls, List.flatMap_append]
    simp

/-- One of the flights is taken out: the others are those of other instances. -/
theorem Steady.nodup_remove (h : Steady g event fs s) {f : Flight} {earlier later : List Flight}
    (hf : s.flights = earlier ++ f :: later) :
    f.instanceNumber ∉ (earlier ++ later).map Flight.instanceNumber ∧
      ((earlier ++ later).map Flight.instanceNumber).Nodup := by
  have hd := h.distinct
  rwa [hf, List.map_append, List.map_cons, List.nodup_middle, List.nodup_cons,
    ← List.map_append] at hd

theorem Steady.land (hg : g.Sound) (h : Steady g event fs s) {f : Flight}
    {earlier later : List Flight} (hf : s.flights = earlier ++ f :: later) :
    Steady g event fs (land g f (earlier ++ later) s) := by
  have hflights : ∀ f', f' ∈ s.flights ↔ f' = f ∨ f' ∈ earlier ++ later := by
    intro f'
    rw [hf, List.perm_middle.mem_iff, List.mem_cons]
  have hmem : f ∈ s.flights := (hflights f).mpr (.inl rfl)
  obtain ⟨hnot, hrest⟩ := h.nodup_remove hf
  have hrun : s.progress.state? f.instanceNumber = some .running :=
    (h.running _).mpr (List.mem_map.mpr ⟨f, hmem, rfl⟩)
  obtain ⟨hown, hend⟩ := h.own f (h.underway f hmem)
  have hdone := h.coherent.complete f.run.finishedAt hg hrun hown hend
  refine ⟨hdone.coherent, fun j => ?_, hrest, ?_,
    fun f' hf' => h.underway f' ((hflights f').mpr (.inr hf')), h.own, ?_, h.calls⟩
  -- One instance less is running: the others that changed were blocked and are skipped.
  · change (s.progress.complete g f.run.finishedAt f.instanceNumber f.run.report).state? j = _ ↔ _
    by_cases hj : j = f.instanceNumber
    · subst hj
      rw [hdone.state?_self]
      refine ⟨fun he => ?_, fun he => absurd he hnot⟩
      rcases hend with h | h <;> rw [h] at he <;> cases he
    · rw [hdone.running_iff hj, h.running, hf]
      change _ ↔ j ∈ (earlier ++ later).map Flight.instanceNumber
      simp [hj]
  · change fs.map Flight.instanceNumber = (s.progress.complete g _ _ _).starts
    rw [hdone.starts]
    exact h.launched
  · intro f' hf'
    by_cases he : f'.instanceNumber = f.instanceNumber
    · right
      have hsame : f' = f :=
        List.inj_on_of_nodup_map h.nodup hf' (h.underway f hmem) he
      rw [hsame]
      exact hdone.slot
    · rcases h.recorded f' hf' with hfl | ⟨m, hm⟩
      · left
        rcases (hflights f').mp hfl with rfl | hfl
        · exact absurd rfl he
        · exact hfl
      · right
        exact hdone.keeps _ _ hm (JobState.isTerminal_of_final (h.own f' hf').2)

/-- Every session of a run is steady, whatever lands when. -/
theorem Course.steady (hg : g.Sound) (h : Course c store runner g now start fs s) :
    Steady g c.event fs s := by
  induction h with
  | opening => exact steady_opening c g now start
  | launched _ hr hn ih => exact ih.launch hr hn
  | landed _ _ hf ih => exact ih.land hg hf

/-- An execution of a run took place in a session of the same run, in which its instance was
ready. -/
theorem Course.execution (h : Course c store runner g now start fs s) {before after : List Flight}
    {f : Flight} (hf : fs = before ++ f :: after) :
    ∃ t n, Course c store runner g now start before t ∧
      f.instanceNumber ∈ t.progress.ready g ∧ g.node? f.instanceNumber = some n ∧
      f.run = (Execution.run c store runner n t.now t.cache t.runnerState).1 := by
  induction h generalizing after with
  | opening => simp at hf
  | @launched fs s i n hc hr hn ih =>
    rcases List.eq_nil_or_concat after with rfl | ⟨rest, last, rfl⟩
    · obtain ⟨rfl, he⟩ := List.append_inj' hf rfl
      cases he
      exact ⟨s, n, hc, hr, hn, rfl⟩
    · rw [List.concat_eq_append, ← List.cons_append, ← List.append_assoc] at hf
      exact ih (List.append_inj' hf rfl).1
  | landed _ _ _ ih => exact ih hf

end GatedPipeline.Scheduler
