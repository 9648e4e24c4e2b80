import GatedPipeline.Proofs.Conclusion
import Mathlib.Logic.Relation

namespace GatedPipeline

/-- An instance relies on itself and on what it depends on, directly or through others. -/
def JobGraph.Relies (g : JobGraph) : Nat → Nat → Prop :=
  Relation.ReflTransGen fun i d => d ∈ g.dependencies i

namespace Scheduler

variable {σ τ : Type}

/-- How the report of an instance follows from its gate, from the reports of its dependencies and
from its own execution. -/
structure Resolved (c : RunContext) (store : SecretStore) (runner : StepRunner σ)
    (fs : List Flight) (reports : List InstanceReport) (i : Nat) (n : Instance)
    (r : InstanceReport) : Prop where
  gated : r.state = .gatedSkip ↔ Condition.gateOpen n.condition c.event = false
  skipped : r.state = .skipped ↔ Condition.gateOpen n.condition c.event = true ∧
    ∃ d ∈ n.dependencies, ∃ r', reports[d]? = some r' ∧ r'.state ≠ .succeeded
  spared : r.state = .gatedSkip ∨ r.state = .skipped → i ∉ fs.map Flight.instanceNumber
  executed : r.state ≠ .gatedSkip → r.state ≠ .skipped →
    (fs.map Flight.instanceNumber).count i = 1 ∧
      ∃ f ∈ fs, f.instanceNumber = i ∧ r = f.run.report ∧
        ∃ time cache state, f.run = (Execution.run c store runner n time cache state).1 ∧
          (Execution.Breaks c store runner n time cache state → r.state = .failed)

variable {c c' : RunContext} {store store' : SecretStore} {runner : StepRunner σ}
  {runner' : StepRunner τ} {g : JobGraph} {now : Nat} {start : σ} {fs fs' : List Flight}
  {s : Session σ} {s' : Session τ} {event : Event} {i : Nat} {n : Instance}
  {r r' : InstanceReport} {reports reports' : List InstanceReport}

theorem Ended.report_state (hg : g.Sound) (h : Ended g event fs s) (hi : i < g.size) :
    ∃ r, s.progress.reports[i]? = some r ∧ s.progress.state? i = some r.state := by
  obtain ⟨t, r, ht, _, hr, hstate, _⟩ := h.report hg hi
  exact ⟨r, hr, hstate ▸ Progress.state?_of_slot ht⟩

/-- An instance is skipped exactly where its gate is open and a dependency has not succeeded. -/
theorem Ended.skipped_iff (hg : g.Sound) (h : Ended g event fs s) {t : Slot}
    (ht : s.progress.slots[i]? = some t) :
    t.state = .skipped ↔ Progress.gateOpen g event i = true ∧
      ∃ d ∈ g.dependencies i, ∃ r, s.progress.reports[d]? = some r ∧ r.state ≠ .succeeded := by
  have hstanding := h.steady.coherent.accurate.standing i t ht
  have hterm : t.report ≠ none := by
    obtain ⟨u, r, hu, hr, _⟩ := h.slot hg (h.steady.coherent.accurate.lt_size ht)
    rw [ht, Option.some.injEq] at hu
    rw [hu, hr]
    exact Option.some_ne_none r
  constructor
  · intro hskip
    obtain ⟨ho, cause, hdep, ⟨state, hs, hblocks⟩, _⟩ := hstanding.report_of_skipped hskip
    obtain ⟨r, hr, hstate⟩ := h.report_state hg (hg.bounded i cause hdep)
    refine ⟨ho, cause, hdep, r, hr, ?_⟩
    rw [hs, Option.some.injEq] at hstate
    intro hsucc
    rw [hstate, hsucc] at hblocks
    cases hblocks
  · rintro ⟨ho, d, hd, r, hr, hne⟩
    cases hstanding with
    | skipped => rfl
    | gated _ _ hclosed => rw [ho] at hclosed; cases hclosed
    | blocked | running => exact absurd rfl hterm
    | ended w r' _ hreleased _ _ =>
      obtain ⟨u, hu, hstate⟩ := h.report_state hg (hg.bounded i d hd)
      rw [hreleased d hd, Option.some.injEq] at hstate
      rw [hr, Option.some.injEq] at hu
      exact absurd (hu ▸ hstate.symm) hne

theorem Ended.gated_iff (h : Ended g event fs s) {t : Slot}
    (ht : s.progress.slots[i]? = some t) :
    t.state = .gatedSkip ↔ Progress.gateOpen g event i = false := by
  constructor
  · intro hgate
    exact ((h.steady.coherent.accurate.standing i t ht).report_of_gatedSkip hgate).1
  · intro hclosed
    cases h.steady.coherent.accurate.standing i t ht with
    | gated => rfl
    | blocked _ ho | skipped _ _ _ ho | running _ ho | ended _ _ ho =>
      rw [ho] at hclosed
      cases hclosed

/-- Each instance has one report, which follows from what stands before it. -/
theorem Ended.resolved (hg : g.Sound) (h : Ended g c.event fs s)
    (hc : Course c store runner g now start fs s) (hn : g.node? i = some n) :
    ∃ r, s.progress.reports[i]? = some r ∧ r.id = n.id ∧
      Resolved c store runner fs s.progress.reports i n r := by
  obtain ⟨t, r, ht, hrep, hr, hstate, hid⟩ := h.report hg (JobGraph.lt_of_node? hn)
  have hdeps := JobGraph.dependencies_of_node? hn
  have hgate : Progress.gateOpen g c.event i = _ := gateOpen_of_node hn
  refine ⟨r, hr, hid.trans (idOf_of_node hn), ?_, ?_, ?_, ?_⟩
  · rw [hstate, h.gated_iff ht, hgate]
  · rw [hstate, h.skipped_iff hg ht, hgate, hdeps]
  · intro hskip hmem
    obtain ⟨f, hf, rfl⟩ := List.mem_map.mp hmem
    have he := h.report_of_mem hg hf
    rw [hr, Option.some.injEq] at he
    rw [he] at hskip
    rcases (h.steady.own f hf).2 with hs | hs <;> rw [hs] at hskip <;>
      rcases hskip with hk | hk <;> cases hk
  · intro hgated hskipped
    have hstarted : t.state.hasStarted = true := by
      rw [hstate] at hgated hskipped
      have hstanding := h.steady.coherent.accurate.standing i t ht
      rcases hstanding.state_of_report (hrep ▸ Option.some_ne_none r) with hs | hs | hs
      · exact absurd hs hgated
      · exact absurd hs hskipped
      · exact hs
    obtain ⟨f, hf, rfl, _, hown⟩ := h.execution ht hstarted
    have he : r = f.run.report := Option.some.inj (hrep.symm.trans hown)
    obtain ⟨before, after, hsplit⟩ := List.append_of_mem hf
    obtain ⟨u, n', _, _, hn', hrun⟩ := hc.execution hsplit
    rw [hn, Option.some.injEq] at hn'
    subst hn'
    refine ⟨List.count_eq_one_of_mem h.steady.nodup (List.mem_map_of_mem hf), f, hf, rfl, he,
      u.now, u.cache, u.runnerState, hrun, fun hb => ?_⟩
    rw [he, hrun]
    exact Execution.state_run_of_breaks hb

/-- Two reports of an instance show the same state if those of its dependencies do and if its
executions, where it has both, come to the same. -/
theorem Resolved.state_eq (h : Resolved c store runner fs reports i n r)
    (h' : Resolved c' store' runner' fs' reports' i n r') (hevent : c'.event = c.event)
    (hdeps : ∀ d ∈ n.dependencies,
      (reports[d]?).map (·.state) = (reports'[d]?).map (·.state))
    (hown : ∀ f ∈ fs, ∀ f' ∈ fs', f.instanceNumber = i → f'.instanceNumber = i →
      f.run.report.state = f'.run.report.state) : r.state = r'.state := by
  have hgated : r.state = .gatedSkip ↔ r'.state = .gatedSkip := by
    rw [h.gated, h'.gated, hevent]
  have hfailing : ∀ d ∈ n.dependencies,
      (∃ u, reports[d]? = some u ∧ u.state ≠ .succeeded) ↔
        ∃ u, reports'[d]? = some u ∧ u.state ≠ .succeeded := by
    intro d hd
    have he := hdeps d hd
    cases hu : reports[d]? <;> cases hv : reports'[d]? <;> rw [hu, hv] at he
    · cases he
    · cases he
    · simp [Option.some.inj he]
  have hskipped : r.state = .skipped ↔ r'.state = .skipped := by
    rw [h.skipped, h'.skipped, hevent]
    exact and_congr_right fun _ => exists_congr fun d => and_congr_right (hfailing d)
  by_cases hg : r.state = .gatedSkip
  · rw [hg, hgated.mp hg]
  · by_cases hs : r.state = .skipped
    · rw [hs, hskipped.mp hs]
    · obtain ⟨_, f, hf, hi, he, _⟩ := h.executed hg hs
      obtain ⟨_, f', hf', hi', he', _⟩ :=
        h'.executed (fun hg' => hg (hgated.mpr hg')) fun hs' => hs (hskipped.mpr hs')
      rw [he, he']
      exact hown f hf f' hf' hi hi'

/-- The state of an instance is settled by the executions of what it relies on: the equation that
the reports solve has one solution, since dependencies are founded. -/
theorem Ended.state_eq {now' : Nat} {start' : τ} (hg : g.Sound) (h : Ended g c.event fs s)
    (hc : Course c store runner g now start fs s) (h' : Ended g c'.event fs' s')
    (hc' : Course c' store' runner' g now' start' fs' s') (hevent : c'.event = c.event)
    (hown : ∀ j, g.Relies i j → ∀ f ∈ fs, ∀ f' ∈ fs', f.instanceNumber = j →
      f'.instanceNumber = j → f.run.report.state = f'.run.report.state) :
    (s.progress.reports[i]?).map (·.state) = (s'.progress.reports[i]?).map (·.state) := by
  induction i using hg.founded.induction with
  | _ i ih =>
    cases hn : g.node? i with
    | none =>
      have hi : g.size ≤ i := List.getElem?_eq_none_iff.mp hn
      rw [List.getElem?_eq_none (by rw [h.length_reports hg]; exact hi),
        List.getElem?_eq_none (by rw [h'.length_reports hg]; exact hi)]
    | some n =>
      obtain ⟨r, hr, _, hres⟩ := h.resolved hg hc hn
      obtain ⟨r', hr', _, hres'⟩ := h'.resolved hg hc' hn
      rw [hr, hr', Option.map_some, Option.map_some]
      refine congrArg some (hres.state_eq hres' hevent (fun d hd => ?_) (hown i .refl))
      have hdep : d ∈ g.dependencies i := JobGraph.dependencies_of_node? hn ▸ hd
      exact ih d hdep fun j hj => hown j (.head hdep hj)

/-- An instance is gated exactly where its condition is false, skipped exactly where its gate is
open and a dependency did not succeed, and in every other case executed once, with the state that
its own execution returned. What an instance does not rely on has no influence on its state: it is
the same in any run for the same event in which the instances that it relies on, as far as they are
executed, come to the same. -/
theorem reports_resolve {p : Pipeline} {g : JobGraph} (h : JobGraph.build p = .ok g)
    (c : RunContext) (store : SecretStore) (runner : StepRunner σ) (order : CompletionOrder)
    (now : Nat) (start : σ) :
    ∃ fs, Course c store runner g now start fs (run c store runner order g now start) ∧
      (∀ i n, g.node? i = some n →
        ∃ r, (run c store runner order g now start).progress.reports[i]? = some r ∧ r.id = n.id ∧
          Resolved c store runner fs (run c store runner order g now start).progress.reports
            i n r) ∧
      ∀ (τ : Type) (c' : RunContext) (store' : SecretStore) (runner' : StepRunner τ)
        (order' : CompletionOrder) (now' : Nat) (start' : τ) (fs' : List Flight),
        c'.event = c.event →
        Course c' store' runner' g now' start' fs'
          (run c' store' runner' order' g now' start') →
        ∀ i, (∀ j, g.Relies i j → ∀ f ∈ fs, ∀ f' ∈ fs', f.instanceNumber = j →
            f'.instanceNumber = j → f.run.report.state = f'.run.report.state) →
          ((run c store runner order g now start).progress.reports[i]?).map (·.state) =
            ((run c' store' runner' order' g now' start').progress.reports[i]?).map
              (·.state) := by
  have hg := JobGraph.build_sound h
  obtain ⟨fs, hc, he⟩ := course_lastSession hg c store runner order now start
  rw [run_eq hg]
  refine ⟨fs, hc, fun i n hn => he.resolved hg hc hn, ?_⟩
  intro τ c' store' runner' order' now' start' fs' hevent hc' i hown
  rw [run_eq hg] at hc' ⊢
  obtain ⟨_, _, he'⟩ := course_lastSession hg c' store' runner' order' now' start'
  exact he.state_eq hg hc ⟨hc'.steady hg, he'.idle, he'.landed⟩ hc' hevent hown

/-- For a push, the job that is for tags is gated and has not run. -/
theorem reports_resolve_diamond :
    JobGraph.build JobGraph.diamond = .ok JobGraph.diamondGraph ∧
      ∃ r, (run onPush .empty (.scripted []) .byTime JobGraph.diamondGraph 0
          ()).progress.reports[3]? = some r ∧ r.state = .gatedSkip := by
  refine ⟨JobGraph.build_diamond, ?_⟩
  obtain ⟨fs, _, hres, _⟩ := reports_resolve JobGraph.build_diamond onPush .empty
    (.scripted []) .byTime 0 ()
  obtain ⟨r, hr, _, hresolved⟩ := hres 3 _ rfl
  exact ⟨r, hr, hresolved.gated.mpr (by decide +kernel)⟩

end Scheduler

end GatedPipeline
