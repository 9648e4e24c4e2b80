import GatedPipeline.Proofs.Propagation

namespace GatedPipeline.Progress

variable {g : JobGraph} {event : Event} {p q : Progress} {i : Nat} {r : InstanceReport}

theorem mem_ready : i ∈ p.ready g ↔
    i < g.size ∧ ∃ s, p.slots[i]? = some s ∧ s.state = .blocked ∧ s.waitingOn = 0 := by
  simp only [ready, List.mem_filter, JobGraph.mem_indices, Option.any_eq_true, Bool.and_eq_true,
    beq_iff_eq]

/-- An instance that waits for nothing has dependencies that have all succeeded. -/
theorem Accurate.released (h : Accurate g event [] p) {s : Slot} (hs : p.slots[i]? = some s)
    (hw : s.waitingOn = 0) : ∀ d ∈ g.dependencies i, p.state? d = some .succeeded := by
  have hz := (h.counted i s hs).symm.trans hw
  intro d hd
  simpa using List.countP_eq_zero.mp hz d hd

/-- The start of an instance that is ready. -/
theorem Coherent.start (h : Coherent g event [] p) (hi : i ∈ p.ready g) :
    Coherent g event [] (p.start i) := by
  obtain ⟨_, s, hs, hb, hw⟩ := mem_ready.mp hi
  obtain ⟨hn, ho, _⟩ := (h.accurate.standing i s hs).report_of_blocked hb
  have hr := h.accurate.released hs hw
  have hrep := replaces_start hs
  have hu := h.accurate.unfinished hs hn
  refine ⟨?_, ?_⟩
  · refine hrep.accurate h.accurate hu rfl (by simp) ?_ (fun d hd => hd)
      (by simp [JobState.blocksDependents])
    rw [hn]
    exact .running s.waitingOn ho fun d hd => (hrep.keeps hu).succeeded (hr d hd)
  · refine h.logged.start hs hb hn ho fun d hd => ?_
    obtain ⟨t, ht, hst⟩ := state?_eq_some_iff.mp (hr d hd)
    cases h.accurate.standing d t ht with
    | ended w r _ _ _ _ => exact ⟨r, (h.logged.finished d r).mpr ⟨_, ht, rfl⟩, hst⟩
    | gated | blocked | skipped | running => cases hst

/-- The slots after the dependents of an instance have been released. -/
theorem slots_release_dependents {j : Nat} {t : Slot}
    (ht : ((g.dependents i).foldl release p).slots[j]? = some t) :
    ∃ s, p.slots[j]? = some s ∧
      t = { s with waitingOn := s.waitingOn - if i ∈ g.dependencies j then 1 else 0 } := by
  rw [slots_foldl_release _ _ (g.nodup_dependents i)] at ht
  simp only [JobGraph.mem_dependents] at ht
  split at ht
  · rename_i hm
    obtain ⟨s, hs, he⟩ := Option.map_eq_some_iff.mp ht
    exact ⟨s, hs, by rw [← he, if_pos hm]⟩
  · rename_i hm
    exact ⟨t, ht, by rw [if_neg hm, Nat.sub_zero]⟩

theorem keeps_release_dependents (g : JobGraph) (p : Progress) (i : Nat) :
    Keeps p ((g.dependents i).foldl release p) := by
  intro j t ht _
  rw [slots_foldl_release _ _ (g.nodup_dependents i), ht]
  split
  · exact ⟨t.waitingOn - 1, rfl⟩
  · exact ⟨t.waitingOn, rfl⟩

/-- A running instance succeeds, and its dependents have one success less to wait for. -/
theorem Coherent.succeed (hg : g.Sound) (h : Coherent g event [] p)
    (hi : p.state? i = some .running) (hown : r.id = idOf g i) (hr : r.state = .succeeded) :
    Coherent g event [] ((g.dependents i).foldl release (p.finish i r)) := by
  obtain ⟨s, hs, hst⟩ := state?_eq_some_iff.mp hi
  obtain ⟨hn, ho, hdeps⟩ := (h.accurate.standing i s hs).report_of_running hst
  have hrep := replaces_finish hs r
  have hk := hrep.keeps (h.accurate.unfinished hs hn)
  have hstate : ∀ d, ((g.dependents i).foldl release (p.finish i r)).state? d =
      (p.finish i r).state? d := fun d => state?_foldl_release _ d _
  have hblocks : ∀ d, ((g.dependents i).foldl release (p.finish i r)).Blocks d → p.Blocks d := by
    rintro d ⟨state, hd, hb⟩
    rw [hstate] at hd
    rcases hrep.blocks ⟨state, hd, hb⟩ with ⟨_, hb⟩ | hb
    · rw [hr] at hb
      cases hb
    · exact hb
  have hkeeps := hk.trans (keeps_release_dependents g (p.finish i r) i)
  refine ⟨⟨?_, fun j t ht => ?_, fun j t ht => ?_⟩, ?_⟩
  · rw [length_slots_foldl _ length_slots_release, hrep.length]
    exact h.accurate.size
  · obtain ⟨u, hu, rfl⟩ := slots_release_dependents ht
    have hcount : u.waitingOn = p.awaited (g.dependencies j) := by
      rw [hrep.slots] at hu
      split at hu
      · rename_i he
        cases hu
        exact he ▸ h.accurate.counted i s hs
      · exact h.accurate.counted j u hu
    -- The count and the number of dependencies to come both go down, exactly where `i` is one.
    have hsucc := hrep.awaited_succ (by simp [hst]) hr (hg.distinct j)
    have hsame : ((g.dependents i).foldl release (p.finish i r)).awaited (g.dependencies j) =
        (p.finish i r).awaited (g.dependencies j) := by
      simp only [awaited, hstate]
    rw [hsame, hcount, ← hsucc, Nat.add_sub_cancel]
  · obtain ⟨u, hu, rfl⟩ := slots_release_dependents ht
    refine Standing.recount ?_ _
    rw [hrep.slots] at hu
    split at hu
    · rename_i he
      cases hu
      subst he
      exact .ended s.waitingOn r ho (fun d hd => hkeeps.succeeded (hdeps d hd)) hown (.inl hr)
    · exact (h.accurate.standing j u hu).mono hkeeps fun d hd => .inr ⟨hblocks d hd, id⟩
  · refine (h.logged.finish hs hn ?_).foldl_release (g.nodup_dependents i)
    rw [hst, hr]
    rfl

/-- A running instance fails, and what waits for it is skipped. -/
theorem Coherent.fail (now : Nat) (h : Coherent g event [] p) (hi : p.state? i = some .running)
    (hown : r.id = idOf g i) (hr : r.state = .failed) :
    Coherent g event [] ((p.finish i r).skipDependents g now [i]) ∧
      Skips (p.finish i r) ((p.finish i r).skipDependents g now [i]) := by
  obtain ⟨s, hs, hst⟩ := state?_eq_some_iff.mp hi
  obtain ⟨hn, ho, hdeps⟩ := (h.accurate.standing i s hs).report_of_running hst
  have hrep := replaces_finish hs r
  have hu := h.accurate.unfinished hs hn
  have hq : Coherent g event ([i] ++ []) (p.finish i r) := by
    refine ⟨?_, h.logged.finish hs hn (by rw [hst, hr]; rfl)⟩
    refine hrep.accurate h.accurate hu rfl (by simp [hr]) ?_ (by simp) (by simp)
    exact .ended s.waitingOn r ho (fun d hd => (hrep.keeps hu).succeeded (hdeps d hd)) hown
      (.inr hr)
  refine hq.skipDependents now fun d hd => ?_
  rw [List.mem_singleton] at hd
  subst hd
  exact ⟨.failed, by rw [hrep.state?, if_pos rfl, hr], rfl⟩

structure Completed (g : JobGraph) (event : Event) (p q : Progress) (i : Nat)
    (r : InstanceReport) : Prop where
  coherent : Coherent g event [] q
  keeps : Keeps p q
  slot : ∃ n, q.slots[i]? = some ⟨r.state, n, some r⟩
  others : ∀ j, j ≠ i → q.state? j = p.state? j ∨
    (p.state? j = some .blocked ∧ q.state? j = some .skipped)
  starts : q.starts = p.starts

theorem Coherent.complete (now : Nat) (hg : g.Sound) (h : Coherent g event [] p)
    (hi : p.state? i = some .running) (hown : r.id = idOf g i)
    (hr : r.state = .succeeded ∨ r.state = .failed) :
    Completed g event p (p.complete g now i r) i r := by
  obtain ⟨s, hs, hst⟩ := state?_eq_some_iff.mp hi
  obtain ⟨hn, _, _⟩ := (h.accurate.standing i s hs).report_of_running hst
  have hrep := replaces_finish hs r
  have hk := hrep.keeps (h.accurate.unfinished hs hn)
  have hend : (p.finish i r).slots[i]? = some ⟨r.state, s.waitingOn, some r⟩ := by
    rw [hrep.slots, if_pos rfl]
  unfold Progress.complete
  rcases hr with hr | hr
  · have hnot : r.state.blocksDependents = false := by rw [hr]; rfl
    have hterm : r.state.isTerminal = true := by rw [hr]; rfl
    have hrelease := keeps_release_dependents g (p.finish i r) i
    simp only [hnot, Bool.false_eq_true, if_false]
    refine ⟨h.succeed hg hi hown hr, hk.trans hrelease, hrelease i _ hend hterm,
      fun j hj => .inl ?_, ?_⟩
    · rw [state?_foldl_release, hrep.state?, if_neg (Ne.symm hj)]
    · rw [starts_foldl_release, starts_finish]
  · have hblocks : r.state.blocksDependents = true := by rw [hr]; rfl
    simp only [hblocks, if_true]
    obtain ⟨hq, hskips⟩ := h.fail now hi hown hr
    have hterm : r.state.isTerminal = true := isTerminal_of_blocksDependents hblocks
    refine ⟨hq, hk.trans hskips.keeps, hskips.keeps i _ hend hterm, fun j hj => ?_, ?_⟩
    · have hsame : (p.finish i r).state? j = p.state? j := by
        rw [hrep.state?, if_neg (Ne.symm hj)]
      rw [← hsame]
      exact hskips.state? j
    · rw [starts_skipDependents, starts_finish]

theorem Completed.state?_self (h : Completed g event p q i r) : q.state? i = some r.state := by
  obtain ⟨n, hn⟩ := h.slot
  exact state?_of_slot hn

/-- What else runs after a completion ran before it. -/
theorem Completed.running_iff (h : Completed g event p q i r) {j : Nat} (hj : j ≠ i) :
    q.state? j = some .running ↔ p.state? j = some .running := by
  rcases h.others j hj with he | ⟨hb, hk⟩
  · rw [he]
  · simp [hb, hk]

end GatedPipeline.Progress
