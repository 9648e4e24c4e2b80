import GatedPipeline.Proofs.Milestones

namespace GatedPipeline.Progress

structure Coherent (g : JobGraph) (event : Event) (due : List Nat) (p : Progress) : Prop where
  accurate : Accurate g event due p
  logged : Logged g event p

/-- Nothing has changed but that some blocked instances are skipped. -/
def Skips (p q : Progress) : Prop :=
  ∀ i : Nat, q.slots[i]? = p.slots[i]? ∨
    ∃ s t, p.slots[i]? = some s ∧ s.state = .blocked ∧ q.slots[i]? = some t ∧ t.state = .skipped

theorem Skips.refl (p : Progress) : Skips p p := fun _ => .inl rfl

theorem Skips.trans {p q r : Progress} (hpq : Skips p q) (hqr : Skips q r) : Skips p r := by
  intro i
  rcases hpq i with hp | ⟨s, t, hs, hb, ht, hk⟩
  · rw [← hp]
    exact hqr i
  · rcases hqr i with hq | ⟨u, v, hu, hb', hv, hk'⟩
    · exact .inr ⟨s, t, hs, hb, hq.trans ht, hk⟩
    · rw [ht, Option.some.injEq] at hu
      subst hu
      rw [hk] at hb'
      cases hb'

variable {g : JobGraph} {event : Event} {due : List Nat} {p q : Progress} {i cause : Nat}

theorem Skips.state? (h : Skips p q) (i : Nat) :
    q.state? i = p.state? i ∨ (p.state? i = some .blocked ∧ q.state? i = some .skipped) := by
  rcases h i with he | ⟨s, t, hs, hb, ht, hk⟩
  · left
    simp only [Progress.state?, he]
  · right
    exact ⟨hb ▸ state?_of_slot hs, hk ▸ state?_of_slot ht⟩

theorem Skips.keeps (h : Skips p q) : Keeps p q := by
  intro i s hs hterm
  rcases h i with he | ⟨t, _, ht, hb, _, _⟩
  · exact ⟨s.waitingOn, he.trans hs⟩
  · rw [hs, Option.some.injEq] at ht
    subst ht
    rw [hb] at hterm
    cases hterm

theorem Skips.unblocked (h : Skips p q) (hi : p.isBlocked i = false) : q.isBlocked i = false := by
  rcases h.state? i with he | ⟨hb, _⟩
  · rw [← hi, isBlocked, isBlocked, he]
  · rw [isBlocked_iff.mpr hb] at hi
    cases hi

/-- One skip: a blocked instance ends because of a dependency, and is due itself. -/
theorem Coherent.skip (now : Nat) (h : Coherent g event due p) (hi : p.isBlocked i = true)
    (hc : cause ∈ g.dependencies i) (hb : p.Blocks cause) :
    Coherent g event (i :: due) (p.skip g now (p.skipReason g cause) i) ∧
      Skips p (p.skip g now (p.skipReason g cause) i) ∧
      (p.skip g now (p.skipReason g cause) i).state? i = some .skipped := by
  obtain ⟨s, hs, hst⟩ := state?_eq_some_iff.mp (isBlocked_iff.mp hi)
  obtain ⟨hn, ho, _⟩ := (h.accurate.standing i s hs).report_of_blocked hst
  have hrep := replaces_finish hs (.notStarted (idOf g i) .skipped (p.skipReason g cause) now)
  have hu := h.accurate.unfinished hs hn
  have hk := hrep.keeps hu
  have hstate : (p.skip g now (p.skipReason g cause) i).state? i = some .skipped := by
    rw [Progress.skip, hrep.state?, if_pos rfl]
    rfl
  refine ⟨⟨?_, ?_⟩, ?_, hstate⟩
  · have hstand : Standing g event (i :: due) _ i _ :=
      .skipped s.waitingOn cause now ho hc (hk.blocks hb)
    rw [hk.skipReason_eq hb] at hstand
    exact hrep.accurate h.accurate hu rfl (by simp [InstanceReport.notStarted]) hstand
      (fun d hd => List.mem_cons_of_mem i hd) fun _ => List.mem_cons_self
  · refine h.logged.finish hs hn ?_
    rw [hst]
    rfl
  · intro j
    by_cases he : i = j
    · subst he
      obtain ⟨t, ht, hk'⟩ := state?_eq_some_iff.mp hstate
      exact .inr ⟨s, t, hs, hst, ht, hk'⟩
    · left
      rw [Progress.skip, hrep.slots, if_neg he]

/-- Of the given dependents of an instance none stays blocked, and those that were are due. -/
theorem Coherent.skipBlocked (now : Nat) (h : Coherent g event due p) (hb : p.Blocks cause)
    {is : List Nat} (hc : ∀ i ∈ is, cause ∈ g.dependencies i) {reason : Reason}
    (hr : reason = p.skipReason g cause) :
    Coherent g event ((skipBlocked g now reason is p).2 ++ due) (skipBlocked g now reason is p).1 ∧
      Skips p (skipBlocked g now reason is p).1 ∧
      (∀ i ∈ is, (skipBlocked g now reason is p).1.isBlocked i = false) ∧
      ∀ i ∈ (skipBlocked g now reason is p).2, (skipBlocked g now reason is p).1.Blocks i := by
  induction is generalizing p due with
  | nil => exact ⟨h, .refl p, by simp, by simp [Progress.skipBlocked]⟩
  | cons i is ih =>
    have hc' : ∀ j ∈ is, cause ∈ g.dependencies j := fun j hj => hc j (List.mem_cons_of_mem i hj)
    unfold Progress.skipBlocked
    split
    · rename_i hi
      obtain ⟨hq, hpq, hskipped⟩ := h.skip now hi (hc i List.mem_cons_self) hb
      rw [← hr] at hq hpq hskipped
      obtain ⟨hu, hqu, hnone, hblocks⟩ := ih hq (hpq.keeps.blocks hb) hc'
        (hr.trans (hpq.keeps.skipReason_eq hb).symm)
      have hend := hqu.keeps.state hskipped rfl
      refine ⟨⟨hu.accurate.settle fun d hd => .inl ?_, hu.logged⟩, hpq.trans hqu, ?_, ?_⟩
      · simp only [List.mem_append, List.mem_cons] at hd ⊢
        rcases hd with hd | rfl | hd
        · exact .inl (.inr hd)
        · exact .inl (.inl rfl)
        · exact .inr hd
      · intro j hj
        rcases List.mem_cons.mp hj with rfl | hj
        · simp [isBlocked, hend]
        · exact hnone j hj
      · intro j hj
        rcases List.mem_cons.mp hj with rfl | hj
        · exact ⟨.skipped, hend, rfl⟩
        · exact hblocks j hj
    · rename_i hi
      obtain ⟨hu, hpu, hnone, hblocks⟩ := ih h hb hc' hr
      refine ⟨hu, hpu, ?_, hblocks⟩
      intro j hj
      rcases List.mem_cons.mp hj with rfl | hj
      · exact hpu.unblocked (by simpa using hi)
      · exact hnone j hj

/-- When the skips have spread, the instances from which they spread are no longer due. -/
theorem Coherent.skipDependents (now : Nat) {origins : List Nat}
    (h : Coherent g event (origins ++ due) p) (ho : ∀ d ∈ origins, p.Blocks d) :
    Coherent g event due (p.skipDependents g now origins) ∧
      Skips p (p.skipDependents g now origins) := by
  induction origins, p using Progress.skipDependents.induct g now with
  | case1 p =>
    unfold Progress.skipDependents
    exact ⟨h, .refl p⟩
  | case2 p cause rest r ih =>
    have hb := ho cause List.mem_cons_self
    obtain ⟨hq, hpq, hnone, hblocks⟩ := h.skipBlocked now hb
      (fun i hi => JobGraph.mem_dependents.mp hi) rfl
    -- What was skipped for `cause` takes its place among what is due.
    have hq' : Coherent g event ((r.2.reverse ++ rest) ++ due) r.1 := by
      refine ⟨hq.accurate.settle fun d hd => ?_, hq.logged⟩
      simp only [List.cons_append, List.mem_append, List.mem_cons, List.mem_reverse] at hd ⊢
      rcases hd with hd | rfl | hd | hd
      · exact .inl (.inl (.inl hd))
      · exact .inr hnone
      · exact .inl (.inl (.inr hd))
      · exact .inl (.inr hd)
    have ho' : ∀ d ∈ r.2.reverse ++ rest, r.1.Blocks d := by
      intro d hd
      rcases List.mem_append.mp hd with hd | hd
      · exact hblocks d (List.mem_reverse.mp hd)
      · exact hpq.keeps.blocks (ho d (List.mem_cons_of_mem cause hd))
    obtain ⟨hu, hqu⟩ := ih hq' ho'
    rw [Progress.skipDependents]
    exact ⟨hu, hpq.trans hqu⟩

theorem starts_skipBlocked (g : JobGraph) (now : Nat) (reason : Reason) (is : List Nat)
    (p : Progress) : (Progress.skipBlocked g now reason is p).1.starts = p.starts := by
  induction is generalizing p with
  | nil => rfl
  | cons i is ih =>
    unfold Progress.skipBlocked
    split
    · exact (ih _).trans (starts_finish p i _)
    · exact ih p

theorem starts_skipDependents (g : JobGraph) (now : Nat) (origins : List Nat) (p : Progress) :
    (p.skipDependents g now origins).starts = p.starts := by
  induction origins, p using Progress.skipDependents.induct g now with
  | case1 p =>
    unfold Progress.skipDependents
    rfl
  | case2 p cause rest r ih =>
    rw [Progress.skipDependents]
    exact ih.trans (starts_skipBlocked g now _ _ p)

end GatedPipeline.Progress
