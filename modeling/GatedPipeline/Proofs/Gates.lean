import GatedPipeline.Proofs.Propagation

namespace GatedPipeline.Progress

def gateSlot (g : JobGraph) (event : Event) (now i : Nat) (s : Slot) : Slot :=
  if gateOpen g event i then { s with state := .blocked }
  else { s with
    state := .gatedSkip
    report := some (.notStarted (idOf g i) .gatedSkip
      (.skippedByCondition (conditionText g i)) now) }

variable {g : JobGraph} {event : Event} {now : Nat} {p : Progress}

theorem slots_passGate (p : Progress) (i j : Nat) :
    (passGate g event now p i).slots[j]? =
      if i = j then (p.slots[j]?).map (gateSlot g event now i) else p.slots[j]? := by
  unfold passGate gateSlot
  split
  · exact slots_enter p i j .blocked
  · exact slots_finish p i j _

theorem length_slots_passGate (p : Progress) (i : Nat) :
    (passGate g event now p i).slots.length = p.slots.length := by
  unfold passGate
  split <;> simp

theorem slots_initial (g : JobGraph) (i : Nat) :
    (initial g).slots[i]? = (g.node? i).map fun n => ⟨.pending, n.dependencies.length, none⟩ := by
  simp [initial, JobGraph.node?]

/-- All gates have been looked at, and no skip has spread yet. -/
def gatesPassed (g : JobGraph) (event : Event) (now : Nat) : Progress :=
  g.indices.foldl (passGate g event now) (initial g)

theorem slots_gatesPassed (i : Nat) :
    (gatesPassed g event now).slots[i]? = (g.node? i).map fun n =>
      gateSlot g event now i ⟨.pending, n.dependencies.length, none⟩ := by
  rw [gatesPassed, slots_foldl (initial g) i slots_passGate g.nodup_indices, slots_initial]
  cases hi : g.node? i with
  | none => simp
  | some n =>
    have hm : i ∈ g.indices := JobGraph.mem_indices.mpr (JobGraph.lt_of_node? hi)
    simp [hm]

theorem Logged.foldl_passGate (h : Logged g event p) {is : List Nat} (his : is.Nodup)
    (hp : ∀ i ∈ is, ∃ s, p.slots[i]? = some s ∧ s.state = .pending ∧ s.report = none) :
    Logged g event (is.foldl (passGate g event now) p) := by
  induction is generalizing p with
  | nil => exact h
  | cons i is ih =>
    obtain ⟨hi, his⟩ := List.nodup_cons.mp his
    obtain ⟨s, hs, hst, hn⟩ := hp i List.mem_cons_self
    refine ih ?_ his fun j hj => ?_
    · unfold passGate
      split
      · exact h.enter hs (by rw [hst]; rfl)
      · exact h.finish hs hn (by rw [hst]; rfl)
    · have hne : i ≠ j := fun he => hi (he ▸ hj)
      rw [slots_passGate, if_neg hne]
      exact hp j (List.mem_cons_of_mem i hj)

theorem logged_gatesPassed : Logged g event (gatesPassed g event now) := by
  refine (logged_initial g event).foldl_passGate g.nodup_indices fun i hi => ?_
  obtain ⟨n, hn⟩ := JobGraph.node?_of_lt (JobGraph.mem_indices.mp hi)
  exact ⟨⟨.pending, n.dependencies.length, none⟩, by simp [slots_initial, hn], rfl, rfl⟩

theorem state?_gatesPassed {i : Nat} {state : JobState}
    (h : (gatesPassed g event now).state? i = some state) :
    i < g.size ∧ state = if gateOpen g event i then .blocked else .gatedSkip := by
  obtain ⟨s, hs, rfl⟩ := state?_eq_some_iff.mp h
  rw [slots_gatesPassed] at hs
  obtain ⟨n, hn, rfl⟩ := Option.map_eq_some_iff.mp hs
  refine ⟨JobGraph.lt_of_node? hn, ?_⟩
  unfold gateSlot
  split <;> rfl

theorem mem_closedGates {i : Nat} :
    i ∈ closedGates g event ↔ i < g.size ∧ gateOpen g event i = false := by
  simp [closedGates, JobGraph.mem_indices]

/-- Once the gates are passed, exactly the instances behind closed ones are due. -/
theorem blocks_gatesPassed {i : Nat} :
    (gatesPassed g event now).Blocks i ↔ i ∈ closedGates g event := by
  rw [mem_closedGates]
  constructor
  · rintro ⟨state, hs, hb⟩
    obtain ⟨hi, rfl⟩ := state?_gatesPassed hs
    refine ⟨hi, ?_⟩
    cases ho : gateOpen g event i with
    | false => rfl
    | true => simp [ho, JobState.blocksDependents] at hb
  · rintro ⟨hi, hc⟩
    obtain ⟨n, hn⟩ := JobGraph.node?_of_lt hi
    refine ⟨.gatedSkip, ?_, rfl⟩
    simp [state?, slots_gatesPassed, hn, gateSlot, hc]

theorem accurate_gatesPassed :
    Accurate g event (closedGates g event) (gatesPassed g event now) := by
  have hnone : ∀ d, ((gatesPassed g event now).state? d != some .succeeded) = true := by
    intro d
    cases hd : (gatesPassed g event now).state? d with
    | none => rfl
    | some state =>
      obtain ⟨_, rfl⟩ := state?_gatesPassed hd
      split <;> rfl
  refine ⟨?_, fun i s hs => ?_, fun i s hs => ?_⟩
  · rw [gatesPassed, length_slots_foldl _ length_slots_passGate]
    simp [initial, JobGraph.size]
  · rw [slots_gatesPassed] at hs
    obtain ⟨n, hn, rfl⟩ := Option.map_eq_some_iff.mp hs
    have hw : (gateSlot g event now i ⟨.pending, n.dependencies.length, none⟩).waitingOn =
        n.dependencies.length := by
      unfold gateSlot
      split <;> rfl
    rw [hw, JobGraph.dependencies_of_node? hn, awaited, List.countP_eq_length.mpr]
    exact fun d _ => hnone d
  · rw [slots_gatesPassed] at hs
    obtain ⟨n, hn, rfl⟩ := Option.map_eq_some_iff.mp hs
    unfold gateSlot
    split
    · rename_i ho
      exact .blocked _ ho fun d _ hb => blocks_gatesPassed.mp hb
    · rename_i hc
      exact .gated _ now (by simpa using hc)

/-- The skips spread from one closed gate after another. -/
theorem Coherent.foldl_skipDependents {closed : List Nat} (h : Coherent g event closed p)
    (hc : ∀ d ∈ closed, p.Blocks d) :
    Coherent g event [] (closed.foldl (fun p i => p.skipDependents g now [i]) p) ∧
      Skips p (closed.foldl (fun p i => p.skipDependents g now [i]) p) := by
  induction closed generalizing p with
  | nil => exact ⟨h, .refl p⟩
  | cons i closed ih =>
    obtain ⟨hq, hpq⟩ := Coherent.skipDependents now (show Coherent g event ([i] ++ closed) p from h)
      fun d hd => hc d (List.mem_cons.mpr (.inl (List.mem_singleton.mp hd)))
    obtain ⟨hu, hqu⟩ := ih hq fun d hd => hpq.keeps.blocks (hc d (List.mem_cons_of_mem i hd))
    exact ⟨hu, hpq.trans hqu⟩

theorem coherent_afterGates : Coherent g event [] (afterGates g event now) :=
  (Coherent.foldl_skipDependents ⟨accurate_gatesPassed, logged_gatesPassed⟩
    fun _ hd => blocks_gatesPassed.mpr hd).1

/-- Nothing has started when the gates have been passed. -/
theorem not_hasStarted_afterGates {i : Nat} {state : JobState}
    (h : (afterGates g event now).state? i = some state) : state.hasStarted = false := by
  have hs : Skips (gatesPassed g event now) (afterGates g event now) :=
    (Coherent.foldl_skipDependents ⟨accurate_gatesPassed, logged_gatesPassed⟩
      fun _ hd => blocks_gatesPassed.mpr hd).2
  rcases hs.state? i with he | ⟨_, hk⟩
  · rw [he] at h
    obtain ⟨_, rfl⟩ := state?_gatesPassed h
    split <;> rfl
  · rw [h, Option.some.injEq] at hk
    rw [hk]
    rfl

theorem starts_afterGates : (afterGates g event now).starts = [] := by
  refine List.eq_nil_iff_forall_not_mem.mpr fun i hi => ?_
  obtain ⟨state, hs, hst⟩ := (coherent_afterGates.logged.started i).mp (mem_startsIn.mp hi)
  rw [not_hasStarted_afterGates hs] at hst
  cases hst

end GatedPipeline.Progress
