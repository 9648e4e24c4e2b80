import GatedPipeline.Proofs.Standing

namespace GatedPipeline

def Milestone.started? : Milestone → Option Nat
  | .started i => some i
  | .finished .. => none

/-- What is told of which instance: its start on the left, its end on the right. -/
def Milestone.kind : Milestone → Nat ⊕ Nat
  | .started i => .inl i
  | .finished i _ => .inr i

namespace Progress

def startsIn (ms : List Milestone) : List Nat := ms.filterMap Milestone.started?

def starts (p : Progress) : List Nat := startsIn p.milestones

/-- Milestones in an order in which a run can reach them. -/
inductive Orderly (g : JobGraph) (event : Event) : List Milestone → Prop where
  | nil : Orderly g event []
  | started {ms : List Milestone} {i : Nat} (before : Orderly g event ms)
      (isOpen : gateOpen g event i = true)
      (released : ∀ d ∈ g.dependencies i, ∃ r, .finished d r ∈ ms ∧ r.state = .succeeded)
      (first : .started i ∉ ms) (unfinished : ∀ r, .finished i r ∉ ms) :
      Orderly g event (ms ++ [.started i])
  | finished {ms : List Milestone} {i : Nat} {r : InstanceReport} (before : Orderly g event ms)
      (first : ∀ r', .finished i r' ∉ ms) (ran : .started i ∈ ms ↔ r.state.hasStarted = true) :
      Orderly g event (ms ++ [.finished i r])

structure Logged (g : JobGraph) (event : Event) (p : Progress) : Prop where
  orderly : Orderly g event p.milestones
  started : ∀ i, .started i ∈ p.milestones ↔
    ∃ state, p.state? i = some state ∧ state.hasStarted = true
  finished : ∀ i r, .finished i r ∈ p.milestones ↔ ∃ s, p.slots[i]? = some s ∧ s.report = some r

variable {g : JobGraph} {event : Event} {due : List Nat} {p : Progress} {i : Nat} {s : Slot}

/-- A milestone of a list with one more at its end is that one or stands in the list before it. -/
theorem eq_or_mem_of_append_singleton {ms before after : List Milestone} {m last : Milestone}
    (h : ms ++ [last] = before ++ m :: after) :
    (before = ms ∧ m = last) ∨ ∃ rest, ms = before ++ m :: rest := by
  rcases List.append_eq_append_iff.mp h with ⟨extra, hb, he⟩ | ⟨extra, hm, he⟩
  · cases extra with
    | nil =>
      obtain ⟨hl, _⟩ := List.cons.inj he
      exact .inl ⟨by simpa using hb, hl.symm⟩
    | cons x xs => simp at he
  · cases extra with
    | nil =>
      obtain ⟨hl, _⟩ := List.cons.inj he
      exact .inl ⟨by simpa using hm.symm, hl⟩
    | cons x xs =>
      obtain ⟨hx, _⟩ := List.cons.inj he
      exact .inr ⟨xs, hx ▸ hm⟩

/-- When an instance starts, its gate is open, each dependency has finished with success, and it
has not started before. -/
theorem Orderly.before_start {ms before after : List Milestone} (h : Orderly g event ms)
    (he : ms = before ++ .started i :: after) :
    gateOpen g event i = true ∧
      (∀ d ∈ g.dependencies i, ∃ r, .finished d r ∈ before ∧ r.state = .succeeded) ∧
      .started i ∉ before := by
  induction h generalizing after with
  | nil => simp at he
  | started _ ho hr hf _ ih =>
    rcases eq_or_mem_of_append_singleton he with ⟨rfl, hi⟩ | ⟨rest, he⟩
    · cases hi
      exact ⟨ho, hr, hf⟩
    · exact ih he
  | finished _ _ _ ih =>
    rcases eq_or_mem_of_append_singleton he with ⟨_, hi⟩ | ⟨rest, he⟩
    · cases hi
    · exact ih he

theorem mem_startsIn {ms : List Milestone} : i ∈ startsIn ms ↔ .started i ∈ ms := by
  rw [startsIn, List.mem_filterMap]
  constructor
  · rintro ⟨m, hm, he⟩
    cases m with
    | started j =>
      cases he
      exact hm
    | finished j r => cases he
  · exact fun h => ⟨_, h, rfl⟩

theorem inl_mem_kinds {ms : List Milestone} :
    .inl i ∈ ms.map Milestone.kind ↔ .started i ∈ ms := by
  constructor
  · intro h
    obtain ⟨m, hm, he⟩ := List.mem_map.mp h
    cases m with
    | started j =>
      cases he
      exact hm
    | finished j r => cases he
  · exact fun h => List.mem_map_of_mem (f := Milestone.kind) h

theorem inr_mem_kinds {ms : List Milestone} :
    .inr i ∈ ms.map Milestone.kind ↔ ∃ r, .finished i r ∈ ms := by
  constructor
  · intro h
    obtain ⟨m, hm, he⟩ := List.mem_map.mp h
    cases m with
    | started j => cases he
    | finished j r =>
      cases he
      exact ⟨r, hm⟩
  · rintro ⟨r, h⟩
    exact List.mem_map_of_mem (f := Milestone.kind) h

/-- Nothing is told twice. -/
theorem Orderly.nodup_kinds {ms : List Milestone} (h : Orderly g event ms) :
    (ms.map Milestone.kind).Nodup := by
  induction h with
  | nil => exact List.nodup_nil
  | started _ _ _ hf _ ih =>
    rw [List.map_append]
    refine ih.append (List.nodup_singleton _) fun k hk hm => ?_
    cases List.mem_singleton.mp hm
    exact hf (inl_mem_kinds.mp hk)
  | finished _ hf _ ih =>
    rw [List.map_append]
    refine ih.append (List.nodup_singleton _) fun k hk hm => ?_
    cases List.mem_singleton.mp hm
    obtain ⟨r, hr⟩ := inr_mem_kinds.mp hk
    exact hf r hr

theorem Orderly.nodup_startsIn {ms : List Milestone} (h : Orderly g event ms) :
    (startsIn ms).Nodup := by
  have he : startsIn ms = (ms.map Milestone.kind).filterMap Sum.getLeft? := by
    rw [startsIn, List.filterMap_map]
    refine List.filterMap_congr fun m _ => ?_
    cases m <;> rfl
  rw [he]
  refine h.nodup_kinds.filterMap fun a b j ha hb => ?_
  rw [Sum.getLeft?_eq_some_iff.mp ha, Sum.getLeft?_eq_some_iff.mp hb]

theorem starts_start (p : Progress) (i : Nat) : (p.start i).starts = p.starts ++ [i] := by
  rw [starts, startsIn, milestones_start, List.filterMap_append]
  rfl

theorem starts_finish (p : Progress) (i : Nat) (r : InstanceReport) :
    (p.finish i r).starts = p.starts := by
  rw [starts, startsIn, milestones_finish, List.filterMap_append]
  exact List.append_nil _

theorem starts_foldl_release (p : Progress) (is : List Nat) :
    (is.foldl release p).starts = p.starts := by
  rw [starts, milestones_foldl_release]
  rfl

theorem logged_initial (g : JobGraph) (event : Event) : Logged g event (initial g) := by
  refine ⟨.nil, fun i => ?_, fun i r => ?_⟩
  · constructor
    · intro h
      simp [initial] at h
    · rintro ⟨state, hs, ht⟩
      simp only [state?, initial, List.getElem?_map, Option.map_map, Option.map_eq_some_iff] at hs
      obtain ⟨n, _, rfl⟩ := hs
      cases ht
  · constructor
    · intro h
      simp [initial] at h
    · rintro ⟨t, ht, hr⟩
      simp only [initial, List.getElem?_map, Option.map_eq_some_iff] at ht
      obtain ⟨n, _, rfl⟩ := ht
      cases hr

/-- An instance that has no report yet finishes. -/
theorem Logged.finish (h : Logged g event p) (hs : p.slots[i]? = some s) (hn : s.report = none)
    {r : InstanceReport} (hr : s.state.hasStarted = r.state.hasStarted) :
    Logged g event (p.finish i r) := by
  refine ⟨.finished h.orderly ?_ ?_, fun j => ?_, fun j r' => ?_⟩
  · intro r' hm
    obtain ⟨t, ht, hr'⟩ := (h.finished i r').mp hm
    rw [hs, Option.some.injEq] at ht
    subst ht
    rw [hn] at hr'
    cases hr'
  · change .started i ∈ p.milestones ↔ _
    rw [h.started i, state?_of_slot hs, ← hr]
    simp
  · simp only [milestones_finish, List.mem_append, List.mem_singleton, reduceCtorEq, or_false,
      h.started j, state?_finish]
    split
    · rename_i he
      subst he
      simp [state?_of_slot hs, hr]
    · rfl
  · simp only [milestones_finish, List.mem_append, List.mem_singleton, Milestone.finished.injEq,
      h.finished j, slots_finish]
    split
    · rename_i he
      subst he
      simp [hs, hn, eq_comm]
    · rename_i hne
      have hne : ¬ j = i := fun he => hne he.symm
      simp [hne]

/-- A change of state in which nothing starts or ends is not told. -/
theorem Logged.enter (h : Logged g event p) (hs : p.slots[i]? = some s) {state : JobState}
    (hst : s.state.hasStarted = state.hasStarted) : Logged g event (p.enter i state) := by
  refine ⟨h.orderly, fun j => ?_, fun j r => ?_⟩
  · rw [milestones_enter, h.started j]
    simp only [state?, slots_enter]
    split
    · rename_i he
      subst he
      simp [hs, hst]
    · rfl
  · rw [milestones_enter, h.finished j, slots_enter]
    split
    · rename_i he
      subst he
      simp [hs]
    · rfl

theorem Logged.start (h : Logged g event p) (hs : p.slots[i]? = some s) (hb : s.state = .blocked)
    (hn : s.report = none) (ho : gateOpen g event i = true)
    (hr : ∀ d ∈ g.dependencies i, ∃ r, .finished d r ∈ p.milestones ∧ r.state = .succeeded) :
    Logged g event (p.start i) := by
  refine ⟨.started h.orderly ho hr ?_ ?_, fun j => ?_, fun j r => ?_⟩
  · change .started i ∉ p.milestones
    rw [h.started i, state?_of_slot hs, hb]
    simp [JobState.hasStarted]
  · intro r hm
    obtain ⟨t, ht, hr'⟩ := (h.finished i r).mp hm
    rw [hs, Option.some.injEq] at ht
    subst ht
    rw [hn] at hr'
    cases hr'
  · simp only [milestones_start, List.mem_append, List.mem_singleton, Milestone.started.injEq,
      h.started j, state?_start]
    split
    · rename_i he
      subst he
      simp [state?_of_slot hs, JobState.hasStarted]
    · rename_i hne
      have hne : ¬ j = i := fun he => hne he.symm
      simp [hne]
  · simp only [milestones_start, List.mem_append, List.mem_singleton, reduceCtorEq, or_false,
      h.finished j, slots_start]
    split
    · rename_i he
      subst he
      simp [hs]
    · rfl

theorem Logged.foldl_release (h : Logged g event p) {is : List Nat} (his : is.Nodup) :
    Logged g event (is.foldl release p) := by
  refine ⟨?_, fun j => ?_, fun j r => ?_⟩
  · rw [milestones_foldl_release]
    exact h.orderly
  · rw [milestones_foldl_release, state?_foldl_release]
    exact h.started j
  · rw [milestones_foldl_release, h.finished j, slots_foldl_release _ _ his]
    split
    · cases p.slots[j]? <;> simp
    · rfl

end Progress

end GatedPipeline
