import GatedPipeline.Proofs.BuiltGraph
import GatedPipeline.Proofs.Slots

namespace GatedPipeline

/-- The states of an instance that has started. -/
def JobState.hasStarted : JobState → Bool
  | .running | .succeeded | .failed => true
  | _ => false

theorem JobState.isTerminal_of_final {state : JobState}
    (h : state = .succeeded ∨ state = .failed) : state.isTerminal = true := by
  rcases h with h | h <;> rw [h] <;> rfl

theorem JobState.hasStarted_of_final {state : JobState}
    (h : state = .succeeded ∨ state = .failed) : state.hasStarted = true := by
  rcases h with h | h <;> rw [h] <;> rfl

namespace Progress

/-- The instance has ended without success, which keeps its dependents from running. -/
def Blocks (p : Progress) (d : Nat) : Prop :=
  ∃ state, p.state? d = some state ∧ state.blocksDependents = true

/-- How many of the instances have not succeeded. -/
def awaited (p : Progress) (ds : List Nat) : Nat :=
  ds.countP fun d => p.state? d != some .succeeded

/-- The slot of an instance agrees with its gate and with the states of its dependencies. A blocked
instance has no dependency that ended without success, except for those that are `due`: their
dependents have still to be skipped. -/
inductive Standing (g : JobGraph) (event : Event) (due : List Nat) (p : Progress) (i : Nat) :
    Slot → Prop where
  | gated (waitingOn now : Nat) (closed : gateOpen g event i = false) :
      Standing g event due p i ⟨.gatedSkip, waitingOn, some (.notStarted (idOf g i) .gatedSkip
        (.skippedByCondition (conditionText g i)) now)⟩
  | blocked (waitingOn : Nat) (isOpen : gateOpen g event i = true)
      (waits : ∀ d ∈ g.dependencies i, p.Blocks d → d ∈ due) :
      Standing g event due p i ⟨.blocked, waitingOn, none⟩
  | skipped (waitingOn cause now : Nat) (isOpen : gateOpen g event i = true)
      (dependency : cause ∈ g.dependencies i) (blocks : p.Blocks cause) :
      Standing g event due p i ⟨.skipped, waitingOn, some (.notStarted (idOf g i) .skipped
        (p.skipReason g cause) now)⟩
  | running (waitingOn : Nat) (isOpen : gateOpen g event i = true)
      (released : ∀ d ∈ g.dependencies i, p.state? d = some .succeeded) :
      Standing g event due p i ⟨.running, waitingOn, none⟩
  | ended (waitingOn : Nat) (r : InstanceReport) (isOpen : gateOpen g event i = true)
      (released : ∀ d ∈ g.dependencies i, p.state? d = some .succeeded) (own : r.id = idOf g i)
      (final : r.state = .succeeded ∨ r.state = .failed) :
      Standing g event due p i ⟨r.state, waitingOn, some r⟩

/-- Between steps nothing is due; while skips spread, some instances are. -/
structure Accurate (g : JobGraph) (event : Event) (due : List Nat) (p : Progress) : Prop where
  size : p.slots.length = g.size
  counted : ∀ i s, p.slots[i]? = some s → s.waitingOn = p.awaited (g.dependencies i)
  standing : ∀ i s, p.slots[i]? = some s → Standing g event due p i s

/-- An instance that has ended keeps its state and its report. -/
def Keeps (p q : Progress) : Prop :=
  ∀ (i : Nat) (s : Slot), p.slots[i]? = some s → s.state.isTerminal = true →
    ∃ n, q.slots[i]? = some { s with waitingOn := n }

variable {g : JobGraph} {event : Event} {due due' : List Nat} {p q : Progress} {i d : Nat}
  {s : Slot}

theorem isTerminal_of_blocksDependents {state : JobState} (h : state.blocksDependents = true) :
    state.isTerminal = true := by
  simp [JobState.isTerminal, h]

theorem Keeps.refl (p : Progress) : Keeps p p := fun _ s hs _ => ⟨s.waitingOn, hs⟩

theorem Keeps.trans {p q u : Progress} (hpq : Keeps p q) (hqu : Keeps q u) : Keeps p u := by
  intro i s hs ht
  obtain ⟨n, hq⟩ := hpq i s hs ht
  exact hqu i { s with waitingOn := n } hq ht

theorem Keeps.state (hk : Keeps p q) {state : JobState} (hs : p.state? i = some state)
    (ht : state.isTerminal = true) : q.state? i = some state := by
  obtain ⟨t, hslot, rfl⟩ := state?_eq_some_iff.mp hs
  obtain ⟨n, hq⟩ := hk i t hslot ht
  rw [state?_of_slot hq]

theorem Keeps.blocks (hk : Keeps p q) (h : p.Blocks d) : q.Blocks d := by
  obtain ⟨state, hs, hb⟩ := h
  exact ⟨state, hk.state hs (isTerminal_of_blocksDependents hb), hb⟩

theorem Keeps.succeeded (hk : Keeps p q) (h : p.state? d = some .succeeded) :
    q.state? d = some .succeeded := hk.state h rfl

/-- The reason that is given for a cause does not change once the cause has ended. -/
theorem Keeps.skipReason_eq (hk : Keeps p q) (h : p.Blocks d) :
    q.skipReason g d = p.skipReason g d := by
  obtain ⟨state, hs, hb⟩ := h
  have hq := hk.state hs (isTerminal_of_blocksDependents hb)
  simp only [skipReason, hs, hq]

/-- A slot stays accounted for as long as ended instances stay as they are and every instance that
has newly ended without success is due. -/
theorem Standing.mono (h : Standing g event due p i s) (hk : Keeps p q)
    (hd : ∀ d, q.Blocks d → d ∈ due' ∨ (p.Blocks d ∧ (d ∈ due → d ∈ due'))) :
    Standing g event due' q i s := by
  cases h with
  | gated w now hc => exact .gated w now hc
  | blocked w ho hw =>
    refine .blocked w ho fun d hdep hb => ?_
    rcases hd d hb with hin | ⟨hp, hin⟩
    · exact hin
    · exact hin (hw d hdep hp)
  | skipped w cause now ho hdep hb =>
    rw [← hk.skipReason_eq hb]
    exact .skipped w cause now ho hdep (hk.blocks hb)
  | running w ho hr => exact .running w ho fun d hdep => hk.succeeded (hr d hdep)
  | ended w r ho hr hown hf =>
    exact .ended w r ho (fun d hdep => hk.succeeded (hr d hdep)) hown hf

/-- What an instance stands for does not depend on its count. -/
theorem Standing.recount (h : Standing g event due p i s) (n : Nat) :
    Standing g event due p i { s with waitingOn := n } := by
  cases h with
  | gated w now hc => exact .gated n now hc
  | blocked w ho hw => exact .blocked n ho hw
  | skipped w cause now ho hdep hb => exact .skipped n cause now ho hdep hb
  | running w ho hr => exact .running n ho hr
  | ended w r ho hr hown hf => exact .ended n r ho hr hown hf

/-- An instance with a report has ended at its gate, by a skip, or after it has started. -/
theorem Standing.state_of_report (h : Standing g event due p i s) (hs : s.report ≠ none) :
    s.state = .gatedSkip ∨ s.state = .skipped ∨ s.state.hasStarted = true := by
  cases h with
  | gated => exact .inl rfl
  | skipped => exact .inr (.inl rfl)
  | ended w r _ _ _ hf => exact .inr (.inr (JobState.hasStarted_of_final hf))
  | blocked | running => exact absurd rfl hs

theorem Standing.report_of_gatedSkip (h : Standing g event due p i s)
    (hs : s.state = .gatedSkip) :
    gateOpen g event i = false ∧ ∃ now, s.report = some (.notStarted (idOf g i) .gatedSkip
      (.skippedByCondition (conditionText g i)) now) := by
  cases h with
  | gated w now hc => exact ⟨hc, now, rfl⟩
  | ended w r _ _ _ hf => rcases hf with hf | hf <;> rw [hf] at hs <;> cases hs
  | blocked | skipped | running => cases hs

theorem Standing.report_of_skipped (h : Standing g event due p i s) (hs : s.state = .skipped) :
    gateOpen g event i = true ∧ ∃ cause ∈ g.dependencies i, p.Blocks cause ∧
      ∃ now, s.report = some (.notStarted (idOf g i) .skipped (p.skipReason g cause) now) := by
  cases h with
  | skipped w cause now ho hdep hb => exact ⟨ho, cause, hdep, hb, now, rfl⟩
  | ended w r _ _ _ hf => rcases hf with hf | hf <;> rw [hf] at hs <;> cases hs
  | gated | blocked | running => cases hs

theorem Standing.report_of_blocked (h : Standing g event due p i s) (hs : s.state = .blocked) :
    s.report = none ∧ gateOpen g event i = true ∧ ∀ d ∈ g.dependencies i, p.Blocks d → d ∈ due := by
  cases h with
  | blocked w ho hw => exact ⟨rfl, ho, hw⟩
  | ended w r ho hr hown hf =>
    rcases hf with hf | hf <;> rw [hf] at hs <;> cases hs
  | gated | skipped | running => cases hs

theorem Standing.report_of_running (h : Standing g event due p i s) (hs : s.state = .running) :
    s.report = none ∧ gateOpen g event i = true ∧
      ∀ d ∈ g.dependencies i, p.state? d = some .succeeded := by
  cases h with
  | running w ho hr => exact ⟨rfl, ho, hr⟩
  | ended w r ho hr hown hf =>
    rcases hf with hf | hf <;> rw [hf] at hs <;> cases hs
  | gated | blocked | skipped => cases hs

theorem Standing.unfinished (h : Standing g event due p i s) (hs : s.report = none) :
    s.state = .blocked ∨ s.state = .running := by
  cases h with
  | blocked => exact .inl rfl
  | running => exact .inr rfl
  | gated | skipped | ended => cases hs

theorem Standing.waits_or_terminal (h : Standing g event due p i s) :
    s.state = .blocked ∨ s.state = .running ∨ s.state.isTerminal = true := by
  cases h with
  | blocked => exact .inl rfl
  | running => exact .inr (.inl rfl)
  | gated | skipped => exact .inr (.inr rfl)
  | ended w r _ _ _ hf => exact .inr (.inr (JobState.isTerminal_of_final hf))

theorem Accurate.lt_size (h : Accurate g event due p) (hs : p.slots[i]? = some s) :
    i < g.size := h.size ▸ (List.getElem?_eq_some_iff.mp hs).1

theorem Accurate.unfinished (h : Accurate g event due p) (hs : p.slots[i]? = some s)
    (hn : s.report = none) : s.state.isTerminal = false := by
  rcases (h.standing i s hs).unfinished hn with hb | hr
  · rw [hb]
    rfl
  · rw [hr]
    rfl

/-- The slot of one instance has been replaced and no other. -/
structure Replaces (p q : Progress) (i : Nat) (s t : Slot) : Prop where
  before : p.slots[i]? = some s
  length : q.slots.length = p.slots.length
  slots : ∀ j, q.slots[j]? = if i = j then some t else p.slots[j]?

theorem replaces_finish (hs : p.slots[i]? = some s) (r : InstanceReport) :
    Replaces p (p.finish i r) i s ⟨r.state, s.waitingOn, some r⟩ := by
  refine ⟨hs, length_slots_finish p i r, fun j => ?_⟩
  rw [slots_finish]
  split
  · rename_i he
    rw [← he, hs]
    rfl
  · rfl

theorem replaces_start (hs : p.slots[i]? = some s) :
    Replaces p (p.start i) i s ⟨.running, s.waitingOn, s.report⟩ := by
  refine ⟨hs, length_slots_start p i, fun j => ?_⟩
  rw [slots_start]
  split
  · rename_i he
    rw [← he, hs]
    rfl
  · rfl

section Replaces

variable {t : Slot} (h : Replaces p q i s t)

include h

theorem Replaces.state? (j : Nat) :
    q.state? j = if i = j then some t.state else p.state? j := by
  simp only [Progress.state?, h.slots j]
  split <;> rfl

/-- Replacing the slot of an instance that has not ended leaves all ended instances as they are. -/
theorem Replaces.keeps (hu : s.state.isTerminal = false) : Keeps p q := by
  intro j u hj hterm
  rw [h.slots]
  split
  · rename_i he
    rw [← he, h.before, Option.some.injEq] at hj
    subst hj
    rw [hu] at hterm
    cases hterm
  · exact ⟨u.waitingOn, hj⟩

theorem Replaces.blocks (hd : q.Blocks d) :
    (d = i ∧ t.state.blocksDependents = true) ∨ p.Blocks d := by
  obtain ⟨state, hs, hb⟩ := hd
  rw [h.state?] at hs
  split at hs
  · rename_i he
    cases hs
    exact .inl ⟨he.symm, hb⟩
  · exact .inr ⟨state, hs, hb⟩

/-- Counts do not change where neither slot shows success. -/
theorem Replaces.awaited_eq (hs : s.state ≠ .succeeded) (ht : t.state ≠ .succeeded)
    (ds : List Nat) : q.awaited ds = p.awaited ds := by
  refine List.countP_congr fun d _ => ?_
  rw [h.state?]
  split
  · rename_i he
    rw [← he, state?_of_slot h.before]
    simp [hs, ht]
  · rfl

/-- A success lowers by one each count that the instance is part of. -/
theorem Replaces.awaited_succ (hs : s.state ≠ .succeeded) (ht : t.state = .succeeded)
    {ds : List Nat} (hd : ds.Nodup) :
    q.awaited ds + (if i ∈ ds then 1 else 0) = p.awaited ds := by
  induction ds with
  | nil => rfl
  | cons d ds ih =>
    obtain ⟨hm, hds⟩ := List.nodup_cons.mp hd
    have ih := ih hds
    simp only [awaited] at ih
    simp only [awaited, List.countP_cons, h.state? d, List.mem_cons]
    by_cases he : i = d
    · subst he
      simp only [hm, if_false, Nat.add_zero] at ih
      simp [ih, ht, hs, state?_of_slot h.before]
    · simp only [he, if_false, false_or]
      omega

/-- Where a slot is replaced, its new one has to be accounted for, and the instance is due if it
ended without success. -/
theorem Replaces.accurate (ha : Accurate g event due p) (hu : s.state.isTerminal = false)
    (hw : t.waitingOn = s.waitingOn) (hne : t.state ≠ .succeeded)
    (hst : Standing g event due' q i t) (hdue : ∀ d ∈ due, d ∈ due')
    (hi : t.state.blocksDependents = true → i ∈ due') : Accurate g event due' q := by
  have hs : s.state ≠ .succeeded := by
    intro he
    rw [he] at hu
    cases hu
  refine ⟨h.length.trans ha.size, fun j u hj => ?_, fun j u hj => ?_⟩
  all_goals
    rw [h.slots] at hj
    split at hj
  · rename_i he
    cases hj
    rw [hw, h.awaited_eq hs hne, ← he]
    exact ha.counted i s h.before
  · rw [h.awaited_eq hs hne]
    exact ha.counted j u hj
  · rename_i he
    cases hj
    exact he ▸ hst
  · refine (ha.standing j u hj).mono (h.keeps hu) fun d hd => ?_
    rcases h.blocks hd with ⟨rfl, hb⟩ | hb
    · exact .inl (hi hb)
    · exact .inr ⟨hb, hdue d⟩

end Replaces

/-- An instance is no longer due once none of its dependents is blocked. -/
theorem Accurate.settle (h : Accurate g event due p)
    (hd : ∀ d ∈ due, d ∈ due' ∨ ∀ j ∈ g.dependents d, p.isBlocked j = false) :
    Accurate g event due' p := by
  refine ⟨h.size, h.counted, fun j t ht => ?_⟩
  cases h.standing j t ht with
  | gated w now hc => exact .gated w now hc
  | blocked w ho hw =>
    refine .blocked w ho fun d hdep hb => ?_
    rcases hd d (hw d hdep hb) with hin | hnone
    · exact hin
    · have hbl : p.isBlocked j = true := isBlocked_iff.mpr (state?_of_slot ht)
      rw [hnone j (JobGraph.mem_dependents.mpr hdep)] at hbl
      cases hbl
  | skipped w cause now ho hdep hb => exact .skipped w cause now ho hdep hb
  | running w ho hr => exact .running w ho hr
  | ended w r ho hr hown hf => exact .ended w r ho hr hown hf

end Progress

end GatedPipeline
