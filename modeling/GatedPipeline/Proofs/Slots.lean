import GatedPipeline.Run.Progress

namespace GatedPipeline.Progress

variable (p : Progress) (i j : Nat)

theorem state?_eq_some_iff {p : Progress} {i : Nat} {state : JobState} :
    p.state? i = some state ↔ ∃ s, p.slots[i]? = some s ∧ s.state = state :=
  Option.map_eq_some_iff

theorem state?_of_slot {p : Progress} {i : Nat} {s : Slot} (h : p.slots[i]? = some s) :
    p.state? i = some s.state := by
  simp [state?, h]

theorem isBlocked_iff {p : Progress} {i : Nat} :
    p.isBlocked i = true ↔ p.state? i = some .blocked := by
  simp [isBlocked]

theorem slots_change (f : Slot → Slot) :
    (p.change i f).slots[j]? = if i = j then (p.slots[j]?).map f else p.slots[j]? := by
  simp only [change, List.getElem?_modify]
  split <;> simp

@[simp] theorem slots_tell (m : Milestone) : (p.tell m).slots = p.slots := rfl

theorem slots_enter (state : JobState) :
    (p.enter i state).slots[j]? =
      if i = j then (p.slots[j]?).map fun s => { s with state := state } else p.slots[j]? :=
  slots_change p i j _

theorem slots_finish (r : InstanceReport) :
    (p.finish i r).slots[j]? =
      if i = j then (p.slots[j]?).map fun s => { s with state := r.state, report := some r }
      else p.slots[j]? :=
  slots_change p i j _

theorem slots_start :
    (p.start i).slots[j]? =
      if i = j then (p.slots[j]?).map fun s => { s with state := .running } else p.slots[j]? := by
  simp only [start, slots_tell, slots_enter]
  split
  · cases p.slots[j]? <;> rfl
  · rfl

theorem slots_release :
    (p.release i).slots[j]? =
      if i = j then (p.slots[j]?).map fun s => { s with waitingOn := s.waitingOn - 1 }
      else p.slots[j]? :=
  slots_change p i j _

@[simp] theorem milestones_enter (state : JobState) : (p.enter i state).milestones = p.milestones :=
  rfl

@[simp] theorem milestones_finish (r : InstanceReport) :
    (p.finish i r).milestones = p.milestones ++ [.finished i r] := rfl

@[simp] theorem milestones_start : (p.start i).milestones = p.milestones ++ [.started i] := rfl

@[simp] theorem milestones_release : (p.release i).milestones = p.milestones := rfl

@[simp] theorem length_slots_change (f : Slot → Slot) :
    (p.change i f).slots.length = p.slots.length := by
  simp [change]

@[simp] theorem length_slots_enter (state : JobState) :
    (p.enter i state).slots.length = p.slots.length := length_slots_change p i _

@[simp] theorem length_slots_finish (r : InstanceReport) :
    (p.finish i r).slots.length = p.slots.length := length_slots_change p i _

@[simp] theorem length_slots_start : (p.start i).slots.length = p.slots.length := by
  simp [start]

@[simp] theorem length_slots_release : (p.release i).slots.length = p.slots.length :=
  length_slots_change p i _

theorem state?_enter (state : JobState) :
    (p.enter i state).state? j =
      if i = j then (p.state? j).map fun _ => state else p.state? j := by
  simp only [state?, slots_enter]
  split <;> simp [Function.comp_def]

theorem state?_finish (r : InstanceReport) :
    (p.finish i r).state? j =
      if i = j then (p.state? j).map fun _ => r.state else p.state? j := by
  simp only [state?, slots_finish]
  split <;> simp [Function.comp_def]

theorem state?_start :
    (p.start i).state? j =
      if i = j then (p.state? j).map fun _ => .running else p.state? j := by
  simp only [state?, slots_start]
  split <;> simp [Function.comp_def]

@[simp] theorem state?_release : (p.release i).state? j = p.state? j := by
  simp only [state?, slots_release]
  split <;> simp [Function.comp_def]

/-- Steps that change one slot each, taken for different numbers, change the slots of these. -/
theorem slots_foldl {step : Progress → Nat → Progress} {f : Nat → Slot → Slot}
    (hstep : ∀ p i j,
      (step p i).slots[j]? = if i = j then (p.slots[j]?).map (f i) else p.slots[j]?)
    {is : List Nat} (h : is.Nodup) :
    (is.foldl step p).slots[j]? = if j ∈ is then (p.slots[j]?).map (f j) else p.slots[j]? := by
  induction is generalizing p with
  | nil => simp
  | cons i is ih =>
    obtain ⟨hi, his⟩ := List.nodup_cons.mp h
    rw [List.foldl_cons, ih _ his, hstep]
    by_cases he : i = j
    · subst he
      simp [hi]
    · have hne : ¬ j = i := fun h => he h.symm
      simp [he, hne]

theorem slots_foldl_release {is : List Nat} (h : is.Nodup) :
    (is.foldl release p).slots[j]? =
      if j ∈ is then (p.slots[j]?).map fun s => { s with waitingOn := s.waitingOn - 1 }
      else p.slots[j]? :=
  slots_foldl p j (f := fun _ s => { s with waitingOn := s.waitingOn - 1 }) slots_release h

theorem milestones_foldl_release (is : List Nat) :
    (is.foldl release p).milestones = p.milestones := by
  induction is generalizing p with
  | nil => rfl
  | cons i is ih => rw [List.foldl_cons, ih, milestones_release]

theorem length_slots_foldl {step : Progress → Nat → Progress}
    (hstep : ∀ p i, (step p i).slots.length = p.slots.length) (is : List Nat) :
    (is.foldl step p).slots.length = p.slots.length := by
  induction is generalizing p with
  | nil => rfl
  | cons i is ih => rw [List.foldl_cons, ih, hstep]

theorem state?_foldl_release (is : List Nat) : (is.foldl release p).state? j = p.state? j := by
  induction is generalizing p with
  | nil => rfl
  | cons i is ih => rw [List.foldl_cons, ih, state?_release]

end GatedPipeline.Progress
