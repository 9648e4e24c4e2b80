import GatedPipeline.Proofs.Writes

namespace GatedPipeline

inductive JobState.Moves : JobState → JobState → Prop where
  | gate : Moves .pending .gatedSkip
  | block : Moves .pending .blocked
  | skip : Moves .blocked .skipped
  | ready : Moves .blocked .ready
  | run : Moves .ready .running
  | succeed : Moves .running .succeeded
  | fail : Moves .running .failed

/-- How a write can change a slot: it counts its dependencies anew, goes on to a state that is not
its last, or ends with a report. -/
inductive Slot.Step (s : Slot) : Slot → Prop where
  | recount (waitingOn : Nat) : Step s { s with waitingOn := waitingOn }
  | enter {state : JobState} (moves : s.state.Moves state) (goesOn : state.isTerminal = false) :
      Step s { s with state := state }
  | finish (r : InstanceReport) (moves : s.state.Moves r.state)
      (final : r.state.isTerminal = true) :
      Step s { s with state := r.state, report := some r }

theorem JobState.Moves.not_isTerminal {a b : JobState} (h : a.Moves b) : a.isTerminal = false := by
  cases h <;> rfl

namespace Progress

def Steps (p q : Progress) : Prop :=
  ∀ (i : Nat) (s : Slot), p.slots[i]? = some s → ∃ t, q.slots[i]? = some t ∧ s.Step t

/-- Writes each of which is a step from where the ones before it have led. -/
inductive Stepwise : Progress → List Write → Prop where
  | nil (p : Progress) : Stepwise p []
  | cons {p : Progress} {w : Write} {ws : List Write} (first : Steps p (p.write w))
      (rest : Stepwise (p.write w) ws) : Stepwise p (w :: ws)

variable {g : JobGraph} {event : Event} {now i : Nat} {p q : Progress} {ws more : List Write}

/-- Nothing ended has anywhere to go. -/
theorem Steps.keeps (h : Steps p q) : Keeps p q := by
  intro i s hs hterm
  obtain ⟨t, ht, hstep⟩ := h i s hs
  cases hstep with
  | recount n => exact ⟨n, ht⟩
  | enter moves _ | finish _ moves _ =>
    rw [moves.not_isTerminal] at hterm
    cases hterm

/-- A change of one slot is a step of all if it is one of that slot. -/
theorem steps_of_slots {f : Slot → Slot}
    (hslots : ∀ j, q.slots[j]? = if i = j then (p.slots[j]?).map f else p.slots[j]?)
    (hstep : ∀ s, p.slots[i]? = some s → s.Step (f s)) : Steps p q := by
  intro j s hs
  rw [hslots, hs]
  split
  · rename_i he
    subst he
    exact ⟨f s, rfl, hstep s hs⟩
  · exact ⟨s, rfl, .recount s.waitingOn⟩

theorem steps_enter {a b : JobState} (hi : p.state? i = some a) (moves : a.Moves b)
    (goesOn : b.isTerminal = false) : Steps p (p.enter i b) := by
  refine steps_of_slots (fun j => slots_enter p i j b) fun s hs => ?_
  rw [state?_of_slot hs, Option.some.injEq] at hi
  subst hi
  exact .enter moves goesOn

theorem steps_finish {a : JobState} {r : InstanceReport} (hi : p.state? i = some a)
    (moves : a.Moves r.state) (final : r.state.isTerminal = true) : Steps p (p.finish i r) := by
  refine steps_of_slots (fun j => slots_finish p i j r) fun s hs => ?_
  rw [state?_of_slot hs, Option.some.injEq] at hi
  subst hi
  exact .finish r moves final

theorem steps_release (p : Progress) (i : Nat) : Steps p (p.release i) :=
  steps_of_slots (fun j => slots_release p i j) fun s _ => .recount (s.waitingOn - 1)

theorem steps_tell (p : Progress) (m : Milestone) : Steps p (p.tell m) :=
  fun _ s hs => ⟨s, hs, .recount s.waitingOn⟩

theorem Stepwise.append (h : Stepwise p ws) (hmore : Stepwise (p.replay ws) more) :
    Stepwise p (ws ++ more) := by
  induction h with
  | nil => exact hmore
  | cons first _ ih => exact .cons first (ih hmore)

theorem Stepwise.of_append (h : Stepwise p (ws ++ more)) :
    Stepwise p ws ∧ Stepwise (p.replay ws) more := by
  induction ws generalizing p with
  | nil => exact ⟨.nil p, h⟩
  | cons w ws ih =>
    cases h with
    | cons first rest =>
      obtain ⟨hws, hmore⟩ := ih rest
      exact ⟨.cons first hws, hmore⟩

theorem Stepwise.keeps (h : Stepwise p ws) : Keeps p (p.replay ws) := by
  induction h with
  | nil p => exact .refl p
  | cons first _ ih => exact first.keeps.trans ih

/-- Each gate finds its instance pending. -/
theorem stepwise_gateWrites {is : List Nat} (his : is.Nodup)
    (hp : ∀ i ∈ is, p.state? i = some .pending) :
    Stepwise p (is.map (gateWrite g event now)) := by
  induction is generalizing p with
  | nil => exact .nil p
  | cons i is ih =>
    obtain ⟨hi, his⟩ := List.nodup_cons.mp his
    have hpending := hp i List.mem_cons_self
    refine .cons ?_ (ih his fun j hj => ?_)
    · unfold gateWrite
      split
      · exact steps_enter hpending .block rfl
      · exact steps_finish hpending .gate rfl
    -- The others are still pending after this gate.
    · have hne : i ≠ j := fun he => hi (he ▸ hj)
      rw [write_gateWrite, state?, slots_passGate, if_neg hne]
      exact hp j (List.mem_cons_of_mem i hj)

/-- A skip asks first whether its instance is blocked. -/
theorem stepwise_skipBlocked (reason : Reason) (is : List Nat) (p : Progress) :
    Stepwise p ((skipBlocked g now reason is p).2.map (skipWrite g now reason)) := by
  induction is generalizing p with
  | nil => exact .nil p
  | cons i is ih =>
    unfold skipBlocked
    split
    · rename_i hb
      exact .cons (steps_finish (isBlocked_iff.mp hb) .skip rfl) (ih _)
    · exact ih p

theorem stepwise_spreadWrites (origins : List Nat) (p : Progress) :
    Stepwise p (spreadWrites g now origins p) := by
  induction origins, p using spreadWrites.induct g now with
  | case1 p =>
    rw [spreadWrites]
    exact .nil p
  | case2 p cause rest r ih =>
    rw [spreadWrites]
    refine (stepwise_skipBlocked _ _ p).append ?_
    rw [replay_skipBlocked]
    exact ih

theorem stepwise_closedWrites (is : List Nat) (p : Progress) :
    Stepwise p (closedWrites g now is p) := by
  induction is generalizing p with
  | nil => exact .nil p
  | cons i is ih =>
    refine (stepwise_spreadWrites [i] p).append ?_
    rw [replay_spreadWrites]
    exact ih _

theorem stepwise_gatesWrites (g : JobGraph) (event : Event) (now : Nat) :
    Stepwise (initial g) (gatesWrites g event now) := by
  refine (stepwise_gateWrites g.nodup_indices fun i hi => ?_).append ?_
  · obtain ⟨n, hn⟩ := JobGraph.node?_of_lt (JobGraph.mem_indices.mp hi)
    rw [state?, slots_initial, hn]
    rfl
  · rw [replay_gateWrites]
    exact stepwise_closedWrites _ _

theorem stepwise_startWrites (hi : p.state? i = some .blocked) : Stepwise p (startWrites i) := by
  have hready : (p.enter i .ready).state? i = some .ready := by
    obtain ⟨s, hs, _⟩ := state?_eq_some_iff.mp hi
    rw [state?, slots_enter, if_pos rfl, hs]
    rfl
  exact .cons (steps_enter hi .ready rfl)
    (.cons (steps_enter hready .run rfl) (.cons (steps_tell _ _) (.nil _)))

theorem stepwise_flatMap_startWrites {is : List Nat} (his : is.Nodup)
    (hp : ∀ i ∈ is, p.state? i = some .blocked) : Stepwise p (is.flatMap startWrites) := by
  induction is generalizing p with
  | nil => exact .nil p
  | cons i is ih =>
    obtain ⟨hi, his⟩ := List.nodup_cons.mp his
    rw [List.flatMap_cons]
    refine (stepwise_startWrites (hp i List.mem_cons_self)).append (ih his fun j hj => ?_)
    have hne : i ≠ j := fun he => hi (he ▸ hj)
    rw [replay_startWrites, state?_start, if_neg hne]
    exact hp j (List.mem_cons_of_mem i hj)

theorem stepwise_release (is : List Nat) (p : Progress) : Stepwise p (is.map .release) := by
  induction is generalizing p with
  | nil => exact .nil p
  | cons i is ih => exact .cons (steps_release p i) (ih _)

/-- What ends is running. -/
theorem stepwise_completeWrites {r : InstanceReport} (hi : p.state? i = some .running)
    (hr : r.state = .succeeded ∨ r.state = .failed) :
    Stepwise p (completeWrites g now p i r) := by
  have hmoves : JobState.running.Moves r.state := by
    rcases hr with hr | hr <;> rw [hr]
    · exact .succeed
    · exact .fail
  refine .cons (steps_finish hi hmoves (JobState.isTerminal_of_final hr)) ?_
  split
  · exact stepwise_spreadWrites _ _
  · exact stepwise_release _ _

end Progress

namespace Scheduler

open Progress

variable {σ : Type} {c : RunContext} {store : SecretStore} {runner : StepRunner σ}
  {order : CompletionOrder} {g : JobGraph} {now : Nat} {start : σ} {fs : List Flight}
  {s : Session σ}

theorem stepwise_launchWrites (g : JobGraph) (s : Session σ) :
    Stepwise s.progress (launchWrites g s) := by
  refine stepwise_flatMap_startWrites (g.nodup_indices.filter _) fun i hi => ?_
  obtain ⟨_, t, ht, hb, _⟩ := mem_ready.mp hi
  exact hb ▸ state?_of_slot ht

theorem stepwise_runWrites (hg : g.Sound) (c : RunContext) (store : SecretStore)
    (runner : StepRunner σ) (order : CompletionOrder) (now : Nat) (start : σ) :
    Stepwise (initial g) (runWrites c store runner order g now start) :=
  runWrites_induction c store runner order g hg now start .nil (fun _ _ _ h hmore => h.append hmore)
    (stepwise_gatesWrites g c.event now) (stepwise_launchWrites g)
    fun _ _ _ _ hi hr => stepwise_completeWrites hi hr

/-- A run is the replay of its writes. Before them every instance is pending, and each write moves
the states of the instances only from one stage of their lives to the next. From any point of the
run to any later one, an instance that has ended keeps its state and its report. -/
theorem run_moves_through_life {p : Pipeline} (h : JobGraph.build p = .ok g) (c : RunContext)
    (store : SecretStore) (runner : StepRunner σ) (order : CompletionOrder) (now : Nat)
    (start : σ) :
    (initial g).replay (runWrites c store runner order g now start) =
        (run c store runner order g now start).progress ∧
      (∀ i < g.size, ∃ n, (initial g).slots[i]? = some ⟨.pending, n, none⟩) ∧
      (∀ before w after, runWrites c store runner order g now start = before ++ w :: after →
        Steps ((initial g).replay before) ((initial g).replay (before ++ [w]))) ∧
      ∀ before between after,
        runWrites c store runner order g now start = before ++ between ++ after →
        Keeps ((initial g).replay before) ((initial g).replay (before ++ between)) := by
  have hstepwise := stepwise_runWrites (JobGraph.build_sound h) c store runner order now start
  refine ⟨replay_runWrites c store runner order g now start, fun i hi => ?_, ?_, ?_⟩
  · obtain ⟨n, hn⟩ := JobGraph.node?_of_lt hi
    exact ⟨n.dependencies.length, by rw [slots_initial, hn]; rfl⟩
  · intro before w after he
    rw [he] at hstepwise
    rw [replay_append]
    cases hstepwise.of_append.2 with
    | cons first _ => exact first
  · intro before between after he
    rw [he] at hstepwise
    rw [replay_append]
    exact hstepwise.of_append.1.of_append.2.keeps

/-- The first four writes are those of the gates; the instance that is gated by them stays so. -/
theorem run_moves_through_life_diamond :
    JobGraph.build JobGraph.diamond = .ok JobGraph.diamondGraph ∧
      ∃ t n, ((initial JobGraph.diamondGraph).replay
          ((runWrites onPush .empty (.scripted []) .byTime JobGraph.diamondGraph 0
            ()).take 4)).slots[3]? = some t ∧
        t.state = .gatedSkip ∧
        (run onPush .empty (.scripted []) .byTime JobGraph.diamondGraph 0
          ()).progress.slots[3]? = some { t with waitingOn := n } := by
  refine ⟨JobGraph.build_diamond, ?_⟩
  obtain ⟨hreplay, _, _, hkeeps⟩ := run_moves_through_life JobGraph.build_diamond onPush .empty
    (.scripted []) .byTime 0 ()
  have hgated : ((initial JobGraph.diamondGraph).replay
      ((runWrites onPush .empty (.scripted []) .byTime JobGraph.diamondGraph 0
        ()).take 4)).state? 3 = some .gatedSkip := by decide +kernel
  obtain ⟨t, ht, hstate⟩ := state?_eq_some_iff.mp hgated
  have hsplit := (List.append_nil _).trans (List.take_append_drop 4
    (runWrites onPush .empty (.scripted []) .byTime JobGraph.diamondGraph 0 ()))
  obtain ⟨n, hn⟩ := hkeeps _ _ [] hsplit.symm 3 t ht (hstate ▸ rfl)
  rw [List.take_append_drop, hreplay] at hn
  exact ⟨t, n, ht, hstate, hn⟩

end Scheduler

end GatedPipeline
