import GatedPipeline.Proofs.Downstream
import GatedPipeline.Proofs.Lifecycle
import GatedPipeline.Proofs.RunHistory
import Mathlib.Data.Finset.Card

namespace GatedPipeline

/-- Neither a success nor a release. -/
def Write.isQuiet : Write → Bool
  | .enter _ state => state != .succeeded
  | .finish _ report => report.state != .succeeded
  | .release _ => false
  | .tell _ => true

namespace Progress

def waitingOn? (p : Progress) (i : Nat) : Option Nat := (p.slots[i]?).map (·.waitingOn)

/-- The dependencies of an instance that have not succeeded. -/
def outstanding (g : JobGraph) (p : Progress) (i : Nat) : Finset Nat :=
  (g.dependencies i).toFinset.filter fun d => p.state? d ≠ some .succeeded

/-- The instances that are released before anything else is written. -/
def owed : List Write → List Nat
  | .release i :: ws => i :: owed ws
  | _ => []

/-- Writes in which only running instances succeed, and each success at once releases the
dependents of its instance, once each. The instances in the list are those that are still to be
released because of a success before these writes. -/
inductive Settling (g : JobGraph) : List Nat → Progress → List Write → Prop where
  | nil (p : Progress) : Settling g [] p []
  | quiet {p : Progress} {w : Write} {ws : List Write} (quiet : w.isQuiet = true)
      (keeps : Keeps p (p.write w)) (rest : Settling g [] (p.write w) ws) :
      Settling g [] p (w :: ws)
  | success {p : Progress} {i : Nat} {r : InstanceReport} {ws : List Write}
      (running : p.state? i = some .running) (final : r.state = .succeeded)
      (rest : Settling g (g.dependents i) (p.finish i r) ws) :
      Settling g [] p (.finish i r :: ws)
  | release {p : Progress} {i : Nat} {is : List Nat} {ws : List Write}
      (rest : Settling g is (p.release i) ws) : Settling g (i :: is) p (.release i :: ws)

/-- Each count is the number of outstanding dependencies, and of the times that the instance is
still to be released. -/
structure Counted (g : JobGraph) (is : List Nat) (p : Progress) : Prop where
  size : p.slots.length = g.size
  bounded : ∀ i ∈ is, i < g.size
  counted : ∀ i < g.size, p.waitingOn? i = some ((outstanding g p i).card + is.count i)

variable {g : JobGraph} {event : Event} {now i : Nat} {p q : Progress} {is : List Nat} {w : Write}
  {ws more : List Write} {r : InstanceReport}

theorem mem_outstanding {d : Nat} :
    d ∈ outstanding g p i ↔ d ∈ g.dependencies i ∧ p.state? d ≠ some .succeeded := by
  rw [outstanding, Finset.mem_filter, List.mem_toFinset]

theorem card_outstanding_eq_zero_iff :
    (outstanding g p i).card = 0 ↔ ∀ d ∈ g.dependencies i, p.state? d = some .succeeded := by
  rw [Finset.card_eq_zero, Finset.eq_empty_iff_forall_notMem]
  simp only [mem_outstanding, not_and, not_not]

theorem outstanding_congr
    (h : ∀ d, q.state? d = some .succeeded ↔ p.state? d = some .succeeded) :
    outstanding g q i = outstanding g p i := by
  ext d
  rw [mem_outstanding, mem_outstanding, ne_eq, ne_eq, h]

/-- A success takes its instance off the outstanding dependencies of the dependents. -/
theorem outstanding_finish (hi : p.state? i = some .running) (hr : r.state = .succeeded)
    (j : Nat) : outstanding g (p.finish i r) j = (outstanding g p j).erase i := by
  ext d
  rw [Finset.mem_erase, mem_outstanding, mem_outstanding, state?_finish]
  by_cases he : i = d
  · subst he
    simp [hi, hr]
  · simp [he, Ne.symm he]

theorem waitingOn?_change (p : Progress) (i j : Nat) (f : Slot → Slot)
    (hf : ∀ s, (f s).waitingOn = s.waitingOn) :
    (p.change i f).waitingOn? j = p.waitingOn? j := by
  rw [waitingOn?, waitingOn?, slots_change]
  split
  · rw [Option.map_map]
    exact congrArg (Option.map · _) (funext hf)
  · rfl

/-- Nothing but a release changes a count. -/
theorem waitingOn?_write (h : ∀ i, w ≠ .release i) (p : Progress) (j : Nat) :
    (p.write w).waitingOn? j = p.waitingOn? j := by
  cases w with
  | enter i state => exact waitingOn?_change p i j _ fun _ => rfl
  | finish i r => exact waitingOn?_change p i j _ fun _ => rfl
  | release i => exact absurd rfl (h i)
  | tell m => rfl

theorem waitingOn?_release (p : Progress) (i j : Nat) :
    (p.release i).waitingOn? j =
      if i = j then (p.waitingOn? j).map (· - 1) else p.waitingOn? j := by
  rw [waitingOn?, waitingOn?, slots_release]
  split
  · rw [Option.map_map, Option.map_map]
    rfl
  · rfl

theorem length_slots_write (p : Progress) (w : Write) :
    (p.write w).slots.length = p.slots.length := by
  cases w <;> simp [write]

/-- What is written quietly makes no instance succeed. -/
theorem succeeded_of_write (h : w.isQuiet = true) {d : Nat}
    (hd : (p.write w).state? d = some .succeeded) : p.state? d = some .succeeded := by
  cases w with
  | tell m => exact hd
  | release i => cases h
  | enter i state =>
    rw [write, state?_enter] at hd
    split at hd
    · obtain ⟨_, _, rfl⟩ := Option.map_eq_some_iff.mp hd
      cases h
    · exact hd
  | finish i r =>
    rw [write, state?_finish] at hd
    split at hd
    · obtain ⟨_, _, hr⟩ := Option.map_eq_some_iff.mp hd
      rw [Write.isQuiet, hr] at h
      cases h
    · exact hd

theorem counted_initial (hg : g.Sound) : Counted g [] (initial g) := by
  refine ⟨by simp [initial, JobGraph.size], by simp, fun i hi => ?_⟩
  obtain ⟨n, hn⟩ := JobGraph.node?_of_lt hi
  have hall : outstanding g (initial g) i = (g.dependencies i).toFinset := by
    refine Finset.filter_true_of_mem fun d _ => ?_
    rw [state?, slots_initial]
    cases g.node? d <;> simp
  rw [waitingOn?, slots_initial, hn, hall, List.toFinset_card_of_nodup (hg.distinct i),
    JobGraph.dependencies_of_node? hn]
  rfl

theorem Counted.quiet (h : Counted g [] p) (hw : w.isQuiet = true) (hk : Keeps p (p.write w)) :
    Counted g [] (p.write w) := by
  refine ⟨(length_slots_write p w).trans h.size, h.bounded, fun i hi => ?_⟩
  have hsame : outstanding g (p.write w) i = outstanding g p i :=
    outstanding_congr fun d => ⟨succeeded_of_write hw, hk.succeeded⟩
  rw [waitingOn?_write (by rintro j rfl; cases hw), hsame]
  exact h.counted i hi

/-- After a success the counts of the dependents are one too high each, which they are owed. -/
theorem Counted.success (h : Counted g [] p) (hi : p.state? i = some .running)
    (hr : r.state = .succeeded) : Counted g (g.dependents i) (p.finish i r) := by
  refine ⟨(length_slots_finish p i r).trans h.size, fun j hj => ?_, fun j hj => ?_⟩
  · exact JobGraph.lt_of_mem_dependencies (JobGraph.mem_dependents.mp hj)
  · have hcount : (p.finish i r).waitingOn? j = some (outstanding g p j).card :=
      (waitingOn?_write (w := .finish i r) (fun _ he => nomatch he) p j).trans (h.counted j hj)
    rw [hcount, outstanding_finish hi hr, (g.nodup_dependents i).count]
    congr 1
    by_cases hdep : i ∈ g.dependencies j
    · have hmem : i ∈ outstanding g p j := mem_outstanding.mpr ⟨hdep, by simp [hi]⟩
      rw [if_pos (JobGraph.mem_dependents.mpr hdep), Finset.card_erase_add_one hmem]
    · have hmem : i ∉ outstanding g p j := fun hm => hdep (mem_outstanding.mp hm).1
      rw [if_neg fun hm => hdep (JobGraph.mem_dependents.mp hm), Finset.erase_eq_of_notMem hmem]
      rfl

/-- A release pays what is owed to its instance, whose count is not zero. -/
theorem Counted.release (h : Counted g (i :: is) p) : Counted g is (p.release i) := by
  refine ⟨(length_slots_release p i).trans h.size,
    fun j hj => h.bounded j (List.mem_cons_of_mem i hj), fun j hj => ?_⟩
  have hsame : outstanding g (p.release i) j = outstanding g p j :=
    outstanding_congr fun d => by rw [state?_release]
  rw [waitingOn?_release, h.counted j hj, hsame, List.count_cons]
  by_cases he : i = j
  · simp [he]
  · simp [he]

theorem Settling.owed_eq (h : Settling g is p ws) : owed ws = is := by
  induction h with
  | nil => rfl
  | @quiet p w ws hw =>
    cases w with
    | release => cases hw
    | enter | finish | tell => rfl
  | success => rfl
  | release _ ih => rw [owed, ih]

theorem Settling.append (h : Settling g is p ws) (hmore : Settling g [] (p.replay ws) more) :
    Settling g is p (ws ++ more) := by
  induction h with
  | nil => exact hmore
  | quiet hw hk _ ih => exact .quiet hw hk (ih hmore)
  | success hi hr _ ih => exact .success hi hr (ih hmore)
  | release _ ih => exact .release (ih hmore)

theorem Stepwise.settling (h : Stepwise p ws) (hq : ∀ w ∈ ws, w.isQuiet = true) :
    Settling g [] p ws := by
  induction h with
  | nil p => exact .nil p
  | @cons p w ws first _ ih =>
    exact .quiet (hq w List.mem_cons_self) first.keeps
      (ih fun v hv => hq v (List.mem_cons_of_mem w hv))

/-- Exact counts stay so from write to write, for what is owed at each point. -/
theorem Settling.counted (h : Settling g is p ws) (hp : Counted g is p) {before after : List Write}
    (hw : ws = before ++ after) : Counted g (owed after) (p.replay before) := by
  induction h generalizing before with
  | nil p =>
    obtain ⟨rfl, rfl⟩ := List.append_eq_nil_iff.mp hw.symm
    exact hp
  | quiet hq hk hrest ih =>
    cases before with
    | nil =>
      subst hw
      exact (Settling.quiet hq hk hrest).owed_eq ▸ hp
    | cons v before =>
      obtain ⟨rfl, rfl⟩ := List.cons.inj hw
      exact ih (hp.quiet hq hk) rfl
  | success hi hr hrest ih =>
    cases before with
    | nil =>
      subst hw
      exact hp
    | cons v before =>
      obtain ⟨rfl, rfl⟩ := List.cons.inj hw
      exact ih (hp.success hi hr) rfl
  | release hrest ih =>
    cases before with
    | nil =>
      subst hw
      exact hrest.release.owed_eq ▸ hp
    | cons v before =>
      obtain ⟨rfl, rfl⟩ := List.cons.inj hw
      exact ih hp.release rfl

theorem isQuiet_of_mem_skips {reason : Reason} {is : List Nat}
    (hw : w ∈ is.map (skipWrite g now reason)) : w.isQuiet = true := by
  obtain ⟨i, _, rfl⟩ := List.mem_map.mp hw
  rfl

theorem isQuiet_of_mem_spreadWrites {origins : List Nat}
    (hw : w ∈ spreadWrites g now origins p) : w.isQuiet = true := by
  induction origins, p using spreadWrites.induct g now with
  | case1 p =>
    rw [spreadWrites] at hw
    cases hw
  | case2 p cause rest r ih =>
    rw [spreadWrites] at hw
    rcases List.mem_append.mp hw with hw | hw
    · exact isQuiet_of_mem_skips hw
    · exact ih hw

theorem isQuiet_of_mem_closedWrites {is : List Nat} (hw : w ∈ closedWrites g now is p) :
    w.isQuiet = true := by
  induction is generalizing p with
  | nil => cases hw
  | cons i is ih =>
    rcases List.mem_append.mp hw with hw | hw
    · exact isQuiet_of_mem_spreadWrites hw
    · exact ih hw

theorem settling_gatesWrites (g : JobGraph) (event : Event) (now : Nat) :
    Settling g [] (initial g) (gatesWrites g event now) := by
  refine (stepwise_gatesWrites g event now).settling fun w hw => ?_
  rcases List.mem_append.mp hw with hw | hw
  · obtain ⟨i, _, rfl⟩ := List.mem_map.mp hw
    unfold gateWrite
    split <;> rfl
  · exact isQuiet_of_mem_closedWrites hw

theorem settling_releases (g : JobGraph) (is : List Nat) (p : Progress) :
    Settling g is p (is.map .release) := by
  induction is generalizing p with
  | nil => exact .nil p
  | cons i is ih => exact .release (ih _)

/-- The end of a running instance either releases all that wait for it or skips them. -/
theorem settling_completeWrites (hi : p.state? i = some .running)
    (hr : r.state = .succeeded ∨ r.state = .failed) :
    Settling g [] p (completeWrites g now p i r) := by
  rcases hr with hr | hr
  · rw [completeWrites, hr]
    exact .success hi hr (settling_releases g (g.dependents i) _)
  · refine (stepwise_completeWrites hi (.inr hr)).settling fun w hw => ?_
    rw [completeWrites, hr] at hw
    rcases List.mem_cons.mp hw with rfl | hw
    · rw [Write.isQuiet, hr]
      rfl
    · exact isQuiet_of_mem_spreadWrites hw

end Progress

namespace Scheduler

open Progress

variable {σ : Type} {c : RunContext} {store : SecretStore} {runner : StepRunner σ}
  {order : CompletionOrder} {g : JobGraph} {now : Nat} {start : σ} {fs : List Flight}
  {s : Session σ}

theorem settling_launchWrites (g : JobGraph) (s : Session σ) :
    Settling g [] s.progress (launchWrites g s) := by
  refine (stepwise_launchWrites g s).settling fun w hw => ?_
  obtain ⟨i, _, hw⟩ := List.mem_flatMap.mp hw
  simp only [startWrites, List.mem_cons, List.not_mem_nil, or_false] at hw
  rcases hw with rfl | rfl | rfl <;> rfl

theorem settling_runWrites (hg : g.Sound) (c : RunContext) (store : SecretStore)
    (runner : StepRunner σ) (order : CompletionOrder) (now : Nat) (start : σ) :
    Settling g [] (initial g) (runWrites c store runner order g now start) :=
  runWrites_induction c store runner order g hg now start .nil (fun _ _ _ h hmore => h.append hmore)
    (settling_gatesWrites g c.event now) (settling_launchWrites g)
    fun _ _ _ _ hi hr => settling_completeWrites hi hr

/-- A run is the replay of its writes. At every point of it at which no success is just being passed
on to the dependents, the count of every instance is the number of its dependencies that have not
succeeded, whatever state the instance is in, and it is zero exactly if all of them have. Where an
instance is released its count is not zero, so that each release takes one off. -/
theorem counts_stay_exact {p : Pipeline} (h : JobGraph.build p = .ok g) (c : RunContext)
    (store : SecretStore) (runner : StepRunner σ) (order : CompletionOrder) (now : Nat)
    (start : σ) :
    (initial g).replay (runWrites c store runner order g now start) =
        (run c store runner order g now start).progress ∧
      (∀ before after, runWrites c store runner order g now start = before ++ after →
        (∀ j, after.head? ≠ some (.release j)) → ∀ i < g.size,
          ((initial g).replay before).waitingOn? i =
              some (outstanding g ((initial g).replay before) i).card ∧
            (((initial g).replay before).waitingOn? i = some 0 ↔
              ∀ d ∈ g.dependencies i, ((initial g).replay before).state? d = some .succeeded)) ∧
      ∀ before i after,
        runWrites c store runner order g now start = before ++ .release i :: after →
          ∃ n, ((initial g).replay before).waitingOn? i = some (n + 1) ∧
            ((initial g).replay (before ++ [.release i])).waitingOn? i = some n := by
  have hg := JobGraph.build_sound h
  have hexact {before after : List Write}
      (hw : runWrites c store runner order g now start = before ++ after) :
      Counted g (owed after) ((initial g).replay before) :=
    (settling_runWrites hg c store runner order now start).counted (counted_initial hg) hw
  refine ⟨replay_runWrites c store runner order g now start, ?_, ?_⟩
  · intro before after hw hnone i hi
    have howed : owed after = [] := by
      cases after with
      | nil => rfl
      | cons w after =>
        cases w with
        | release j => exact absurd rfl (hnone j)
        | enter | finish | tell => rfl
    have hcount := (hexact hw).counted i hi
    rw [howed, List.count_nil, Nat.add_zero] at hcount
    refine ⟨hcount, ?_⟩
    rw [hcount, Option.some.injEq, card_outstanding_eq_zero_iff]
  · intro before i after hw
    have hcounted := hexact hw
    have hi : i < g.size := hcounted.bounded i List.mem_cons_self
    have hcount := hcounted.counted i hi
    rw [owed, List.count_cons_self, ← Nat.add_assoc] at hcount
    refine ⟨_, hcount, ?_⟩
    rw [replay_append, replay_cons, write, replay, List.foldl_nil, waitingOn?_release, if_pos rfl,
      hcount]
    rfl

/-- One of the two instances that the last one needs fails, the other succeeds after it. -/
def halfReleased : List Write :=
  runWrites onTagPush .empty (.scripted (failing "lint")) .byTime JobGraph.diamondGraph 0 ()

/-- The last release is of an instance that has been skipped. Its count was two and is one then, for
the dependency that has failed. -/
theorem counts_stay_exact_skipped :
    JobGraph.build JobGraph.diamond = .ok JobGraph.diamondGraph ∧
      ((initial JobGraph.diamondGraph).replay halfReleased).state? 3 = some .skipped ∧
      ((initial JobGraph.diamondGraph).replay halfReleased).waitingOn? 3 =
        some (outstanding JobGraph.diamondGraph
          ((initial JobGraph.diamondGraph).replay halfReleased) 3).card ∧
      halfReleased = halfReleased.take 19 ++ [.release 3] ∧
      ∃ n, ((initial JobGraph.diamondGraph).replay (halfReleased.take 19)).waitingOn? 3 =
          some (n + 1) ∧
        ((initial JobGraph.diamondGraph).replay
          (halfReleased.take 19 ++ [.release 3])).waitingOn? 3 = some n := by
  obtain ⟨-, hexact, hrelease⟩ := counts_stay_exact JobGraph.build_diamond onTagPush .empty
    (.scripted (failing "lint")) .byTime 0 ()
  have hlast : halfReleased = halfReleased.take 19 ++ [.release 3] := by decide +kernel
  refine ⟨JobGraph.build_diamond, by decide +kernel, ?_, hlast, hrelease _ 3 [] hlast⟩
  exact (hexact halfReleased [] (List.append_nil _).symm (fun _ h => nomatch h) 3 (by decide)).1

end Scheduler

end GatedPipeline
