import GatedPipeline.Proofs.Downstream

namespace GatedPipeline

def Milestone.IsSkip (m : Milestone) : Prop := ∃ i r, m = .finished i r ∧ r.state = .skipped

namespace Progress

theorem milestones_skipBlocked (g : JobGraph) (now : Nat) (reason : Reason) (is : List Nat)
    (p : Progress) : ∃ skips, (skipBlocked g now reason is p).1.milestones = p.milestones ++ skips ∧
      ∀ m ∈ skips, m.IsSkip := by
  induction is generalizing p with
  | nil => exact ⟨[], (List.append_nil _).symm, by simp⟩
  | cons i is ih =>
    unfold skipBlocked
    split
    · obtain ⟨skips, hskips, hall⟩ := ih (p.skip g now reason i)
      refine ⟨.finished i (.notStarted (idOf g i) .skipped reason now) :: skips, ?_, ?_⟩
      · rw [hskips, skip, milestones_finish, List.append_assoc]
        rfl
      · intro m hm
        rcases List.mem_cons.mp hm with rfl | hm
        · exact ⟨i, _, rfl, rfl⟩
        · exact hall m hm
    · exact ih p

theorem milestones_skipDependents (g : JobGraph) (now : Nat) (origins : List Nat) (p : Progress) :
    ∃ skips, (p.skipDependents g now origins).milestones = p.milestones ++ skips ∧
      ∀ m ∈ skips, m.IsSkip := by
  induction origins, p using skipDependents.induct g now with
  | case1 p =>
    unfold skipDependents
    exact ⟨[], (List.append_nil _).symm, by simp⟩
  | case2 p cause rest r ih =>
    obtain ⟨skips, hskips, hall⟩ :=
      milestones_skipBlocked g now (p.skipReason g cause) (g.dependents cause) p
    obtain ⟨more, hmore, hall'⟩ := ih
    rw [skipDependents]
    refine ⟨skips ++ more, ?_, fun m hm => ?_⟩
    · rw [← List.append_assoc, ← hskips]
      exact hmore
    · rcases List.mem_append.mp hm with hm | hm
      · exact hall m hm
      · exact hall' m hm

/-- The end of a running instance is told first, then the skips that follow from it. -/
theorem milestones_complete (g : JobGraph) (now i : Nat) (r : InstanceReport) (p : Progress) :
    ∃ skips, (p.complete g now i r).milestones = p.milestones ++ .finished i r :: skips ∧
      ∀ m ∈ skips, m.IsSkip := by
  unfold complete
  dsimp only
  split
  · obtain ⟨skips, hskips, hall⟩ := milestones_skipDependents g now [i] (p.finish i r)
    refine ⟨skips, ?_, hall⟩
    rw [hskips, milestones_finish, List.append_assoc]
    rfl
  · exact ⟨[], by rw [milestones_foldl_release, milestones_finish], by simp⟩

theorem pairwise_ready (g : JobGraph) (p : Progress) : (p.ready g).Pairwise (· < ·) :=
  List.pairwise_lt_range.sublist List.filter_sublist

end Progress

namespace Scheduler

variable {σ : Type}

/-- The session in which a run waits after `k` completions, or after all if there are fewer. -/
def waiting (c : RunContext) (store : SecretStore) (runner : StepRunner σ)
    (order : CompletionOrder) (g : JobGraph) (now : Nat) (start : σ) (k : Nat) : Session σ :=
  completions c store runner order g k (launchReady c store runner g (opening c g now start))

/-- Nothing is left undone in a session: what is blocked waits for something that is still to
complete, what has all it needs has started, and what cannot start has ended. -/
structure Conserving (g : JobGraph) (event : Event) (s : Session σ) : Prop where
  blocked : ∀ i, s.progress.state? i = some .blocked → ∃ d ∈ g.dependencies i,
    s.progress.state? d = some .blocked ∨ s.progress.state? d = some .running
  released : ∀ i n, g.node? i = some n → Condition.gateOpen n.condition event = true →
    (∀ d ∈ n.dependencies, s.progress.state? d = some .succeeded) →
      .started i ∈ s.progress.milestones
  doomed : ∀ i, ∀ d ∈ g.dependencies i, s.progress.Blocks d → Spared s i

/-- What happens from one wait to the next: a running instance completes, the skips that follow
from it are told, and then the instances that it has made ready start, in their order. Once nothing
is running, nothing happens any more. -/
inductive Round (s t : Session σ) : Prop where
  | over (landed : s.flights = []) (same : t = s) : Round s t
  | completion {f : Flight} {skips : List Milestone} {started : List Nat} (flies : f ∈ s.flights)
      (told : t.progress.milestones = s.progress.milestones ++
        .finished f.instanceNumber f.run.report :: (skips ++ started.map .started))
      (skipped : ∀ m ∈ skips, m.IsSkip) (inOrder : started.Pairwise (· < ·)) : Round s t

variable {c : RunContext} {store : SecretStore} {runner : StepRunner σ} {order : CompletionOrder}
  {g : JobGraph} {now : Nat} {start : σ} {fs : List Flight} {s : Session σ} {i : Nat}
  {event : Event}

/-- If every dependency of a blocked instance had ended, the instance would be ready or skipped. -/
theorem Steady.exists_unfinished (hg : g.Sound) (h : Steady g event fs s)
    (idle : s.progress.ready g = []) (hi : s.progress.state? i = some .blocked) :
    ∃ d ∈ g.dependencies i,
      s.progress.state? d = some .blocked ∨ s.progress.state? d = some .running := by
  have ha := h.coherent.accurate
  obtain ⟨t, ht, hb⟩ := Progress.state?_eq_some_iff.mp hi
  by_contra hnone
  have hready := ha.mem_ready_of_blocked ht hb fun d hd => by
    have hlt : d < s.progress.slots.length := ha.size.symm ▸ hg.bounded i d hd
    obtain ⟨u, hu⟩ : ∃ u, s.progress.slots[d]? = some u := ⟨_, List.getElem?_eq_getElem hlt⟩
    refine ⟨u, hu, ?_⟩
    rcases (ha.standing d u hu).waits_or_terminal with hblocked | hrunning | hterm
    · exact absurd ⟨d, hd, .inl (hblocked ▸ Progress.state?_of_slot hu)⟩ hnone
    · exact absurd ⟨d, hd, .inr (hrunning ▸ Progress.state?_of_slot hu)⟩ hnone
    · exact hterm
  rw [idle] at hready
  cases hready

theorem Steady.conserving (hg : g.Sound) (h : Steady g event fs s)
    (idle : s.progress.ready g = []) : Conserving g event s where
  blocked _ hi := h.exists_unfinished hg idle hi
  doomed _ _ hdep hd := h.spared_of_dependency hdep hd
  released i n hn hopen hdeps := by
    have ha := h.coherent.accurate
    rw [← JobGraph.dependencies_of_node? hn] at hdeps
    have hlt : i < s.progress.slots.length := ha.size.symm ▸ JobGraph.lt_of_node? hn
    obtain ⟨t, ht⟩ : ∃ t, s.progress.slots[i]? = some t := ⟨_, List.getElem?_eq_getElem hlt⟩
    have hstate := Progress.state?_of_slot ht
    refine (h.coherent.logged.started i).mpr ⟨t.state, hstate, ?_⟩
    cases ha.standing i t ht with
    | gated _ _ hclosed =>
      rw [gateOpen_of_node hn, hopen] at hclosed
      cases hclosed
    | blocked =>
      obtain ⟨d, hd, hwaits⟩ := h.exists_unfinished hg idle hstate
      rw [hdeps d hd] at hwaits
      rcases hwaits with he | he <;> cases he
    | skipped _ cause _ _ hdep hblocks =>
      obtain ⟨state, hs, hb⟩ := hblocks
      rw [hdeps cause hdep, Option.some.injEq] at hs
      subst hs
      cases hb
    | running => rfl
    | ended _ _ _ _ _ hfinal => exact JobState.hasStarted_of_final hfinal

theorem milestones_foldl_launch {is : List Nat} (h : ∀ i ∈ is, i < g.size) (s : Session σ) :
    (is.foldl (launch c store runner g) s).progress.milestones =
      s.progress.milestones ++ is.map .started := by
  induction is generalizing s with
  | nil => exact (List.append_nil _).symm
  | cons i is ih =>
    obtain ⟨n, hn⟩ := JobGraph.node?_of_lt (h i List.mem_cons_self)
    rw [List.foldl_cons, ih (fun j hj => h j (List.mem_cons_of_mem i hj)), launch_of_node hn,
      Progress.milestones_start, List.append_assoc]
    rfl

theorem milestones_launchReady (s : Session σ) :
    (launchReady c store runner g s).progress.milestones =
      s.progress.milestones ++ (s.progress.ready g).map .started :=
  milestones_foldl_launch (fun _ hi => (Progress.mem_ready.mp hi).1) s

/-- One completion more is one completion after the others. -/
theorem completions_succ (n : Nat) (s : Session σ) :
    completions c store runner order g (n + 1) s =
      match order.next? (completions c store runner order g n s).flights with
      | none => completions c store runner order g n s
      | some (f, rest) =>
        launchReady c store runner g (land g f rest (completions c store runner order g n s)) := by
  induction n generalizing s with
  | zero => rfl
  | succ n ih =>
    cases hnext : order.next? s.flights with
    | none =>
      have hstop : ∀ m, completions c store runner order g (m + 1) s = s := by
        intro m
        simp only [completions, hnext]
      simp only [hstop, hnext]
    | some next =>
      obtain ⟨f, rest⟩ := next
      have hstep : ∀ m, completions c store runner order g (m + 1) s =
          completions c store runner order g m
            (launchReady c store runner g (land g f rest s)) := by
        intro m
        simp only [completions, hnext]
      rw [hstep, hstep]
      exact ih _

theorem course_waiting (c : RunContext) (store : SecretStore) (runner : StepRunner σ)
    (order : CompletionOrder) (g : JobGraph) (now : Nat) (start : σ) (k : Nat) :
    ∃ fs, Course c store runner g now start fs (waiting c store runner order g now start k) ∧
      (waiting c store runner order g now start k).progress.ready g = [] := by
  induction k with
  | zero =>
    have hopen : Course c store runner g now start [] (opening c g now start) := .opening
    obtain ⟨more, hc, _, hidle⟩ := hopen.launchReady
    exact ⟨_, hc, hidle⟩
  | succ k ih =>
    obtain ⟨fs, hc, hidle⟩ := ih
    rw [waiting, completions_succ, ← waiting]
    split
    · exact ⟨fs, hc, hidle⟩
    · rename_i hnext
      obtain ⟨more, hc', _, hidle'⟩ := hc.turn hidle hnext
      exact ⟨_, hc', hidle'⟩

theorem round_waiting (c : RunContext) (store : SecretStore) (runner : StepRunner σ)
    (order : CompletionOrder) (g : JobGraph) (now : Nat) (start : σ) (k : Nat) :
    Round (waiting c store runner order g now start k)
      (waiting c store runner order g now start (k + 1)) := by
  generalize hs : waiting c store runner order g now start k = s
  rw [waiting, completions_succ, ← waiting, hs]
  split
  · rename_i hnext
    exact .over (CompletionOrder.next?_eq_none.mp hnext) rfl
  · rename_i f rest hnext
    have hmem := CompletionOrder.mem_of_next? hnext
    obtain ⟨skips, hskips, hall⟩ := Progress.milestones_complete g f.run.finishedAt
      f.instanceNumber f.run.report s.progress
    have hinOrder := Progress.pairwise_ready g (land g f rest s).progress
    refine .completion hmem ?_ hall hinOrder
    rw [milestones_launchReady, land]
    dsimp only
    rw [hskips, List.append_assoc]
    rfl

/-- Whenever a run waits, each blocked instance has a dependency that is blocked or running, each
instance whose gate is open and whose dependencies have succeeded has started, and each instance
with a dependency that ended without success has ended. What starts before the first completion or
between two completions starts in the order of the instances. -/
theorem run_conserves_work {p : Pipeline} (h : JobGraph.build p = .ok g) (c : RunContext)
    (store : SecretStore) (runner : StepRunner σ) (order : CompletionOrder) (now : Nat)
    (start : σ) :
    (∀ k, Conserving g c.event (waiting c store runner order g now start k)) ∧
      (∃ (gates : List Milestone) (started : List Nat),
        (waiting c store runner order g now start 0).progress.milestones =
          gates ++ started.map .started ∧ (∀ i, .started i ∉ gates) ∧
        started.Pairwise (· < ·)) ∧
      (∀ k, Round (waiting c store runner order g now start k)
        (waiting c store runner order g now start (k + 1))) ∧
      run c store runner order g now start = waiting c store runner order g now start g.size := by
  have hg := JobGraph.build_sound h
  refine ⟨fun k => ?_, ⟨_, _, milestones_launchReady _, fun i hi => ?_,
    Progress.pairwise_ready g _⟩, round_waiting c store runner order g now start, run_eq hg ..⟩
  · obtain ⟨fs, hc, hidle⟩ := course_waiting c store runner order g now start k
    exact (hc.steady hg).conserving hg hidle
  · have hstart := Progress.mem_startsIn.mpr hi
    change i ∈ (Progress.afterGates g c.event now).starts at hstart
    rw [Progress.starts_afterGates] at hstart
    cases hstart

/-- When the first job of the diamond has completed, both jobs that wait for it have started. -/
theorem run_conserves_work_diamond :
    JobGraph.build JobGraph.diamond = .ok JobGraph.diamondGraph ∧
      .started 1 ∈ (waiting onPush .empty (.scripted []) .byTime JobGraph.diamondGraph 0 ()
        1).progress.milestones ∧
      .started 2 ∈ (waiting onPush .empty (.scripted []) .byTime JobGraph.diamondGraph 0 ()
        1).progress.milestones := by
  have hwork := (run_conserves_work JobGraph.build_diamond onPush .empty (.scripted []) .byTime 0
    ()).1 1
  refine ⟨JobGraph.build_diamond, hwork.released 1 _ rfl rfl ?_, hwork.released 2 _ rfl rfl ?_⟩ <;>
    decide +kernel

end Scheduler

end GatedPipeline
