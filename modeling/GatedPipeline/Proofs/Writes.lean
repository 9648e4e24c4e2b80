import GatedPipeline.Proofs.Conclusion

namespace GatedPipeline

inductive Write where
  | enter (instanceNumber : Nat) (state : JobState)
  | finish (instanceNumber : Nat) (report : InstanceReport)
  | release (instanceNumber : Nat)
  | tell (m : Milestone)
deriving DecidableEq, Repr

namespace Progress

def write (p : Progress) : Write → Progress
  | .enter i state => p.enter i state
  | .finish i report => p.finish i report
  | .release i => p.release i
  | .tell m => p.tell m

def replay (p : Progress) (ws : List Write) : Progress := ws.foldl write p

variable (g : JobGraph) (event : Event) (now : Nat) (p : Progress)

@[simp] theorem replay_cons (w : Write) (ws : List Write) :
    p.replay (w :: ws) = (p.write w).replay ws := rfl

theorem replay_append (ws more : List Write) :
    p.replay (ws ++ more) = (p.replay ws).replay more := List.foldl_append

def gateWrite (i : Nat) : Write :=
  if gateOpen g event i then .enter i .blocked
  else
    .finish i
      (.notStarted (idOf g i) .gatedSkip (.skippedByCondition (conditionText g i)) now)

theorem write_gateWrite (i : Nat) :
    p.write (gateWrite g event now i) = passGate g event now p i := by
  unfold gateWrite passGate
  split <;> rfl

theorem replay_gateWrites (is : List Nat) :
    p.replay (is.map (gateWrite g event now)) = is.foldl (passGate g event now) p := by
  rw [replay, List.foldl_map]
  simp only [write_gateWrite]

def skipWrite (reason : Reason) (i : Nat) : Write :=
  .finish i (.notStarted (idOf g i) .skipped reason now)

theorem replay_skipBlocked (reason : Reason) (is : List Nat) :
    p.replay ((skipBlocked g now reason is p).2.map (skipWrite g now reason)) =
      (skipBlocked g now reason is p).1 := by
  induction is generalizing p with
  | nil => rfl
  | cons i is ih =>
    unfold skipBlocked
    split
    · exact ih (p.skip g now reason i)
    · exact ih p

def spreadWrites (origins : List Nat) (p : Progress) : List Write :=
  match origins with
  | [] => []
  | cause :: rest =>
    let r := skipBlocked g now (p.skipReason g cause) (g.dependents cause) p
    r.2.map (skipWrite g now (p.skipReason g cause)) ++ spreadWrites (r.2.reverse ++ rest) r.1
termination_by p.blockedCount + origins.length
decreasing_by
  have := blockedCount_skipBlocked g now (p.skipReason g cause) (g.dependents cause) p
  simp only [List.length_append, List.length_reverse, List.length_cons]
  omega

theorem replay_spreadWrites (origins : List Nat) :
    p.replay (spreadWrites g now origins p) = p.skipDependents g now origins := by
  induction origins, p using spreadWrites.induct g now with
  | case1 p =>
    rw [spreadWrites, skipDependents]
    rfl
  | case2 p cause rest r ih =>
    rw [spreadWrites, skipDependents, replay_append, replay_skipBlocked]
    exact ih

def closedWrites : List Nat → Progress → List Write
  | [], _ => []
  | i :: is, p => spreadWrites g now [i] p ++ closedWrites is (p.skipDependents g now [i])

theorem replay_closedWrites (is : List Nat) :
    p.replay (closedWrites g now is p) =
      is.foldl (fun p i => p.skipDependents g now [i]) p := by
  induction is generalizing p with
  | nil => rfl
  | cons i is ih =>
    rw [closedWrites, replay_append, replay_spreadWrites, ih]
    rfl

def gatesWrites : List Write :=
  g.indices.map (gateWrite g event now) ++
    closedWrites g now (closedGates g event) (gatesPassed g event now)

theorem replay_gatesWrites :
    (initial g).replay (gatesWrites g event now) = afterGates g event now := by
  rw [gatesWrites, replay_append, replay_gateWrites, ← gatesPassed, replay_closedWrites]
  rfl

def startWrites (i : Nat) : List Write := [.enter i .ready, .enter i .running, .tell (.started i)]

theorem replay_startWrites (i : Nat) : p.replay (startWrites i) = p.start i := rfl

def completeWrites (i : Nat) (report : InstanceReport) : List Write :=
  .finish i report ::
    if report.state.blocksDependents then spreadWrites g now [i] (p.finish i report)
    else (g.dependents i).map .release

theorem replay_completeWrites (i : Nat) (report : InstanceReport) :
    p.replay (completeWrites g now p i report) = p.complete g now i report := by
  rw [completeWrites, complete, replay_cons]
  split
  · exact replay_spreadWrites g now (p.finish i report) [i]
  · rw [replay, List.foldl_map]
    rfl

def closeWrites : List Write :=
  (g.indices.filter fun i => (p.slots[i]?).any (·.report.isNone)).map fun i =>
    .finish i (.notStarted (idOf g i) .failed (.executionError neverScheduled) now)

theorem replay_closeWrites : p.replay (closeWrites g now p) = p.close g now := by
  rw [closeWrites, replay, List.foldl_map]
  rfl

end Progress

namespace Scheduler

open Progress

variable {σ : Type} (c : RunContext) (store : SecretStore) (runner : StepRunner σ)
  (order : CompletionOrder) (g : JobGraph)

def launchWrites (s : Session σ) : List Write := (s.progress.ready g).flatMap startWrites

theorem replay_launchWrites (s : Session σ) :
    s.progress.replay (launchWrites g s) = (launchReady c store runner g s).progress := by
  have hready : ∀ i ∈ s.progress.ready g, i < g.size := fun i hi => (mem_ready.mp hi).1
  rw [launchWrites, launchReady]
  generalize s.progress.ready g = is at hready
  induction is generalizing s with
  | nil => rfl
  | cons i is ih =>
    obtain ⟨n, hn⟩ := JobGraph.node?_of_lt (hready i List.mem_cons_self)
    have hlaunch : (launch c store runner g s i).progress = s.progress.start i := by
      rw [launch_of_node hn]
    rw [List.flatMap_cons, replay_append, replay_startWrites, ← hlaunch]
    exact ih _ fun j hj => hready j (List.mem_cons_of_mem i hj)

/-- The writes of up to `n` completions, each followed by those of the instances that start. -/
def completionsWrites : Nat → Session σ → List Write
  | 0, _ => []
  | n + 1, s =>
    match order.next? s.flights with
    | none => []
    | some (f, rest) =>
      completeWrites g f.run.finishedAt s.progress f.instanceNumber f.run.report ++
        (launchWrites g (land g f rest s) ++
          completionsWrites n (launchReady c store runner g (land g f rest s)))

theorem replay_completionsWrites (n : Nat) (s : Session σ) :
    s.progress.replay (completionsWrites c store runner order g n s) =
      (completions c store runner order g n s).progress := by
  induction n generalizing s with
  | zero => rfl
  | succ n ih =>
    unfold completionsWrites completions
    cases order.next? s.flights with
    | none => rfl
    | some next =>
      obtain ⟨f, rest⟩ := next
      have hland : s.progress.complete g f.run.finishedAt f.instanceNumber f.run.report =
          (land g f rest s).progress := rfl
      rw [replay_append, replay_completeWrites, hland, replay_append,
        replay_launchWrites c store runner, ih]

/-- The writes of a run, in their order. -/
def runWrites (now : Nat) (start : σ) : List Write :=
  let opened := opening c g now start
  let last := lastSession c store runner order g now start
  gatesWrites g c.event now ++ (launchWrites g opened ++
    (completionsWrites c store runner order g g.size (launchReady c store runner g opened) ++
      closeWrites g last.now last.progress))

theorem replay_runWrites (now : Nat) (start : σ) :
    (initial g).replay (runWrites c store runner order g now start) =
      (run c store runner order g now start).progress := by
  have hopen : afterGates g c.event now = (opening c g now start).progress := rfl
  rw [runWrites, replay_append, replay_gatesWrites, hopen, replay_append,
    replay_launchWrites c store runner, replay_append, replay_completionsWrites]
  exact replay_closeWrites g _ _

/-- What holds of the writes of each part of a run, and of parts that follow each other, holds of
the writes of the whole run. Whatever completes is running, since flights are the running instances
of every session. -/
theorem Course.completionsWrites_induction {c : RunContext} {store : SecretStore}
    {runner : StepRunner σ} {order : CompletionOrder} {g : JobGraph} {now : Nat} {start : σ}
    {fs : List Flight} {s : Session σ} {P : Progress → List Write → Prop} (hg : g.Sound)
    (nil : ∀ p, P p [])
    (append : ∀ p ws more, P p ws → P (p.replay ws) more → P p (ws ++ more))
    (launched : ∀ s : Session σ, P s.progress (launchWrites g s))
    (completed : ∀ now p i (r : InstanceReport), p.state? i = some .running →
      (r.state = .succeeded ∨ r.state = .failed) → P p (completeWrites g now p i r))
    (h : Course c store runner g now start fs s) (idle : s.progress.ready g = []) (n : Nat) :
    P s.progress (completionsWrites c store runner order g n s) := by
  induction n generalizing fs s with
  | zero => exact nil _
  | succ n ih =>
    unfold completionsWrites
    split
    · exact nil _
    · rename_i f rest hnext
      have hmem := CompletionOrder.mem_of_next? hnext
      have hsteady := h.steady hg
      have hrunning : s.progress.state? f.instanceNumber = some .running :=
        (hsteady.running _).mpr (List.mem_map_of_mem hmem)
      have hfinal := (hsteady.own f (hsteady.underway f hmem)).2
      refine append _ _ _ (completed _ _ _ _ hrunning hfinal) ?_
      rw [replay_completeWrites]
      change P (land g f rest s).progress _
      refine append _ _ _ (launched (land g f rest s)) ?_
      rw [replay_launchWrites c store runner]
      obtain ⟨_, hc, _, hidle⟩ := h.turn idle hnext
      exact ih hc hidle

theorem runWrites_induction {P : Progress → List Write → Prop} (hg : g.Sound) (now : Nat)
    (start : σ) (nil : ∀ p, P p [])
    (append : ∀ p ws more, P p ws → P (p.replay ws) more → P p (ws ++ more))
    (gated : P (initial g) (gatesWrites g c.event now))
    (launched : ∀ s : Session σ, P s.progress (launchWrites g s))
    (completed : ∀ now p i (r : InstanceReport), p.state? i = some .running →
      (r.state = .succeeded ∨ r.state = .failed) → P p (completeWrites g now p i r)) :
    P (initial g) (runWrites c store runner order g now start) := by
  have hopen : Course c store runner g now start [] (opening c g now start) := .opening
  obtain ⟨_, hc, _, hidle⟩ := hopen.launchReady
  obtain ⟨_, _, he⟩ := course_lastSession hg c store runner order now start
  refine append _ _ _ gated ?_
  rw [replay_gatesWrites]
  change P (opening c g now start).progress _
  refine append _ _ _ (launched (opening c g now start)) ?_
  rw [replay_launchWrites c store runner]
  refine append _ _ _
    (hc.completionsWrites_induction hg nil append launched completed hidle g.size) ?_
  -- Nothing is written when the run is closed: by then no report is missing.
  rw [closeWrites, he.unreported hg]
  exact nil _

end Scheduler

end GatedPipeline
