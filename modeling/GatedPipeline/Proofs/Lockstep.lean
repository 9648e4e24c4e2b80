import GatedPipeline.Proofs.RunHistory
import GatedPipeline.Proofs.SecretFlow

namespace GatedPipeline

/-- Lists that are related in order stay so when they are sorted by keys that agree. -/
theorem forall₂_mergeSort {α β : Type} {R : α → β → Prop} {le : α → α → Bool} {le' : β → β → Bool}
    (hle : ∀ a b, R a b → ∀ a' b', R a' b' → le a a' = le' b b') {l : List α} {l' : List β}
    (h : List.Forall₂ R l l') : List.Forall₂ R (l.mergeSort le) (l'.mergeSort le') := by
  obtain ⟨hlength, hzip⟩ := List.forall₂_iff_zip.mp h
  let both : α × β → α × β → Bool := fun x y => le x.1 y.1
  have hfst : ((l.zip l').mergeSort both).map Prod.fst = l.mergeSort le := by
    rw [List.map_mergeSort (s := le) fun _ _ _ _ => rfl, List.map_fst_zip hlength.le]
  have hsnd : ((l.zip l').mergeSort both).map Prod.snd = l'.mergeSort le' := by
    rw [List.map_mergeSort (s := le') fun x hx y hy => hle _ _ (hzip hx) _ _ (hzip hy),
      List.map_snd_zip hlength.ge]
  rw [← hfst, ← hsnd, List.forall₂_map_left_iff, List.forall₂_map_right_iff, List.forall₂_same]
  intro x hx
  exact hzip (List.mem_mergeSort.mp hx)

/-- What the jobs of a graph declare is answered alike by two stores, whatever the values. -/
structure SecretStore.SameKinds (g : JobGraph) (store store' : SecretStore) : Prop where
  plain : store.PlainFor g
  plain' : store'.PlainFor g
  answers : ∀ i n, g.node? i = some n → ∀ r ∈ n.job.secrets,
    AlikeBy (fun _ _ => True) (store.lookup r) (store'.lookup r)

/-- Two executions of one instance, with other secrets. -/
structure Flight.EqualApart (start start' : Nat) (f f' : Flight) : Prop where
  number : f.instanceNumber = f'.instanceNumber
  report : f.run.report.redacted = f'.run.report.redacted
  finishedAt : f.run.finishedAt + start' = f'.run.finishedAt + start

theorem Flight.map_number {start start' : Nat} {fs fs' : List Flight}
    (h : List.Forall₂ (Flight.EqualApart start start') fs fs') :
    fs.map instanceNumber = fs'.map instanceNumber := by
  induction h with
  | nil => rfl
  | cons hf _ ih => rw [List.map_cons, List.map_cons, hf.number, ih]

/-- The same instance is taken out of two lists of running instances. -/
theorem Flight.forall₂_remove {start start' : Nat} {f f' : Flight} {earlier later : List Flight}
    {earlier' later' : List Flight} (hnumber : f.instanceNumber = f'.instanceNumber)
    (hnodup : ((earlier ++ f :: later).map instanceNumber).Nodup)
    (h : List.Forall₂ (Flight.EqualApart start start') (earlier ++ f :: later)
      (earlier' ++ f' :: later')) :
    f.EqualApart start start' f' ∧
      List.Forall₂ (Flight.EqualApart start start') (earlier ++ later) (earlier' ++ later') := by
  induction earlier generalizing earlier' with
  | nil =>
    cases earlier' with
    | nil =>
      cases h with
      | cons hf hrest => exact ⟨hf, hrest⟩
    | cons x earlier' =>
      cases h with
      | cons _ hrest =>
        have hmem : f.instanceNumber ∈ later.map instanceNumber := by
          rw [hnumber, map_number hrest]
          simp
        exact absurd hmem (List.nodup_cons.mp hnodup).1
  | cons x earlier ih =>
    rw [List.cons_append, List.map_cons, List.nodup_cons] at hnodup
    cases earlier' with
    | nil =>
      cases h with
      | cons hx _ =>
        have hmem : x.instanceNumber ∈ (earlier ++ f :: later).map instanceNumber := by
          rw [hx.number, ← hnumber]
          simp
        exact absurd hmem hnodup.1
    | cons x' earlier' =>
      cases h with
      | cons hx hrest =>
        obtain ⟨hf, hothers⟩ := ih hnodup.2 hrest
        exact ⟨hf, .cons hx hothers⟩

namespace Scheduler

variable {σ τ : Type}

def landings (c : RunContext) (store : SecretStore) (runner : StepRunner σ)
    (order : CompletionOrder) (g : JobGraph) : Nat → Session σ → List Nat
  | 0, _ => []
  | n + 1, s =>
    match order.next? s.flights with
    | none => []
    | some (f, rest) =>
      f.instanceNumber ::
        landings c store runner order g n (launchReady c store runner g (land g f rest s))

def completed (c : RunContext) (store : SecretStore) (runner : StepRunner σ)
    (order : CompletionOrder) (g : JobGraph) (now : Nat) (start : σ) : List Nat :=
  landings c store runner order g g.size (launchReady c store runner g (opening c g now start))

/-- Sessions of two runs that have gone the same way with different secrets. -/
structure Lockstep (c : RunContext) (g : JobGraph) (store store' : SecretStore) (now now' : Nat)
    (s : Session σ) (s' : Session τ) : Prop where
  progress : s.progress.redacted = s'.progress.redacted
  flights : List.Forall₂ (Flight.EqualApart now now') s.flights s'.flights
  calls : List.Forall₂ (fun a b => ∃ i n, g.node? i = some n ∧ Call.Alike c n now now' a b) s.calls
    s'.calls
  clock : s.now + now' = s'.now + now
  truthful : store.Truthful s.cache
  truthful' : store'.Truthful s'.cache

variable {c : RunContext} {g : JobGraph} {store store' : SecretStore} {runner : StepRunner σ}
  {runner' : StepRunner τ} {order order' : CompletionOrder} {now now' : Nat} {start : σ}
  {start' : τ} {s : Session σ} {s' : Session τ} {act : StepContext → StepRun} {fs : List Flight}

theorem lockstep_opening :
    Lockstep c g store store' now now' (opening c g now start) (opening c g now' start') := by
  refine ⟨?_, .nil, .nil, Nat.add_comm .., SecretStore.truthful_nil store,
    SecretStore.truthful_nil store'⟩
  simp only [opening, Progress.redacted_afterGates]

theorem Lockstep.land (h : Lockstep c g store store' now now' s s') {f f' : Flight}
    (hf : f.EqualApart now now' f') {rest rest' : List Flight}
    (hrest : List.Forall₂ (Flight.EqualApart now now') rest rest') :
    Lockstep c g store store' now now' (land g f rest s) (land g f' rest' s') := by
  refine ⟨?_, hrest, h.calls, hf.finishedAt, h.truthful, h.truthful'⟩
  simp only [Scheduler.land, Progress.redacted_complete, h.progress, hf.number, hf.report]

theorem Lockstep.ready (h : Lockstep c g store store' now now' s s') :
    s.progress.ready g = s'.progress.ready g := by
  rw [← Progress.ready_redacted, h.progress, Progress.ready_redacted]

section Kinds

variable (hk : store.SameKinds g store') (hr : runner.IgnoresEnv act) (hr' : runner'.IgnoresEnv act)

include hk hr hr'

theorem Lockstep.launch (h : Lockstep c g store store' now now' s s') (i : Nat) :
    Lockstep c g store store' now now' (launch c store runner g s i)
      (launch c store' runner' g s' i) := by
  cases hn : g.node? i with
  | none => simpa only [Scheduler.launch, hn] using h
  | some n =>
    have hplain := hk.plain.node hn
    have hplain' := hk.plain'.node hn
    have hres := ScopedSecrets.resolve_alike h.truthful h.truthful' hplain hplain'
      (R := fun name v w => name ∈ n.job.secrets.map (·.name) ∨ v = w) fun r hr =>
        (hk.answers i n hn r hr).imp fun _ _ _ => .inl (List.mem_map_of_mem hr)
    have hrun := Execution.run_equalApart (c := c) hr hr' hres h.clock s.runnerState s'.runnerState
    rw [launch_of_node hn, launch_of_node hn]
    refine ⟨?_, ?_, ?_, h.clock, ?_, ?_⟩
    · simp only [Progress.redacted_start, h.progress]
    · exact List.rel_append h.flights (.cons ⟨rfl, hrun.report, hrun.finishedAt⟩ .nil)
    · exact List.rel_append h.calls (hrun.calls.imp fun _ _ hcall => ⟨i, n, hn, hcall⟩)
    · exact Execution.truthful_run h.truthful hplain
    · exact Execution.truthful_run h.truthful' hplain'

theorem Lockstep.launchReady (h : Lockstep c g store store' now now' s s') :
    Lockstep c g store store' now now' (launchReady c store runner g s)
      (launchReady c store' runner' g s') := by
  unfold Scheduler.launchReady
  rw [← h.ready]
  generalize s.progress.ready g = is
  induction is generalizing s s' with
  | nil => exact h
  | cons i is ih => exact ih (h.launch hk hr hr' i)

/-- As long as the same instances complete, the runs stay in step. -/
theorem Lockstep.completions (hg : g.Sound) (h : Lockstep c g store store' now now' s s')
    (hc : Course c store runner g now start fs s) (idle : s.progress.ready g = []) {n : Nat}
    (hlanded : landings c store runner order g n s = landings c store' runner' order' g n s') :
    Lockstep c g store store' now now' (completions c store runner order g n s)
      (completions c store' runner' order' g n s') := by
  induction n generalizing fs s s' with
  | zero => exact h
  | succ n ih =>
    unfold Scheduler.completions
    unfold landings at hlanded
    cases hx : order.next? s.flights with
    | none =>
      have hnone : s'.flights = [] := by
        have hflights := h.flights
        rw [CompletionOrder.next?_eq_none.mp hx] at hflights
        exact List.forall₂_nil_left_iff.mp hflights
      rw [CompletionOrder.next?_eq_none.mpr hnone]
      exact h
    | some x =>
      obtain ⟨f, rest⟩ := x
      rw [hx] at hlanded
      cases hy : order'.next? s'.flights with
      | none =>
        rw [hy] at hlanded
        cases hlanded
      | some y =>
        obtain ⟨f', rest'⟩ := y
        rw [hy] at hlanded
        obtain ⟨hnumber, hlater⟩ := List.cons.inj hlanded
        obtain ⟨earlier, later, hf, rfl⟩ := CompletionOrder.next?_eq_some hx
        obtain ⟨earlier', later', hf', rfl⟩ := CompletionOrder.next?_eq_some hy
        -- Running instances are distinct, so the same number is the same place in both lists.
        obtain ⟨hland, hothers⟩ := Flight.forall₂_remove hnumber (hf ▸ (hc.steady hg).distinct)
          (hf ▸ hf' ▸ h.flights)
        obtain ⟨more, hnext, _, hidle⟩ := (hc.landed idle hf).launchReady
        exact ih ((h.land hland hothers).launchReady hk hr hr') hnext hidle hlater

end Kinds

end Scheduler

end GatedPipeline
