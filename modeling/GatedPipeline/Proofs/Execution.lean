import GatedPipeline.Run.Execution
import GatedPipeline.Run.Progress

namespace GatedPipeline.Execution

variable {σ : Type}

theorem id_reportOfSteps (n : Instance) (start : Nat) (r : StepsRun) :
    (reportOfSteps n start r).id = n.id := by
  unfold reportOfSteps
  split <;> rfl

theorem state_reportOfSteps (n : Instance) (start : Nat) (r : StepsRun) :
    (reportOfSteps n start r).state = .succeeded ∨ (reportOfSteps n start r).state = .failed := by
  unfold reportOfSteps
  split
  · exact .inl rfl
  · exact .inr rfl
  · exact .inr rfl

section Run

variable (c : RunContext) (store : SecretStore) (runner : StepRunner σ) (n : Instance) (now : Nat)
  (cache : SecretCache) (s : σ)

theorem id_run : (run c store runner n now cache s).1.report.id = n.id := by
  unfold run
  split
  · rfl
  · exact id_reportOfSteps n now _

/-- An execution ends in success or in failure. -/
theorem state_run : (run c store runner n now cache s).1.report.state = .succeeded ∨
    (run c store runner n now cache s).1.report.state = .failed := by
  unfold run
  split
  · exact .inr rfl
  · exact state_reportOfSteps n now _

/-- Of the secrets, an execution remembers what it has looked up. -/
theorem cache_run : (run c store runner n now cache s).2.1 =
    (ScopedSecrets.resolve store cache n.job.secrets).2 := by
  unfold run
  split <;> rename_i hres <;> rw [hres]

/-- The secrets are found, and the runner breaks down at one of the steps. -/
def Breaks : Prop :=
  ∃ secrets cache', ScopedSecrets.resolve store cache n.job.secrets = (.ok secrets, cache') ∧
    (runSteps c n secrets runner now s n.job.steps).1.ending = .broken

end Run

theorem state_run_of_breaks {c : RunContext} {store : SecretStore} {runner : StepRunner σ}
    {n : Instance} {now : Nat} {cache : SecretCache} {s : σ}
    (h : Breaks c store runner n now cache s) :
    (run c store runner n now cache s).1.report.state = .failed := by
  obtain ⟨secrets, cache', hres, hend⟩ := h
  simp only [run, hres, reportOfSteps, hend]
  rfl

/-- A step that fails an instance is named in the reason. -/
theorem failure?_eq_some {step : String} {secrets : ScopedSecrets} {e : StepEnd} {reason : Reason}
    (h : e.failure? step secrets = some reason) :
    ∃ code message, reason = .stepFailed step code message := by
  cases e with
  | exited code success =>
    cases success
    · exact ⟨_, _, (Option.some.inj h).symm⟩
    · cases h
  | failed e => exact ⟨_, _, (Option.some.inj h).symm⟩

theorem ending_runSteps {c : RunContext} {n : Instance} {secrets : ScopedSecrets}
    {runner : StepRunner σ} {now : Nat} {s : σ} {steps : List Step} {reason : Reason}
    (h : (runSteps c n secrets runner now s steps).1.ending = .failed reason) :
    ∃ step code message, reason = .stepFailed step code message := by
  induction steps generalizing now s with
  | nil => cases h
  | cons step rest ih =>
    unfold runSteps at h
    dsimp only at h
    split at h
    · cases h
    · split at h
      · rename_i hf _
        cases h
        exact ⟨step.name, failure?_eq_some hf⟩
      · exact ih h

theorem context_of_mem_calls_runSteps {c : RunContext} {n : Instance} {secrets : ScopedSecrets}
    {runner : StepRunner σ} {now : Nat} {s : σ} {steps : List Step} {call : Call}
    (h : call ∈ (runSteps c n secrets runner now s steps).1.calls) :
    ∃ step ∈ steps, call.context = c.stepContext n secrets step := by
  induction steps generalizing now s with
  | nil => cases h
  | cons step rest ih =>
    have hfirst : ∀ time, call = ⟨time, c.stepContext n secrets step⟩ →
        ∃ step' ∈ step :: rest, call.context = c.stepContext n secrets step' := by
      rintro time rfl
      exact ⟨step, List.mem_cons_self, rfl⟩
    unfold runSteps at h
    dsimp only at h
    split at h
    · exact hfirst _ (List.mem_singleton.mp h)
    · split at h
      · exact hfirst _ (List.mem_singleton.mp h)
      · rcases List.mem_cons.mp h with h | h
        · exact hfirst _ h
        · obtain ⟨step', hs, he⟩ := ih h
          exact ⟨step', List.mem_cons_of_mem step hs, he⟩

/-- What an execution hands to the runner are steps of its own instance. -/
theorem context_of_mem_calls {c : RunContext} {store : SecretStore} {runner : StepRunner σ}
    {n : Instance} {now : Nat} {cache : SecretCache} {s : σ} {call : Call}
    (h : call ∈ (run c store runner n now cache s).1.calls) :
    ∃ secrets, ∃ step ∈ n.job.steps, call.context = c.stepContext n secrets step := by
  unfold run at h
  split at h
  · cases h
  · exact ⟨_, context_of_mem_calls_runSteps h⟩

theorem secretFailure_ne (e : SecretError) :
    secretFailure e ≠ .executionError Progress.neverScheduled := by
  intro h
  cases e with
  | missingCredential name => cases h
  | providerNotConfigured provider =>
    have hm : "secret provider not configured: " ++ provider = _ := Reason.executionError.inj h
    rw [Progress.neverScheduled, String.ext_iff, String.toList_append] at hm
    simp at hm
  | providerFailed name cause =>
    have hm : "secret provider failed for " ++ Text.ticked name ++ ": " ++ cause.message = _ :=
      Reason.executionError.inj h
    rw [Progress.neverScheduled, String.ext_iff, String.toList_append, String.toList_append,
      String.toList_append] at hm
    simp at hm

theorem reason_reportOfSteps (n : Instance) (start : Nat) (r : StepsRun) :
    (reportOfSteps n start r).reason = .succeeded ∨
      r.ending = .failed (reportOfSteps n start r).reason ∨
      (reportOfSteps n start r).reason = .executionError brokenMessage := by
  unfold reportOfSteps
  split
  · exact .inl rfl
  · rename_i reason hr
    exact .inr (.inl hr)
  · exact .inr (.inr rfl)

/-- No execution gives the reason that stands for an instance that never ran. -/
theorem reason_run_ne (c : RunContext) (store : SecretStore) (runner : StepRunner σ) (n : Instance)
    (now : Nat) (cache : SecretCache) (s : σ) :
    (run c store runner n now cache s).1.report.reason ≠
      .executionError Progress.neverScheduled := by
  unfold run
  split
  · exact secretFailure_ne _
  · rename_i secrets cache' _
    intro h
    rcases reason_reportOfSteps n now (runSteps c n secrets runner now s n.job.steps).1 with
      hr | hr | hr
    · cases h.symm.trans hr
    · obtain ⟨step, code, message, he⟩ := ending_runSteps hr
      cases h.symm.trans he
    · have hm := Reason.executionError.inj (h.symm.trans hr)
      exact absurd hm (by decide)

end GatedPipeline.Execution
