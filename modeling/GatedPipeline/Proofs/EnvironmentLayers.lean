import GatedPipeline.Proofs.Substitution
import GatedPipeline.Run.Context
import GatedPipeline.Shell.Runner
import Mathlib.Data.List.Sort

namespace GatedPipeline

namespace Bindings

variable {α : Type u}

/-- Two maps that find the same under every name are the same list. -/
theorem Ascending.ext {m m' : Bindings α} (h : m.Ascending) (h' : m'.Ascending)
    (he : ∀ name, get? name m = get? name m') : m = m' := by
  have : Std.Irrefl fun p q : String × α => p.1 < q.1 := ⟨fun p => String.lt_irrefl p.1⟩
  have : Std.Antisymm fun p q : String × α => p.1 < q.1 :=
    ⟨fun p _ hpq hqp => absurd (String.lt_trans hpq hqp) (String.lt_irrefl p.1)⟩
  refine (List.pairwise_map.mp h).eq_of_mem_iff (List.pairwise_map.mp h') fun p => ?_
  rw [← get?_eq_some_iff_mem h.nodup, ← get?_eq_some_iff_mem h'.nodup, he]

/-- What a name is bound to by the first layer that binds it. -/
def firstBound (name : String) (layers : List (Bindings α)) : Option α :=
  layers.findSome? (get? name)

theorem firstBound_cons (name : String) (m : Bindings α) (layers : List (Bindings α)) :
    firstBound name (m :: layers) = (get? name m).or (firstBound name layers) := by
  rw [firstBound, List.findSome?_cons]
  cases get? name m <;> rfl

end Bindings

namespace Interpolation

/-- An expression that asks for a variable, whatever blanks are around it. -/
theorem value_env (x : Interpolation) {left right : List Char} {name : String}
    (hleft : left.all Text.isBlank = true) (hright : right.all Text.isBlank = true)
    (hend : ∀ c, name.toList.getLast? = some c → Text.isBlank c = false) :
    x.value (Text.trimmed (left ++ ("env.".toList ++ name.toList) ++ right)) =
      ((x.env.get? name).getD "").toList := by
  have hsolid : Text.Solid ("env.".toList ++ name.toList) := by
    refine ⟨⟨'e', "nv.".toList ++ name.toList, rfl, by decide⟩, ?_⟩
    rcases List.eq_nil_or_concat name.toList with hname | ⟨cs, c, hname⟩
    · exact ⟨"env".toList, '.', by rw [hname]; rfl, by decide⟩
    · rw [List.concat_eq_append] at hname
      refine ⟨"env.".toList ++ cs, c, by rw [hname, List.append_assoc], hend c ?_⟩
      rw [hname, List.getLast?_concat]
  have hmatrix : Text.stripStart? "matrix.".toList ("env.".toList ++ name.toList) = none := rfl
  have henv : Text.stripStart? "env.".toList ("env.".toList ++ name.toList) = some name.toList :=
    Text.stripStart?_eq_some_iff.mpr rfl
  rw [hsolid.trimmed hleft hright, value, hmatrix, henv]
  simp

theorem toList_expand_env (x : Interpolation) {text name : String}
    {before left right after : List Char} (hname : '}' ∉ name.toList)
    (hend : ∀ c, name.toList.getLast? = some c → Text.isBlank c = false)
    (hleft : left.all Text.isBlank = true) (hright : right.all Text.isBlank = true)
    (hbefore : ¬ Unclosed before)
    (htext : text.toList =
      before ++ opening ++ (left ++ ("env.".toList ++ name.toList) ++ right) ++ closing ++ after) :
    (x.expand text).toList =
      x.expandChars before ++ ((x.env.get? name).getD "").toList ++ x.expandChars after := by
  have hblank (cs : List Char) (hcs : cs.all Text.isBlank = true) : '}' ∉ cs :=
    fun hmem => absurd (List.all_eq_true.mp hcs _ hmem) (by decide)
  have hbody : '}' ∉ left ++ ("env.".toList ++ name.toList) ++ right := by
    simp [hblank left hleft, hblank right hright, hname]
  rw [expand, String.toList_ofList, htext, x.expandChars_expression hbefore (by simp) hbody,
    x.value_env hleft hright hend]

end Interpolation

namespace Shell

/-- Names that are let through, with their values where they have one. -/
theorem get?_letThrough (host : Environment) (names : List String) (name : String) :
    Bindings.get? name (names.filterMap fun k => (host.value? k).map (k, ·)) =
      if name ∈ names then host.value? name else none := by
  induction names with
  | nil => rfl
  | cons k rest ih =>
    rw [List.filterMap_cons]
    cases hk : host.value? k with
    | none =>
      by_cases hname : name = k
      · subst hname
        simp [ih, hk]
      · simp [ih, hname]
    | some value =>
      by_cases hname : name = k
      · subst hname
        simp [Bindings.get?, hk]
      · simp [Bindings.get?, ih, hname, Ne.symm hname]

/-- The process of a step sees the environment of its context, and of the host what is let through
and has no value there. -/
theorem get?_processEnvironment (config : RunnerConfig) (host : Environment) {c : StepContext}
    (hc : c.env.names.Nodup) (name : String) :
    Bindings.get? name (processEnvironment config host c) =
      (c.env.get? name).or (if name ∈ config.passthrough then host.value? name else none) := by
  rw [processEnvironment, Bindings.get?_insertAll_of_nodup hc, Bindings.get?_ofList,
    ← List.filterMap_reverse, get?_letThrough]
  simp

end Shell

namespace RunContext

open Bindings (firstBound firstBound_cons get?_insertAll_of_nodup)
open Interpolation (opening closing Unclosed)

variable {c : RunContext} {n : Instance} {step : Step} {secrets : ScopedSecrets}

/-- The layers that all steps of an instance share, the upper ones first. Of parameters that are
shown by the same variable the last one counts. -/
def sharedLayers (c : RunContext) (n : Instance) : List (Bindings String) :=
  [(n.id.params.map fun p => (matrixVariable p.1, p.2)).reverse, n.job.env, c.pipelineEnv,
    c.runVariables n.id]

/-- What a step adds to them: its own variables, in which expressions see the shared ones alone. -/
def ownLayer (c : RunContext) (n : Instance) (step : Step) : Bindings String :=
  step.env.map fun v => (v.1, (c.interpolation n.id (c.baseEnv n)).expand v.2)

theorem nodup_runVariables (c : RunContext) (id : InstanceId) :
    (Bindings.names (c.runVariables id)).Nodup := by
  have hnames : Bindings.names (c.runVariables id) =
      ["CI", "FERRULE_RUN_ID", "FERRULE_REF", "FERRULE_EVENT", "FERRULE_JOB"] := rfl
  rw [hnames]
  decide

theorem ascending_baseEnv (c : RunContext) (n : Instance) : (c.baseEnv n).Ascending :=
  (((Bindings.ascending_ofList _).insertAll _).insertAll _).insertAll _

theorem ascending_stepEnv (c : RunContext) (n : Instance) (step : Step) :
    (c.stepEnv n step).Ascending :=
  (ascending_baseEnv c n).insertAll _

theorem get?_baseEnv (hpipeline : c.pipelineEnv.names.Nodup) (hjob : n.job.env.names.Nodup)
    (name : String) : (c.baseEnv n).get? name = firstBound name (c.sharedLayers n) := by
  rw [baseEnv, Bindings.get?_insertAll, get?_insertAll_of_nodup hjob,
    get?_insertAll_of_nodup hpipeline, Bindings.get?_ofList,
    Bindings.get?_reverse (c.nodup_runVariables n.id)]
  simp only [sharedLayers, firstBound_cons]
  simp [firstBound]

theorem get?_stepEnv (hstep : step.env.names.Nodup) (name : String) :
    (c.stepEnv n step).get? name =
      (Bindings.get? name (c.ownLayer n step)).or ((c.baseEnv n).get? name) :=
  get?_insertAll_of_nodup ((Bindings.names_mapValues _ step.env).symm ▸ hstep) name _

/-- The order in which the variables of a step are written down does not matter. -/
theorem stepEnv_perm (hstep : step.env.names.Nodup) {env : Bindings String}
    (hperm : env.Perm step.env) : c.stepEnv n { step with env } = c.stepEnv n step := by
  have henv : env.names.Nodup := (hperm.map Prod.fst).nodup_iff.mpr hstep
  refine (ascending_stepEnv c n _).ext (ascending_stepEnv c n step) fun name => ?_
  have hown : Bindings.get? name (c.ownLayer n { step with env }) =
      Bindings.get? name (c.ownLayer n step) := by
    rw [ownLayer, ownLayer, Bindings.get?_mapValues, Bindings.get?_mapValues,
      Bindings.get?_perm henv hperm]
  rw [get?_stepEnv hstep, get?_stepEnv henv, hown]

theorem stepContext_perm (hstep : step.env.names.Nodup) {env : Bindings String}
    (hperm : env.Perm step.env) :
    c.stepContext n secrets { step with env } = c.stepContext n secrets step := by
  simp only [stepContext, stepEnv_perm hstep hperm]
  rfl

theorem env_stepContext (c : RunContext) (n : Instance) (secrets : ScopedSecrets) (step : Step) :
    (c.stepContext n secrets step).env = (c.stepEnv n step).insertAll secrets.values := by
  unfold stepContext
  rfl

theorem env_stepContext_none (c : RunContext) (n : Instance) (step : Step) :
    (c.stepContext n .none step).env = c.stepEnv n step := by
  rw [env_stepContext]
  exact Bindings.insertAll_nil _

/-- A variable that no secret hides is the same with the secrets as without them. -/
theorem get?_stepContext_none {name : String} (h : secrets.values.get? name = none)
    (hsecrets : secrets.values.names.Nodup) :
    (c.stepContext n .none step).env.get? name = (c.stepContext n secrets step).env.get? name := by
  rw [env_stepContext_none, env_stepContext, get?_insertAll_of_nodup hsecrets, h, Option.none_or]

theorem get?_stepContext_env (hpipeline : c.pipelineEnv.names.Nodup)
    (hjob : n.job.env.names.Nodup) (hstep : step.env.names.Nodup)
    (hsecrets : secrets.values.names.Nodup) (name : String) :
    (c.stepContext n secrets step).env.get? name =
      firstBound name (secrets.values :: c.ownLayer n step :: c.sharedLayers n) := by
  rw [firstBound_cons, firstBound_cons, ← get?_baseEnv hpipeline hjob, ← get?_stepEnv hstep,
    env_stepContext, get?_insertAll_of_nodup hsecrets]

theorem env_interpolation (c : RunContext) (id : InstanceId) (env : Bindings String) :
    (c.interpolation id env).env = env := rfl

theorem command_stepContext (c : RunContext) (n : Instance) (secrets : ScopedSecrets)
    (step : Step) : (c.stepContext n secrets step).command =
      (c.interpolation n.id (c.stepContext n .none step).env).expand step.run := by
  rw [env_stepContext_none]
  unfold stepContext
  rfl

/-- A variable has the value of the first layer that defines it: a secret; a variable of the step,
in which expressions see only the layers below, wherever it stands among the others; the last
parameter that is shown by the variable; the job; the pipeline; the run. The process sees variables
of the host that are let through, where none of the layers defines them. The command is expanded
once, with the same environment less the secrets: a variable that is not a secret is replaced by the
value that the step sees, and by nothing if it has none, wherever the command asks for it. -/
theorem environment_layers (c : RunContext) (n : Instance) (step : Step) (secrets : ScopedSecrets)
    (hpipeline : c.pipelineEnv.names.Nodup) (hjob : n.job.env.names.Nodup)
    (hstep : step.env.names.Nodup) (hsecrets : secrets.values.names.Nodup) :
    let context := c.stepContext n secrets step
    let plain := c.stepContext n .none step
    let x := c.interpolation n.id plain.env
    (∀ name, (c.baseEnv n).get? name = firstBound name (c.sharedLayers n)) ∧
    (∀ name, context.env.get? name =
      firstBound name (secrets.values :: c.ownLayer n step :: c.sharedLayers n)) ∧
    (∀ env, env.Perm step.env → c.stepContext n secrets { step with env } = context) ∧
    (∀ config host name, (Shell.processEnvironment config host context).get? name =
      (context.env.get? name).or (if name ∈ config.passthrough then host.value? name else none)) ∧
    context.command = x.expand step.run ∧
    ∀ name before left right after, secrets.values.get? name = none → '}' ∉ name.toList →
      (∀ ch, name.toList.getLast? = some ch → Text.isBlank ch = false) →
      left.all Text.isBlank = true → right.all Text.isBlank = true → ¬ Unclosed before →
      step.run.toList =
        before ++ opening ++ (left ++ ("env.".toList ++ name.toList) ++ right) ++ closing ++ after →
      context.command.toList =
        x.expandChars before ++ ((context.env.get? name).getD "").toList ++ x.expandChars after := by
  intro context plain x
  refine ⟨get?_baseEnv hpipeline hjob, get?_stepContext_env hpipeline hjob hstep hsecrets,
    fun env hperm => stepContext_perm hstep hperm, fun config host name => ?_,
    c.command_stepContext n secrets step, ?_⟩
  · exact Shell.get?_processEnvironment config host
      ((ascending_stepEnv c n step).insertAll secrets.values).nodup name
  · intro name before left right after hsecret hname hend hleft hright hbefore hrun
    have hcommand := x.toList_expand_env hname hend hleft hright hbefore hrun
    rw [env_interpolation, get?_stepContext_none hsecret hsecrets] at hcommand
    rw [c.command_stepContext n secrets step]
    exact hcommand

/-- A step that has a level of its own, and a variable that asks for the level. -/
def leveledStep : Step :=
  ⟨"build", "build $\x7b\x7b env.LEVEL \x7d\x7d", "bash", none,
    [("FROM", "$\x7b\x7b env.LEVEL \x7d\x7d"), ("LEVEL", "step")], false, none⟩

def leveledInstance : Instance :=
  ⟨⟨"build", [("os", "linux")]⟩,
    ⟨"build", none, [], none, none, [("LEVEL", "job")], [.named "TOKEN"], [leveledStep]⟩, none, []⟩

def leveledRun : RunContext :=
  ⟨⟨0⟩, ⟨.push, "refs/heads/main"⟩, [("LEVEL", "pipeline"), ("PIPELINE", "p")], "/work", none⟩

/-- The step's level wins, but its other variable is read where only the job's is known. -/
theorem environment_layers_leveled :
    let context := leveledRun.stepContext leveledInstance ⟨[("TOKEN", "s3cret")]⟩ leveledStep
    ["TOKEN", "LEVEL", "FROM", "MATRIX_OS", "PIPELINE", "CI", "HOME"].map context.env.get? =
      [some "s3cret", some "step", some "job", some "linux", some "p", some "true", none] ∧
    (Shell.processEnvironment .standard [("HOME", "/root"), ("CI", "no")] context).get? "HOME" =
      some "/root" ∧
    context.command = "build step" := by
  intro context
  obtain ⟨_, henv, _, hprocess, _, hcommand⟩ :=
    environment_layers leveledRun leveledInstance leveledStep ⟨[("TOKEN", "s3cret")]⟩
      (by decide) (by decide) (by decide) (by decide)
  refine ⟨?_, ?_, ?_⟩
  · rw [List.map_congr_left fun name _ => henv name]
    decide +kernel
  · have hhost : Environment.value? [("HOME", "/root"), ("CI", "no")] "HOME" = some "/root" := by
      simp [Environment.value?, Bindings.get?]
    rw [hprocess, henv, hhost]
    decide +kernel
  · have hrun : leveledStep.run.toList = "build ".toList ++ opening ++
        ([' '] ++ ("env.".toList ++ "LEVEL".toList) ++ [' ']) ++ closing ++ [] := by
      decide +kernel
    have hend : ∀ ch, "LEVEL".toList.getLast? = some ch → Text.isBlank ch = false := by
      have hlast : "LEVEL".toList.getLast? = some 'L' := by decide +kernel
      intro ch hch
      rw [hlast] at hch
      cases hch
      decide
    have hstep := hcommand "LEVEL" "build ".toList [' '] [' '] [] (by decide) (by decide) hend
      (by decide) (by decide) (Interpolation.not_unclosed_of_not_mem (by decide)) hrun
    rw [henv] at hstep
    rw [← String.toList_inj, hstep]
    decide +kernel

end RunContext

end GatedPipeline
