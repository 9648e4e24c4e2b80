import GatedPipeline.Definition.Fault
import GatedPipeline.Matrix.Basic

namespace GatedPipeline

/-- Texts, numbers and truth values are scalars. -/
def Json.IsScalar : Json → Prop
  | .str _ | .num _ | .bool _ => True
  | _ => False

theorem Json.isSome_scalarText?_iff (v : Json) : v.scalarText?.isSome = true ↔ v.IsScalar := by
  cases v <;> simp [scalarText?, IsScalar]

/-- Something is left of the text once it is trimmed. -/
def Text.IsPresent (s : String) : Prop := ∃ c ∈ s.toList, Text.isBlank c = false

theorem Text.isBlankText_eq_false_iff (s : String) :
    Text.isBlankText s = false ↔ Text.IsPresent s := by
  simp [Text.isBlankText, Text.IsPresent]

namespace Matrix

/-- The values of each axis have different texts. -/
def Distinct (axes : List Axis) : Prop := ∀ a ∈ axes, (a.values.map valueText).Nodup

structure WellFormed (m : Matrix) : Prop where
  axes : ∀ a ∈ m.axes, ∀ v ∈ a.values, v.IsScalar
  distinct : Distinct m.axes
  inclusions : ∀ e ∈ m.inclusions, ∀ p ∈ e, p.2.IsScalar
  exclusions : ∀ e ∈ m.exclusions, ∀ p ∈ e, p.2.IsScalar
  known : ∀ e ∈ m.exclusions, ∀ p ∈ e, p.1 ∈ m.axes.map Axis.name

/-- The values so far, whose texts are `seen`, are kept apart from those to come. -/
theorem valueFaults_eq_nil_iff {axis : String} {seen : List String} {values : List Json} :
    valueFaults axis seen values = [] ↔
      (∀ v ∈ values, v.IsScalar) ∧ (values.map valueText).Nodup ∧
        ∀ v ∈ values, valueText v ∉ seen := by
  induction values generalizing seen with
  | nil => simp [valueFaults]
  | cons v values ih =>
    unfold valueFaults
    split
    · rename_i hv
      have hnot : ¬ v.IsScalar := by
        rw [← Json.isSome_scalarText?_iff, hv]
        exact Bool.false_ne_true
      simp [hnot]
    · rename_i text hv
      have hscalar : v.IsScalar := by
        rw [← Json.isSome_scalarText?_iff, hv]
        rfl
      have htext : valueText v = text := by rw [valueText, hv, Option.getD_some]
      split
      · rename_i hseen
        have hmem : text ∈ seen := List.contains_iff_mem.mp hseen
        simp [htext, hmem]
      · rename_i hseen
        have hmem : text ∉ seen := fun h => hseen (List.contains_iff_mem.mpr h)
        rw [ih]
        simp only [List.map_cons, List.nodup_cons, List.mem_map, List.mem_cons, forall_eq_or_imp,
          htext, not_or, not_exists, not_and]
        constructor
        · rintro ⟨hs, hd, hn⟩
          exact ⟨⟨hscalar, hs⟩, ⟨fun w hw => (hn w hw).1, hd⟩, hmem, fun w hw => (hn w hw).2⟩
        · rintro ⟨⟨_, hs⟩, ⟨hne, hd⟩, _, hn⟩
          exact ⟨hs, hd, fun w hw => ⟨hne w hw, hn w hw⟩⟩

theorem axisFaults_eq_nil_iff (a : Axis) :
    axisFaults a = [] ↔ (∀ v ∈ a.values, v.IsScalar) ∧ (a.values.map valueText).Nodup := by
  simp [axisFaults, valueFaults_eq_nil_iff]

theorem entryFaults_eq_nil_iff (e : MatrixEntry) :
    entryFaults e = [] ↔ ∀ p ∈ e, p.2.IsScalar := by
  simp only [entryFaults, List.filterMap_eq_nil_iff]
  refine forall₂_congr fun p _ => ?_
  rw [← Json.isSome_scalarText?_iff]
  cases p.2.scalarText? <;> simp

theorem isNone_axis?_iff (m : Matrix) (name : String) :
    (m.axis? name).isNone = true ↔ name ∉ m.axes.map Axis.name := by
  simp [axis?]

theorem excludeFaults_eq_nil_iff (m : Matrix) (e : MatrixEntry) :
    m.excludeFaults e = [] ↔ ∀ p ∈ e, p.1 ∈ m.axes.map Axis.name := by
  simp only [excludeFaults, List.filterMap_eq_nil_iff, ite_eq_right_iff, reduceCtorEq, imp_false,
    isNone_axis?_iff, Decidable.not_not]

theorem faults_eq_nil_iff (m : Matrix) : m.faults = [] ↔ m.WellFormed := by
  simp only [faults, List.append_eq_nil_iff, List.flatMap_eq_nil_iff, axisFaults_eq_nil_iff,
    entryFaults_eq_nil_iff, excludeFaults_eq_nil_iff, List.forall_mem_append]
  constructor
  · rintro ⟨⟨haxes, hin, hex⟩, hknown⟩
    exact ⟨fun a ha => (haxes a ha).1, fun a ha => (haxes a ha).2, hin, hex, hknown⟩
  · intro h
    exact ⟨⟨fun a ha => ⟨h.axes a ha, h.distinct a ha⟩, h.inclusions, h.exclusions⟩, h.known⟩

end Matrix

/-- A job among jobs with the given names. -/
structure Job.WellFormed (names : List String) (j : Job) : Prop where
  needs : ∀ need ∈ j.needs, need ∈ names
  commands : ∀ s ∈ j.steps, Text.IsPresent s.run
  matrix : ∀ m, j.matrix = some m → m.WellFormed

namespace Pipeline

structure WellFormed (p : Pipeline) : Prop where
  inhabited : p.jobs ≠ []
  named : ∀ j ∈ p.jobs, Text.IsPresent j.name
  distinct : (p.jobs.map Job.name).Nodup
  jobs : ∀ j ∈ p.jobs, j.WellFormed (p.jobs.map Job.name)

theorem nameFaults_eq_nil_iff {seen : List String} {js : List Job} :
    nameFaults seen js = [] ↔
      (∀ j ∈ js, Text.IsPresent j.name) ∧ (js.map Job.name).Nodup ∧ ∀ j ∈ js, j.name ∉ seen := by
  induction js generalizing seen with
  | nil => simp [nameFaults]
  | cons j js ih =>
    have hblank : (if Text.isBlankText j.name then [Fault.emptyJobName] else []) = [] ↔
        Text.IsPresent j.name := by
      rw [← Text.isBlankText_eq_false_iff]
      cases Text.isBlankText j.name <;> simp
    have hseen : (if seen.contains j.name then [Fault.duplicateJob j.name] else []) = [] ↔
        j.name ∉ seen := by
      rw [← List.contains_iff_mem]
      cases seen.contains j.name <;> simp
    simp only [nameFaults, List.append_eq_nil_iff, hblank, hseen, ih, List.map_cons,
      List.nodup_cons, List.mem_map, List.mem_cons, forall_eq_or_imp, not_or, not_exists, not_and]
    constructor
    · rintro ⟨⟨hn, hs⟩, hns, hd, hne⟩
      exact ⟨⟨hn, hns⟩, ⟨fun k hk => (hne k hk).1, hd⟩, hs, fun k hk => (hne k hk).2⟩
    · rintro ⟨⟨hn, hns⟩, ⟨hne, hd⟩, hs, hnot⟩
      exact ⟨⟨hn, hs⟩, hns, hd, fun k hk => ⟨hne k hk, hnot k hk⟩⟩

theorem jobFaults_eq_nil_iff (names : List String) (j : Job) :
    jobFaults names j = [] ↔ j.WellFormed names := by
  have hneeds : (j.needs.filter (!names.contains ·)).map (Fault.unknownDependency j.name) = [] ↔
      ∀ need ∈ j.needs, need ∈ names := by
    simp
  have hcommands : (j.steps.filter fun s => Text.isBlankText s.run).map
      (Fault.emptyCommand ·.name j.name) = [] ↔ ∀ s ∈ j.steps, Text.IsPresent s.run := by
    simp only [List.map_eq_nil_iff, List.filter_eq_nil_iff, Bool.not_eq_true,
      Text.isBlankText_eq_false_iff]
  rw [jobFaults, List.append_eq_nil_iff, List.append_eq_nil_iff, hneeds, hcommands]
  constructor
  · rintro ⟨⟨hn, hc⟩, hm⟩
    refine ⟨hn, hc, fun m hmatrix => ?_⟩
    simpa [hmatrix, Matrix.faults_eq_nil_iff] using hm
  · intro h
    refine ⟨⟨h.needs, h.commands⟩, ?_⟩
    cases hmatrix : j.matrix with
    | none => rfl
    | some m => simpa [Matrix.faults_eq_nil_iff] using h.matrix m hmatrix

theorem faults_eq_nil_iff (p : Pipeline) : p.faults = [] ↔ p.WellFormed := by
  have hjobs : (if p.jobs.isEmpty then [Fault.noJobs] else []) = [] ↔ p.jobs ≠ [] := by
    cases p.jobs <;> simp
  simp only [faults, List.append_eq_nil_iff, hjobs, nameFaults_eq_nil_iff,
    List.flatMap_eq_nil_iff, jobFaults_eq_nil_iff]
  constructor
  · rintro ⟨⟨hne, hn, hd, _⟩, hj⟩
    exact ⟨hne, hn, hd, hj⟩
  · intro h
    exact ⟨⟨h.inhabited, h.named, h.distinct, fun j _ => List.not_mem_nil⟩, h.jobs⟩

/-- The check lets through exactly the well-formed definitions. -/
theorem check_eq_ok_iff (p : Pipeline) : p.check = .ok () ↔ p.WellFormed := by
  rw [← faults_eq_nil_iff, check]
  cases p.faults <;> simp

end Pipeline

end GatedPipeline
