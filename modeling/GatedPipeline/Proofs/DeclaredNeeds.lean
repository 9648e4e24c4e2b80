import GatedPipeline.Proofs.Identity
import Mathlib.Logic.Relation

namespace GatedPipeline

namespace Pipeline

/-- A job of this name needs the other one. -/
def Needs (p : Pipeline) (job need : String) : Prop :=
  ∃ j ∈ p.jobs, j.name = job ∧ need ∈ j.needs

def HasInstances (p : Pipeline) (job : String) : Prop := ∃ id ∈ p.instanceIds, id.job = job

instance (p : Pipeline) (job need : String) : Decidable (p.Needs job need) :=
  inferInstanceAs (Decidable (∃ j ∈ p.jobs, j.name = job ∧ need ∈ j.needs))

instance (p : Pipeline) (job : String) : Decidable (p.HasInstances job) :=
  inferInstanceAs (Decidable (∃ id ∈ p.instanceIds, id.job = job))

/-- A job needs another one directly, or through jobs that all have instances. -/
inductive NeedsThrough (p : Pipeline) : String → String → Prop where
  | direct {job need : String} (needs : p.Needs job need) : NeedsThrough p job need
  | through {job between need : String} (needs : p.Needs job between)
      (inhabited : p.HasInstances between) (rest : NeedsThrough p between need) :
      NeedsThrough p job need

end Pipeline

namespace JobGraph

/-- The numbers of a job are the places at which its instances stand. -/
theorem mem_lookup_numbering {js : List Job} (h : (js.map Job.name).Nodup) {start d : Nat}
    {name : String} :
    (∃ is, (numbering start js).lookup name = some is ∧ d ∈ is) ↔
      ∃ k id, d = start + k ∧ (js.flatMap Job.instanceIds)[k]? = some id ∧ id.job = name := by
  induction js generalizing start with
  | nil => simp [numbering]
  | cons j js ih =>
    obtain ⟨hj, hjs⟩ := List.nodup_cons.mp h
    rw [numbering, List.flatMap_cons, List.lookup_cons]
    by_cases hname : name = j.name
    · subst hname
      simp only [BEq.rfl, Option.some.injEq, exists_eq_left', List.mem_range'_1]
      constructor
      · rintro ⟨hlo, hhi⟩
        have hk : d - start < j.instanceIds.length := by omega
        refine ⟨d - start, j.instanceIds[d - start], by omega, ?_, ?_⟩
        · rw [List.getElem?_append_left hk, List.getElem?_eq_getElem hk]
        · exact Job.job_of_mem_instanceIds (List.getElem_mem hk)
      · rintro ⟨k, id, rfl, hid, hjob⟩
        by_cases hk : k < j.instanceIds.length
        · omega
        · rw [List.getElem?_append_right (Nat.le_of_not_lt hk)] at hid
          obtain ⟨j', hj', hmem⟩ := List.mem_flatMap.mp (List.mem_of_getElem? hid)
          rw [Job.job_of_mem_instanceIds hmem] at hjob
          -- No later job has this name.
          exact absurd (hjob ▸ List.mem_map_of_mem hj') hj
    · have hbeq : (name == j.name) = false := by simpa using hname
      rw [hbeq]
      simp only [ih hjs]
      constructor
      · rintro ⟨k, id, rfl, hid, hjob⟩
        refine ⟨j.instanceIds.length + k, id, by omega, ?_, hjob⟩
        rw [List.getElem?_append_right (by omega), Nat.add_sub_cancel_left]
        exact hid
      · rintro ⟨k, id, rfl, hid, hjob⟩
        by_cases hk : k < j.instanceIds.length
        · rw [List.getElem?_append_left hk] at hid
          rw [Job.job_of_mem_instanceIds (List.mem_of_getElem? hid)] at hjob
          exact absurd hjob.symm hname
        · rw [List.getElem?_append_right (Nat.le_of_not_lt hk)] at hid
          exact ⟨k - j.instanceIds.length, id, by omega, hid, hjob⟩

variable {p : Pipeline} {g : JobGraph} {i d : Nat} {n m : Instance}

section Assembled

variable (h : Assembled p g) (hw : p.WellFormed)

include h hw in
theorem numbers_of_job {name : String} :
    (∃ is, (numbering 0 p.jobs).lookup name = some is ∧ d ∈ is) ↔
      ∃ m, g.node? d = some m ∧ m.job.name = name := by
  have hids : ∀ k : Nat, (p.jobs.flatMap Job.instanceIds)[k]? = (g.node? k).map (·.id) := by
    intro k
    rw [node?, ← List.getElem?_map, h.ids]
    rfl
  rw [mem_lookup_numbering hw.distinct]
  simp only [Nat.zero_add, hids, Option.map_eq_some_iff]
  constructor
  · rintro ⟨k, id, rfl, ⟨m, hm, rfl⟩, hjob⟩
    exact ⟨m, hm, (h.job_id hm).symm.trans hjob⟩
  · rintro ⟨m, hm, hjob⟩
    exact ⟨d, m.id, rfl, ⟨m, hm, rfl⟩, (h.job_id hm).trans hjob⟩

include h hw in
/-- An instance depends on exactly the instances of the jobs that its job needs. -/
theorem mem_dependencies_iff (hn : g.node? i = some n) :
    d ∈ g.dependencies i ↔ ∃ m, g.node? d = some m ∧ m.job.name ∈ n.job.needs := by
  rw [dependencies_of_node? hn, (dependenciesOf_spec (h.node hn).2.2).2 d]
  simp only [numbers_of_job h hw]
  constructor
  · rintro ⟨need, hneed, m, hm, rfl⟩
    exact ⟨m, hm, hneed⟩
  · rintro ⟨m, hm, hneed⟩
    exact ⟨m.job.name, hneed, m, hm, rfl⟩

include h hw in
theorem needs_iff (hn : g.node? i = some n) {need : String} :
    p.Needs n.job.name need ↔ need ∈ n.job.needs := by
  have hjob := (h.node hn).1
  constructor
  · rintro ⟨j, hj, hname, hneed⟩
    rwa [List.inj_on_of_nodup_map hw.distinct hj hjob hname] at hneed
  · intro hneed
    exact ⟨n.job, hjob, rfl, hneed⟩

include h in
theorem hasInstances_iff {job : String} :
    p.HasInstances job ↔ ∃ k m, g.node? k = some m ∧ m.job.name = job := by
  rw [Pipeline.HasInstances, ← h.ids]
  constructor
  · rintro ⟨id, hid, hjob⟩
    obtain ⟨m, hm, rfl⟩ := List.mem_map.mp hid
    obtain ⟨k, hk⟩ := List.mem_iff_getElem?.mp hm
    exact ⟨k, m, hk, (h.job_id hk).symm.trans hjob⟩
  · rintro ⟨k, m, hm, hjob⟩
    exact ⟨m.id, List.mem_map_of_mem (mem_nodes_of_node? hm), (h.job_id hm).trans hjob⟩

end Assembled

/-- One instance depends on another, directly or through others, exactly where there is a chain of
needs between their jobs that does not pass through a job without instances. -/
theorem transGen_dependencies_iff (h : build p = .ok g) (hn : g.node? i = some n)
    (hm : g.node? d = some m) :
    Relation.TransGen (fun i d => d ∈ g.dependencies i) i d ↔
      p.NeedsThrough n.job.name m.job.name := by
  have ha := (build_stages h).1
  have hw := wellFormed_of_build h
  constructor
  · intro hpath
    induction hpath using Relation.TransGen.head_induction_on generalizing n with
    | single hdep =>
      obtain ⟨m', hm', hneed⟩ := (mem_dependencies_iff ha hw hn).mp hdep
      rw [hm, Option.some.injEq] at hm'
      subst hm'
      exact .direct ((needs_iff ha hw hn).mpr hneed)
    | head hdep _ ih =>
      obtain ⟨k, hk, hneed⟩ := (mem_dependencies_iff ha hw hn).mp hdep
      exact .through ((needs_iff ha hw hn).mpr hneed)
        ((hasInstances_iff ha).mpr ⟨_, k, hk, rfl⟩) (ih hk)
  · intro hchain
    generalize hjob : n.job.name = job, hneed : m.job.name = need at hchain
    induction hchain generalizing i n with
    | direct needs =>
      subst hjob hneed
      exact .single ((mem_dependencies_iff ha hw hn).mpr ⟨m, hm, (needs_iff ha hw hn).mp needs⟩)
    | through needs inhabited _ ih =>
      subst hjob hneed
      obtain ⟨k, m', hk, rfl⟩ := (hasInstances_iff ha).mp inhabited
      exact .head ((mem_dependencies_iff ha hw hn).mpr ⟨m', hk, (needs_iff ha hw hn).mp needs⟩)
        (ih hk rfl rfl)

end JobGraph

end GatedPipeline
