import GatedPipeline.Proofs.Acceptance
import GatedPipeline.Proofs.CycleWalk

namespace GatedPipeline

namespace Pipeline

variable {p : Pipeline} {i k : Nat}

theorem name_getElem? (h : i < p.jobs.length) : (p.jobs[i]?).map Job.name = some (p.nameAt i) := by
  rw [nameAt, List.getElem?_eq_getElem h]
  rfl

theorem nameAt_injective (hd : (p.jobs.map Job.name).Nodup) (hi : i < p.jobs.length)
    (hk : k < p.jobs.length) (h : p.nameAt i = p.nameAt k) : i = k := by
  have hnames : (p.jobs.map Job.name)[i]? = (p.jobs.map Job.name)[k]? := by
    rw [List.getElem?_map, List.getElem?_map, name_getElem? hi, name_getElem? hk, h]
  exact (List.getElem?_inj (by rwa [List.length_map]) hd).mp hnames

theorem needsCycle?_of_cycle? {path : List Nat}
    (h : Digraph.cycle? p.jobs.length p.needsOf = some path)
    (hpath : ∀ i ∈ path, i < p.jobs.length) : p.needsCycle? = some (path.map p.nameAt) := by
  have hnames : path.filterMap (fun i => (p.jobs[i]?).map Job.name) =
      path.filterMap (some ∘ p.nameAt) :=
    List.filterMap_congr fun i hi => name_getElem? (hpath i hi)
  rw [needsCycle?, h, Option.map_some, hnames, List.filterMap_eq_map]

/-- Where needs lead round, names of jobs that do so are found. -/
theorem exists_isCycle_of_not_acyclic (h : p.WellFormed) (ha : ¬ p.Acyclic) :
    ∃ path, p.needsCycle? = some path ∧ Digraph.IsCycle p.Needs path := by
  have hbound := lt_of_mem_needsOf h.distinct
  have hsome : ∃ i, Relation.TransGen (fun i k => k ∈ p.needsOf i) i i := by
    by_contra hnone
    apply ha
    rw [← needsCycle?_eq_none_iff h, needsCycle?, Option.map_eq_none_iff,
      Digraph.cycle?_eq_none_iff hbound]
    exact not_exists.mp hnone
  obtain ⟨path, hfound, hcycle⟩ := Digraph.exists_isCycle_of_transGen hbound hsome
  have hpath : ∀ i ∈ path, i < p.jobs.length := by
    intro i hi
    obtain ⟨k, hk⟩ := hcycle.exists_rel hi
    exact hbound k i hk
  refine ⟨_, needsCycle?_of_cycle? hfound hpath, hcycle.map ?_ ?_⟩
  · exact fun i k hk => needs_nameAt h.distinct hk
  · exact fun i hi k hk => nameAt_injective h.distinct (hpath i hi) (hpath k hk)

theorem needsCycle?_of_self (h : p.WellFormed) {earlier later : List Job} {j : Job}
    (hjobs : p.jobs = earlier ++ j :: later)
    (hearlier : ∀ k ∈ earlier, ¬ Relation.TransGen p.Needs k.name k.name)
    (hself : j.name ∈ j.needs) : p.needsCycle? = some [j.name, j.name] := by
  have hj : p.jobs[earlier.length]? = some j := by
    rw [hjobs, List.getElem?_append_right (Nat.le_refl earlier.length), Nat.sub_self,
      List.getElem?_cons_zero]
  have hname : p.nameAt earlier.length = j.name := by
    rw [nameAt, hj]
    rfl
  have hneeds : earlier.length ∈ p.needsOf earlier.length :=
    (mem_needsOf_iff h.distinct).mpr ⟨j, j, hj, hj, hself⟩
  have hleast : ∀ k < earlier.length, ¬ Relation.TransGen (fun i k => k ∈ p.needsOf i) k k := by
    intro k hk hcycle
    have hkname : p.nameAt k = earlier[k].name := by
      rw [nameAt, hjobs, List.getElem?_append_left hk, List.getElem?_eq_getElem hk]
      rfl
    apply hearlier earlier[k] (List.getElem_mem hk)
    rw [← hkname]
    exact Relation.TransGen.lift p.nameAt (fun i k hk => needs_nameAt h.distinct hk) _ _ hcycle
  have hbound := lt_of_mem_needsOf h.distinct
  have hpath : ∀ i ∈ [earlier.length, earlier.length], i < p.jobs.length := by
    intro i hi
    have hi : i = earlier.length := by simpa using hi
    rw [hi]
    exact hbound _ _ hneeds
  rw [needsCycle?_of_cycle? (Digraph.cycle?_of_self hbound hneeds hleast) hpath]
  simp only [List.map_cons, List.map_nil, hname]

end Pipeline

namespace JobGraph

variable {p : Pipeline}

theorem build_ne_cycle (h : p.WellFormed) (ha : p.Acyclic) (path : List String) :
    build p ≠ .error (.cycle path) := by
  intro he
  by_cases hc : ∀ j ∈ p.jobs, j.ConditionParses
  · obtain ⟨g, hg⟩ := build_of_parse h ha hc
    cases he.symm.trans hg
  · obtain ⟨_, _, _, _, _, _, _, _, _, hcondition⟩ := build_of_not_parse h ha hc
    cases he.symm.trans hcondition

/-- If the needs of a definition that passes the check lead round, a cycle of needs is reported; a
job that needs itself is reported alone, unless an earlier job lies on a cycle. If they do not,
no cycle is reported. The walk that finds a cycle has an end in every digraph, wherever it starts
and among whichever members it stays. -/
theorem reported_cycle_genuine (h : p.check = .ok ()) :
    ((∃ job, Relation.TransGen p.Needs job job) →
        ∃ path, build p = .error (.cycle path) ∧ Digraph.IsCycle p.Needs path) ∧
      (∀ earlier j later, p.jobs = earlier ++ j :: later →
        (∀ k ∈ earlier, ¬ Relation.TransGen p.Needs k.name k.name) → j.name ∈ j.needs →
          build p = .error (.cycle [j.name, j.name])) ∧
      (p.Acyclic → ∀ path, build p ≠ .error (.cycle path)) ∧
      ∀ (n : Nat) (succ : Nat → List Nat) (members : List Nat) (start : Nat),
        (∀ i, ∀ j ∈ succ i, j < n) → start < n → ∀ result,
          Digraph.Walked succ members [start] start result ↔
            result = Digraph.walk succ members n [start] start := by
  have hw := p.check_eq_ok_iff.mp h
  refine ⟨?_, ?_, build_ne_cycle hw, ?_⟩
  · rintro ⟨job, hcycle⟩
    obtain ⟨path, hfound, hpath⟩ :=
      Pipeline.exists_isCycle_of_not_acyclic hw fun ha => ha job hcycle
    exact ⟨path, build_of_needsCycle? h hfound, hpath⟩
  · intro earlier j later hjobs hearlier hself
    exact build_of_needsCycle? h (Pipeline.needsCycle?_of_self hw hjobs hearlier hself)
  · intro n succ members start hb hstart result
    exact Digraph.walked_iff hb hstart

/-- The walk from `fetch` does not come back to it, and a need is written twice. -/
def tangled : Pipeline :=
  ⟨"tangled", none, [], [],
    [plainJob "fetch" ["compile"] none, plainJob "compile" ["link", "link"] none,
      plainJob "link" ["pack", "compile"] none, plainJob "pack" ["fetch", "pack"] none]⟩

theorem reported_cycle_genuine_tangled :
    build tangled = .error (.cycle ["compile", "link", "compile"]) ∧
      Digraph.IsCycle tangled.Needs ["compile", "link", "compile"] ∧
      build (brokenOff ["lint"]) = .error (.cycle ["lint", "lint"]) ∧
      (∀ path, build diamond ≠ .error (.cycle path)) ∧
      Digraph.Walked tangled.needsOf [0, 1, 2, 3] [0] 0 [1, 2, 1] := by
  have htangled : tangled.check = .ok () := by decide +kernel
  have hbroken : (brokenOff ["lint"]).check = .ok () := by decide +kernel
  have hdiamond : diamond.check = .ok () := by decide +kernel
  have hround : Relation.TransGen tangled.Needs "compile" "compile" :=
    .tail (.single (by decide : tangled.Needs "compile" "link")) (by decide)
  have hpath : build tangled = .error (.cycle ["compile", "link", "compile"]) :=
    build_of_needsCycle? htangled (by decide +kernel)
  obtain ⟨path, hbuild, hcycle⟩ := (reported_cycle_genuine htangled).1 ⟨"compile", hround⟩
  cases hbuild.symm.trans hpath
  have hself := (reported_cycle_genuine hbroken).2.1 [] _ [] rfl (List.forall_mem_nil _) (by decide)
  have hacyclic : diamond.Acyclic :=
    (Pipeline.needsCycle?_eq_none_iff (diamond.check_eq_ok_iff.mp hdiamond)).mp (by decide +kernel)
  have hbound := Pipeline.lt_of_mem_needsOf (tangled.check_eq_ok_iff.mp htangled).distinct
  have hwalk := (reported_cycle_genuine htangled).2.2.2 4 tangled.needsOf [0, 1, 2, 3] 0 hbound
    (by decide) [1, 2, 1]
  exact ⟨hpath, hcycle, hself, (reported_cycle_genuine hdiamond).2.2.1 hacyclic,
    hwalk.mpr (by decide +kernel)⟩

end JobGraph

end GatedPipeline
