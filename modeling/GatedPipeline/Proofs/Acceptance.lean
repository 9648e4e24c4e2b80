import GatedPipeline.Proofs.DeclaredNeeds

namespace GatedPipeline

/-- The condition of the job, if there is one, can be read. -/
def Job.ConditionParses (j : Job) : Prop :=
  ∀ source, j.condition = some source → ∃ c, Condition.parse source = .ok c

namespace Pipeline

/-- No job needs itself, directly or through others, whether these have instances or not. -/
def Acyclic (p : Pipeline) : Prop := ∀ job, ¬ Relation.TransGen p.Needs job job

variable {p : Pipeline} {i k : Nat}

theorem jobIndex?_eq_some_iff (hd : (p.jobs.map Job.name).Nodup) {name : String} :
    p.jobIndex? name = some k ↔ ∃ j, p.jobs[k]? = some j ∧ j.name = name := by
  rw [jobIndex?, List.findIdx?_eq_some_iff_getElem]
  constructor
  · rintro ⟨hk, hname, _⟩
    exact ⟨p.jobs[k], List.getElem?_eq_getElem hk, by simpa using hname⟩
  · rintro ⟨j, hj, hname⟩
    obtain ⟨hk, he⟩ := List.getElem?_eq_some_iff.mp hj
    refine ⟨hk, by simpa [he] using hname, fun l hl hsame => ?_⟩
    -- Names are not used twice, so no earlier job has this one.
    have hnames : (p.jobs.map Job.name)[l]? = (p.jobs.map Job.name)[k]? := by
      rw [List.getElem?_map, List.getElem?_map, hj, List.getElem?_eq_getElem (by omega),
        Option.map_some, Option.map_some, hname]
      simpa using hsame
    have hlk := (List.getElem?_inj (by rw [List.length_map]; omega) hd).mp hnames
    omega

theorem mem_needsOf_iff (hd : (p.jobs.map Job.name).Nodup) :
    k ∈ p.needsOf i ↔
      ∃ j j', p.jobs[i]? = some j ∧ p.jobs[k]? = some j' ∧ j'.name ∈ j.needs := by
  unfold needsOf
  cases hj : p.jobs[i]? with
  | none => simp
  | some j =>
    simp only [List.mem_filterMap, jobIndex?_eq_some_iff hd, Option.some.injEq]
    constructor
    · rintro ⟨need, hneed, j', hj', rfl⟩
      exact ⟨j, j', rfl, hj', hneed⟩
    · rintro ⟨_, j', rfl, hj', hneed⟩
      exact ⟨j'.name, hneed, j', hj', rfl⟩

theorem lt_of_mem_needsOf (hd : (p.jobs.map Job.name).Nodup) :
    ∀ i, ∀ k ∈ p.needsOf i, k < p.jobs.length := by
  intro i k hk
  obtain ⟨_, j', _, hj', _⟩ := (mem_needsOf_iff hd).mp hk
  exact (List.getElem?_eq_some_iff.mp hj').1

def nameAt (p : Pipeline) (i : Nat) : String := ((p.jobs[i]?).map Job.name).getD ""

theorem needs_nameAt (hd : (p.jobs.map Job.name).Nodup) (h : k ∈ p.needsOf i) :
    p.Needs (p.nameAt i) (p.nameAt k) := by
  obtain ⟨j, j', hi, hk, hneed⟩ := (mem_needsOf_iff hd).mp h
  rw [nameAt, nameAt, hi, hk]
  exact ⟨j, List.mem_of_getElem? hi, rfl, hneed⟩

/-- Cycles of numbers are cycles of names, since every need is the name of one job. -/
theorem needsCycle?_eq_none_iff (h : p.WellFormed) : p.needsCycle? = none ↔ p.Acyclic := by
  rw [needsCycle?, Option.map_eq_none_iff,
    Digraph.cycle?_eq_none_iff (lt_of_mem_needsOf h.distinct)]
  constructor
  · intro hnone job hcycle
    refine hnone _ (Relation.TransGen.lift (fun name => (p.jobIndex? name).getD 0) ?_ _ _ hcycle)
    rintro _ need ⟨j, hj, rfl, hneed⟩
    obtain ⟨j', hj', rfl⟩ := List.mem_map.mp ((h.jobs j hj).needs need hneed)
    obtain ⟨i, hi⟩ := List.mem_iff_getElem?.mp hj
    obtain ⟨k, hk⟩ := List.mem_iff_getElem?.mp hj'
    have hji := (jobIndex?_eq_some_iff h.distinct).mpr ⟨j, hi, rfl⟩
    have hjk := (jobIndex?_eq_some_iff h.distinct).mpr ⟨j', hk, rfl⟩
    rw [Function.onFun_apply, hji, hjk]
    exact (mem_needsOf_iff h.distinct).mpr ⟨j, j', hi, hk, hneed⟩
  · intro hacyclic i hcycle
    apply hacyclic (p.nameAt i)
    exact Relation.TransGen.lift p.nameAt (fun i k hk => needs_nameAt h.distinct hk) _ _ hcycle

end Pipeline

namespace JobGraph

variable {p : Pipeline} {g : JobGraph}

theorem parseCondition_of_parses {j : Job} (h : j.ConditionParses) :
    ∃ c, parseCondition j = .ok c := by
  unfold parseCondition
  cases hc : j.condition with
  | none => exact ⟨none, rfl⟩
  | some source =>
    obtain ⟨c, hparse⟩ := h source hc
    exact ⟨some c, by simp only [hparse]⟩

theorem parseConditions_of_parse {js : List Job} (h : ∀ j ∈ js, j.ConditionParses) :
    ∃ jobs, parseConditions js = .ok jobs := by
  induction js with
  | nil => exact ⟨[], rfl⟩
  | cons j js ih =>
    obtain ⟨c, hc⟩ := parseCondition_of_parses (h j List.mem_cons_self)
    obtain ⟨jobs, hjobs⟩ := ih fun k hk => h k (List.mem_cons_of_mem j hk)
    exact ⟨(j, c) :: jobs, by rw [parseConditions, hc, hjobs]; rfl⟩

/-- The first job whose condition cannot be read is the one that is told of. -/
theorem parseConditions_of_not_parse {js : List Job} (h : ¬ ∀ j ∈ js, j.ConditionParses) :
    ∃ earlier j later source e, js = earlier ++ j :: later ∧
      (∀ k ∈ earlier, k.ConditionParses) ∧ j.condition = some source ∧
      Condition.parse source = .error e ∧
      parseConditions js = .error (.invalidCondition j.name e) := by
  induction js with
  | nil => exact absurd (fun _ hj => nomatch hj) h
  | cons j js ih =>
    by_cases hj : j.ConditionParses
    · obtain ⟨earlier, k, later, source, e, rfl, hearlier, hsource, hparse, he⟩ :=
        ih fun hall => h (List.forall_mem_cons.mpr ⟨hj, hall⟩)
      obtain ⟨c, hc⟩ := parseCondition_of_parses hj
      refine ⟨j :: earlier, k, later, source, e, rfl, List.forall_mem_cons.mpr ⟨hj, hearlier⟩,
        hsource, hparse, ?_⟩
      rw [parseConditions, hc, he]
      rfl
    · obtain ⟨source, hrest⟩ := not_forall.mp hj
      obtain ⟨hsource, hnone⟩ := Classical.not_imp.mp hrest
      cases hparse : Condition.parse source with
      | ok c => exact absurd ⟨c, hparse⟩ hnone
      | error e =>
        refine ⟨[], j, js, source, e, rfl, List.forall_mem_nil _, hsource, hparse, ?_⟩
        simp only [parseConditions, parseCondition, hsource, hparse]
        rfl

theorem lookup_numbering_of_mem {js : List Job} {name : String} (h : name ∈ js.map Job.name)
    (start : Nat) : ∃ is, (numbering start js).lookup name = some is := by
  induction js generalizing start with
  | nil => cases h
  | cons j js ih =>
    rw [numbering, List.lookup_cons]
    cases hname : name == j.name with
    | true => exact ⟨_, rfl⟩
    | false =>
      rcases List.mem_cons.mp h with he | hmem
      · simp [he] at hname
      · exact ih hmem _

theorem dependenciesOf_of_lookup {numbers : List (String × List Nat)} {needs : List String}
    (h : ∀ need ∈ needs, ∃ is, numbers.lookup need = some is) (job : String) :
    ∃ ds, dependenciesOf numbers job needs = .ok ds := by
  induction needs with
  | nil => exact ⟨[], rfl⟩
  | cons need rest ih =>
    obtain ⟨is, his⟩ := h need List.mem_cons_self
    obtain ⟨others, ho⟩ := ih fun n hn => h n (List.mem_cons_of_mem need hn)
    unfold dependenciesOf
    rw [his, ho]
    exact ⟨_, rfl⟩

theorem jobNodes_of_dependencies {numbers : List (String × List Nat)}
    {jobs : List (Job × Option Condition)}
    (h : ∀ q ∈ jobs, ∃ ds, dependenciesOf numbers q.1.name q.1.needs = .ok ds) :
    ∃ nodes, jobNodes numbers jobs = .ok nodes := by
  induction jobs with
  | nil => exact ⟨[], rfl⟩
  | cons q jobs ih =>
    obtain ⟨ds, hds⟩ := h q List.mem_cons_self
    obtain ⟨others, ho⟩ := ih fun r hr => h r (List.mem_cons_of_mem q hr)
    unfold jobNodes
    rw [hds, ho]
    exact ⟨_, rfl⟩

/-- Every need of a job of the definition leads to instances, though there may be none. -/
theorem dependenciesOf_of_wellFormed (h : p.WellFormed) :
    ∀ j ∈ p.jobs, ∃ ds, dependenciesOf (numbering 0 p.jobs) j.name j.needs = .ok ds := by
  intro j hj
  refine dependenciesOf_of_lookup (fun need hneed => ?_) j.name
  exact lookup_numbering_of_mem ((h.jobs j hj).needs need hneed) 0

/-- A cycle of instances is one of needs. -/
theorem Assembled.cycle?_eq_none (h : Assembled p g) (hw : p.WellFormed) (ha : p.Acyclic) :
    Digraph.cycle? g.size g.dependencies = none := by
  rw [Digraph.cycle?_eq_none_iff h.bounded]
  intro i hcycle
  refine ha _
    (Relation.TransGen.lift (fun i => ((g.node? i).map fun n => n.job.name).getD "") ?_ _ _ hcycle)
  intro i d hd
  obtain ⟨n, hn⟩ := node?_of_lt (lt_of_mem_dependencies hd)
  obtain ⟨m, hm, hneed⟩ := (mem_dependencies_iff h hw hn).mp hd
  rw [Function.onFun_apply, hn, hm]
  exact (needs_iff h hw hn).mpr hneed

theorem build_of_not_wellFormed (h : ¬ p.WellFormed) :
    ∃ f ∈ p.faults, build p = .error (.definition f.toError) := by
  rw [← p.faults_eq_nil_iff] at h
  obtain ⟨f, fs, hfaults⟩ := List.exists_cons_of_ne_nil h
  refine ⟨f, hfaults ▸ List.mem_cons_self, ?_⟩
  rw [build, Pipeline.check, hfaults]

theorem build_of_needsCycle? {path : List String} (h : p.check = .ok ())
    (hpath : p.needsCycle? = some path) : build p = .error (.cycle path) := by
  rw [build, h, hpath]

theorem build_of_cycle (h : p.WellFormed) (ha : ¬ p.Acyclic) :
    ∃ path, build p = .error (.cycle path) := by
  rw [← Pipeline.needsCycle?_eq_none_iff h] at ha
  obtain ⟨path, hpath⟩ := Option.ne_none_iff_exists'.mp ha
  exact ⟨path, build_of_needsCycle? (p.check_eq_ok_iff.mpr h) hpath⟩

theorem build_of_not_parse (h : p.WellFormed) (ha : p.Acyclic)
    (hc : ¬ ∀ j ∈ p.jobs, j.ConditionParses) :
    ∃ earlier j later source e, p.jobs = earlier ++ j :: later ∧
      (∀ k ∈ earlier, k.ConditionParses) ∧ j.condition = some source ∧
      Condition.parse source = .error e ∧ build p = .error (.invalidCondition j.name e) := by
  obtain ⟨earlier, j, later, source, e, hjobs, hearlier, hsource, hparse, he⟩ :=
    parseConditions_of_not_parse hc
  refine ⟨earlier, j, later, source, e, hjobs, hearlier, hsource, hparse, ?_⟩
  rw [build, p.check_eq_ok_iff.mpr h, (Pipeline.needsCycle?_eq_none_iff h).mpr ha, he]
  rfl

theorem build_of_parse (h : p.WellFormed) (ha : p.Acyclic) (hc : ∀ j ∈ p.jobs, j.ConditionParses) :
    ∃ g, build p = .ok g := by
  obtain ⟨jobs, hjobs⟩ := parseConditions_of_parse hc
  have hdeps : ∀ q ∈ jobs, ∃ ds, dependenciesOf (numbering 0 p.jobs) q.1.name q.1.needs = .ok ds :=
    fun q hq =>
      dependenciesOf_of_wellFormed h q.1 (parseConditions_jobs hjobs ▸ List.mem_map_of_mem hq)
  obtain ⟨nodes, hnodes⟩ := jobNodes_of_dependencies hdeps
  have hassembled : Assembled p ⟨nodes⟩ := ⟨jobs, hjobs, hnodes⟩
  exact ⟨⟨nodes⟩, build_of_stages (p.check_eq_ok_iff.mpr h)
    ((Pipeline.needsCycle?_eq_none_iff h).mpr ha) hjobs hnodes (hassembled.cycle?_eq_none h ha)⟩

theorem isDefinitionError_of_fault (f : Pipeline.Fault) : f.toError.isDefinitionError = true := by
  cases f <;> rfl

/-- A definition becomes a graph exactly if it is well-formed, its needs lead back to no job, and
all its conditions can be read. What is wrong is told in this order, of the conditions the first
that cannot be read, and it is always an error of the definition. Once faults and cycles of needs
are ruled out, every need is found among the jobs, and no cycle of instances is left to find. -/
theorem build_accepts_iff (p : Pipeline) :
    ((∃ g, build p = .ok g) ↔ p.WellFormed ∧ p.Acyclic ∧ ∀ j ∈ p.jobs, j.ConditionParses) ∧
      (¬ p.WellFormed → ∃ f ∈ p.faults, build p = .error (.definition f.toError)) ∧
      (p.WellFormed → ¬ p.Acyclic → ∃ path, build p = .error (.cycle path)) ∧
      (p.WellFormed → p.Acyclic → (¬ ∀ j ∈ p.jobs, j.ConditionParses) →
        ∃ earlier j later source e, p.jobs = earlier ++ j :: later ∧
          (∀ k ∈ earlier, k.ConditionParses) ∧ j.condition = some source ∧
          Condition.parse source = .error e ∧ build p = .error (.invalidCondition j.name e)) ∧
      (∀ e, build p = .error e → e.toError.isDefinitionError = true) ∧
      (p.check = .ok () → p.needsCycle? = none →
        (∀ j ∈ p.jobs, ∃ ds, dependenciesOf (numbering 0 p.jobs) j.name j.needs = .ok ds) ∧
          ∀ g, Assembled p g → Digraph.cycle? g.size g.dependencies = none) := by
  refine ⟨⟨?_, ?_⟩, build_of_not_wellFormed, build_of_cycle, build_of_not_parse, ?_, ?_⟩
  · rintro ⟨g, hg⟩
    have hw := wellFormed_of_build hg
    have ha : p.Acyclic := by
      by_contra hcyclic
      obtain ⟨path, hpath⟩ := build_of_cycle hw hcyclic
      cases hg.symm.trans hpath
    refine ⟨hw, ha, ?_⟩
    by_contra hc
    obtain ⟨_, _, _, _, _, _, _, _, _, he⟩ := build_of_not_parse hw ha hc
    cases hg.symm.trans he
  · rintro ⟨hw, ha, hc⟩
    exact build_of_parse hw ha hc
  · intro e he
    by_cases hw : p.WellFormed
    · by_cases ha : p.Acyclic
      · by_cases hc : ∀ j ∈ p.jobs, j.ConditionParses
        · obtain ⟨g, hg⟩ := build_of_parse hw ha hc
          cases he.symm.trans hg
        · obtain ⟨_, _, _, _, _, _, _, _, _, hcondition⟩ := build_of_not_parse hw ha hc
          cases he.symm.trans hcondition
          rfl
      · obtain ⟨path, hpath⟩ := build_of_cycle hw ha
        cases he.symm.trans hpath
        rfl
    · obtain ⟨f, _, hf⟩ := build_of_not_wellFormed hw
      cases he.symm.trans hf
      exact isDefinitionError_of_fault f
  · intro hcheck hneeds
    have hw := p.check_eq_ok_iff.mp hcheck
    have ha := (Pipeline.needsCycle?_eq_none_iff hw).mp hneeds
    exact ⟨dependenciesOf_of_wellFormed hw, fun g hg => hg.cycle?_eq_none hw ha⟩

def brokenOff (needs : List String) : Pipeline :=
  ⟨"broken off", none, [], [], [plainJob "lint" needs (some "(")]⟩

theorem wellFormed_brokenOff : (brokenOff []).WellFormed ∧ (brokenOff ["lint"]).WellFormed :=
  ⟨(Pipeline.check_eq_ok_iff _).mp (by decide +kernel),
    (Pipeline.check_eq_ok_iff _).mp (by decide +kernel)⟩

theorem not_parse_brokenOff : ¬ ∀ j ∈ (brokenOff []).jobs, j.ConditionParses := by
  intro h
  obtain ⟨c, hc⟩ := h _ List.mem_cons_self "(" rfl
  have herror : Condition.parse "(" = .error (.unexpectedToken .aValue none) := by decide +kernel
  cases hc.symm.trans herror

/-- The diamond, a job that needs what is not there, a job that needs itself, and a job on its own,
the last three with a condition that breaks off. -/
theorem build_accepts_iff_diamond :
    (diamond.WellFormed ∧ diamond.Acyclic ∧ ∀ j ∈ diamond.jobs, j.ConditionParses) ∧
      (∃ f ∈ (brokenOff ["build"]).faults,
        build (brokenOff ["build"]) = .error (.definition f.toError)) ∧
      (∃ path, build (brokenOff ["lint"]) = .error (.cycle path)) ∧
      (∃ earlier j later source e, (brokenOff []).jobs = earlier ++ j :: later ∧
        (∀ k ∈ earlier, k.ConditionParses) ∧ j.condition = some source ∧
        Condition.parse source = .error e ∧
        build (brokenOff []) = .error (.invalidCondition j.name e)) ∧
      (∀ j ∈ diamond.jobs,
        ∃ ds, dependenciesOf (numbering 0 diamond.jobs) j.name j.needs = .ok ds) ∧
      Digraph.cycle? diamondGraph.size diamondGraph.dependencies = none := by
  have hfault : ¬ (brokenOff ["build"]).WellFormed := by
    intro h
    have hmem := (h.jobs _ List.mem_cons_self).needs "build" List.mem_cons_self
    revert hmem
    decide
  have hcycle : ¬ (brokenOff ["lint"]).Acyclic := fun h => h "lint" (.single (by decide))
  have hacyclic : (brokenOff []).Acyclic :=
    (Pipeline.needsCycle?_eq_none_iff wellFormed_brokenOff.1).mp (by decide +kernel)
  have hlate := (build_accepts_iff diamond).2.2.2.2.2 (by decide +kernel) (by decide +kernel)
  exact ⟨(build_accepts_iff diamond).1.mp ⟨_, build_diamond⟩, (build_accepts_iff _).2.1 hfault,
    (build_accepts_iff _).2.2.1 wellFormed_brokenOff.2 hcycle,
    (build_accepts_iff _).2.2.2.1 wellFormed_brokenOff.1 hacyclic not_parse_brokenOff,
    hlate.1, hlate.2 _ (build_stages build_diamond).1⟩

end JobGraph

end GatedPipeline
