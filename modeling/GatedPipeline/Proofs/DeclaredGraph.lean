import GatedPipeline.Proofs.Acceptance
import GatedPipeline.Proofs.TopologicalOrder

namespace GatedPipeline

namespace Job

/-- What the condition of the job is read as, if it has one that can be read. -/
def parsedCondition? (j : Job) : Option Condition :=
  j.condition.bind fun source => (Condition.parse source).toOption

def declared (j : Job) : List (InstanceId × Job × Option Condition) :=
  j.instanceIds.map fun id => (id, j, j.parsedCondition?)

end Job

namespace JobGraph

/-- The instances of the graph are those that the definition declares, and their dependencies are
the needs of their jobs. -/
structure Declared (p : Pipeline) (g : JobGraph) : Prop where
  conditions : ∀ j ∈ p.jobs, j.ConditionParses
  nodes : g.nodes.map Instance.declaration = p.jobs.flatMap Job.declared
  dependencies : ∀ i n, g.node? i = some n → ∀ d,
    d ∈ g.dependencies i ↔ ∃ m, g.node? d = some m ∧ m.job.name ∈ n.job.needs
  dependents : ∀ i d, i ∈ g.dependents d ↔ d ∈ g.dependencies i
  ascending : ∀ i, (g.dependencies i).Pairwise (· < ·) ∧ (g.dependents i).Pairwise (· < ·)
  instances : ∀ j ∈ p.jobs, (g.instancesOf j.name).map Instance.declaration = j.declared
  unknown : ∀ name, name ∉ p.jobs.map Job.name → g.instancesOf name = []
  /-- The numbers that the jobs got when they were expanded lead to their instances. -/
  numbered : ∀ name,
    g.instancesOf name = (((numbering 0 p.jobs).lookup name).getD []).filterMap g.node?
  acyclic : ∀ i, ¬ Relation.TransGen (fun i d => d ∈ g.dependencies i) i i
  ordered : ∃ order, g.order? = some order ∧ order.Perm g.indices ∧
    Digraph.SuccessorsFirst g.dependencies order

variable {p : Pipeline} {g : JobGraph} {numbers : List (String × List Nat)}
  {jobs : List (Job × Option Condition)} {nodes : List Instance}

theorem parseCondition_eq {j : Job} {c : Option Condition} (h : parseCondition j = .ok c) :
    j.ConditionParses ∧ c = j.parsedCondition? := by
  unfold parseCondition at h
  cases hcondition : j.condition with
  | none =>
    rw [hcondition] at h
    cases h
    refine ⟨?_, by rw [Job.parsedCondition?, hcondition]; rfl⟩
    intro source hsource
    cases hcondition.symm.trans hsource
  | some source =>
    rw [hcondition] at h
    cases hparse : Condition.parse source with
    | error e => simp [hparse] at h
    | ok parsed =>
      simp only [hparse] at h
      cases h
      refine ⟨?_, by rw [Job.parsedCondition?, hcondition, Option.bind_some, hparse]; rfl⟩
      intro source' hsource
      cases hcondition.symm.trans hsource
      exact ⟨parsed, hparse⟩

theorem parseConditions_eq {js : List Job} (h : parseConditions js = .ok jobs) :
    (∀ j ∈ js, j.ConditionParses) ∧ jobs = js.map fun j => (j, j.parsedCondition?) := by
  induction js generalizing jobs with
  | nil =>
    cases h
    exact ⟨List.forall_mem_nil _, rfl⟩
  | cons j js ih =>
    unfold parseConditions at h
    obtain ⟨c, hc, h⟩ := bind_eq_ok h
    obtain ⟨rest, hrest, h⟩ := bind_eq_ok h
    cases h
    obtain ⟨hparses, rfl⟩ := parseCondition_eq hc
    obtain ⟨hall, rfl⟩ := ih hrest
    exact ⟨List.forall_mem_cons.mpr ⟨hparses, hall⟩, rfl⟩

theorem Assembled.declaration (h : Assembled p g) :
    (∀ j ∈ p.jobs, j.ConditionParses) ∧
      g.nodes.map Instance.declaration = p.jobs.flatMap Job.declared := by
  obtain ⟨jobs, hjobs, hnodes⟩ := h
  obtain ⟨hparse, rfl⟩ := parseConditions_eq hjobs
  refine ⟨hparse, ?_⟩
  rw [declaration_jobNodes hnodes, List.flatMap_map]
  rfl

theorem filter_flatMap_declared (js : List Job) (name : String) :
    (js.flatMap Job.declared).filter (·.2.1.name == name) =
      (js.filter (·.name == name)).flatMap Job.declared := by
  induction js with
  | nil => rfl
  | cons j js ih =>
    rw [List.flatMap_cons, List.filter_append, ih]
    cases hname : j.name == name with
    | true =>
      rw [List.filter_cons, if_pos hname, List.flatMap_cons, List.filter_eq_self.mpr]
      intro t ht
      obtain ⟨id, _, rfl⟩ := List.mem_map.mp ht
      exact hname
    | false =>
      rw [List.filter_cons, if_neg (Bool.eq_false_iff.mp hname), List.filter_eq_nil_iff.mpr,
        List.nil_append]
      intro t ht
      obtain ⟨id, _, rfl⟩ := List.mem_map.mp ht
      exact Bool.eq_false_iff.mp hname

theorem declaration_instancesOf (h : Assembled p g) (name : String) :
    (g.instancesOf name).map Instance.declaration =
      (p.jobs.filter (·.name == name)).flatMap Job.declared := by
  rw [← filter_flatMap_declared, ← h.declaration.2, List.filter_map]
  rfl

theorem filter_name_eq_singleton {js : List Job} (hd : (js.map Job.name).Nodup) {j : Job}
    (hj : j ∈ js) : js.filter (·.name == j.name) = [j] := by
  obtain ⟨earlier, later, rfl⟩ := List.append_of_mem hj
  rw [List.map_append, List.map_cons] at hd
  obtain ⟨_, hlater, hapart⟩ := List.nodup_append.mp hd
  have hearlier : earlier.filter (·.name == j.name) = [] := by
    rw [List.filter_eq_nil_iff]
    intro k hk hname
    exact hapart k.name (List.mem_map_of_mem hk) j.name List.mem_cons_self (beq_iff_eq.mp hname)
  have hrest : later.filter (·.name == j.name) = [] := by
    rw [List.filter_eq_nil_iff]
    intro k hk hname
    exact (List.nodup_cons.mp hlater).1 (beq_iff_eq.mp hname ▸ List.mem_map_of_mem hk)
  rw [List.filter_append, hearlier, List.filter_cons, if_pos (beq_self_eq_true j.name), hrest]
  rfl

theorem instancesOf_eq_nil (h : Assembled p g) {name : String}
    (hname : name ∉ p.jobs.map Job.name) : g.instancesOf name = [] := by
  have hnone : p.jobs.filter (·.name == name) = [] := by
    rw [List.filter_eq_nil_iff]
    intro j hj hsame
    exact hname (beq_iff_eq.mp hsame ▸ List.mem_map_of_mem hj)
  rw [← List.map_eq_nil_iff (f := Instance.declaration), declaration_instancesOf h, hnone]
  rfl

/-- A block of a list is what stands at its places. -/
theorem filterMap_getElem?_range' {α : Type} (before block after : List α) :
    (List.range' before.length block.length).filterMap ((before ++ (block ++ after))[·]?) =
      block := by
  induction block generalizing before with
  | nil => rfl
  | cons b block ih =>
    have hfirst : (before ++ (b :: block ++ after))[before.length]? = some b := by
      rw [List.getElem?_append_right (Nat.le_refl before.length), Nat.sub_self]
      rfl
    have hrest := ih (before ++ [b])
    rw [List.length_append, List.length_singleton, List.append_assoc,
      List.singleton_append] at hrest
    rw [List.length_cons, List.range'_succ, List.filterMap_cons, hfirst]
    exact congrArg (b :: ·) hrest

/-- The numbers are counted from the instances that stand before those of the jobs. -/
theorem filterMap_numbering (h : jobNodes numbers jobs = .ok nodes)
    (hd : (jobs.map fun q => q.1.name).Nodup) (before : List Instance) (name : String) :
    (((numbering before.length (jobs.map Prod.fst)).lookup name).getD []).filterMap
        ((before ++ nodes)[·]?) =
      nodes.filter (·.job.name == name) := by
  induction jobs generalizing nodes before with
  | nil =>
    cases h
    rfl
  | cons q jobs ih =>
    obtain ⟨j, condition⟩ := q
    obtain ⟨dependencies, others, _, ho, rfl⟩ := jobNodes_cons h
    obtain ⟨hfirst, hrest⟩ := List.nodup_cons.mp hd
    generalize hb :
      j.instanceIds.map (⟨·, j, condition, dependencies⟩ : InstanceId → Instance) = block
    have hlength : block.length = j.instanceIds.length := by rw [← hb, List.length_map]
    have hblock : ∀ n ∈ block, n.job = j := by
      rw [← hb]
      intro n hn
      obtain ⟨id, _, rfl⟩ := List.mem_map.mp hn
      rfl
    rw [List.map_cons, numbering, ← hlength, List.lookup_cons, List.filter_append]
    -- The block is all that a job of this name has, and nothing of any other name.
    by_cases hname : name = j.name
    · have hall : block.filter (·.job.name == name) = block := by
        rw [List.filter_eq_self]
        intro n hn
        rw [hblock n hn, hname, beq_self_eq_true]
      have hothers : others.filter (·.job.name == name) = [] := by
        rw [List.filter_eq_nil_iff]
        intro n hn hjob
        obtain ⟨q, hq, he, _⟩ := (jobNodes_spec ho).2 n hn
        have hsame : q.1.name = j.name := by
          rw [← he, ← hname]
          exact beq_iff_eq.mp hjob
        exact hfirst (List.mem_map.mpr ⟨q, hq, hsame⟩)
      rw [hall, hothers, List.append_nil, beq_iff_eq.mpr hname]
      exact filterMap_getElem?_range' before block others
    · have hnone : block.filter (·.job.name == name) = [] := by
        rw [List.filter_eq_nil_iff]
        intro n hn hjob
        rw [hblock n hn] at hjob
        exact hname (beq_iff_eq.mp hjob).symm
      have hothers := ih ho hrest (before ++ block)
      rw [List.length_append, List.append_assoc] at hothers
      rw [hnone, List.nil_append, beq_eq_false_iff_ne.mpr hname]
      exact hothers

theorem Assembled.instancesOf_numbered (h : Assembled p g) (hd : (p.jobs.map Job.name).Nodup)
    (name : String) :
    g.instancesOf name = (((numbering 0 p.jobs).lookup name).getD []).filterMap g.node? := by
  obtain ⟨jobs, hjobs, hnodes⟩ := h
  have hfirst := parseConditions_jobs hjobs
  have hnames : (jobs.map fun q => q.1.name).Nodup := by
    rw [← hfirst, List.map_map] at hd
    exact hd
  have hnumbered := filterMap_numbering hnodes hnames [] name
  rw [hfirst] at hnumbered
  exact hnumbered.symm

theorem Assembled.ascending (h : Assembled p g) (i : Nat) :
    (g.dependencies i).Pairwise (· < ·) ∧ (g.dependents i).Pairwise (· < ·) := by
  constructor
  · cases hn : g.node? i with
    | none => simp [JobGraph.dependencies, hn]
    | some n =>
      rw [dependencies_of_node? hn]
      exact (dependenciesOf_spec (h.node hn).2.2).1
  · exact List.pairwise_lt_range.filter _

theorem declared_of_assembled (h : Assembled p g) (hw : p.WellFormed)
    (hcycle : Digraph.cycle? g.size g.dependencies = none) : Declared p g where
  conditions := h.declaration.1
  nodes := h.declaration.2
  dependencies := fun _ _ hn _ => mem_dependencies_iff h hw hn
  dependents := fun _ _ => mem_dependents
  ascending := h.ascending
  instances := by
    intro j hj
    rw [declaration_instancesOf h, filter_name_eq_singleton hw.distinct hj, List.flatMap_singleton]
  unknown := fun _ hname => instancesOf_eq_nil h hname
  numbered := h.instancesOf_numbered hw.distinct
  acyclic := (Digraph.cycle?_eq_none_iff h.bounded).mp hcycle
  ordered := Digraph.exists_order? h.bounded (Digraph.founded_of_cycle?_eq_none h.bounded hcycle)

/-- Every graph that is built has exactly the instances, the conditions and the dependencies that
its definition declares, and its instances can be gone through with dependencies first. -/
theorem built_graph_declared (h : build p = .ok g) : Declared p g := by
  obtain ⟨hassembled, hcycle⟩ := build_stages h
  exact declared_of_assembled hassembled (wellFormed_of_build h) hcycle

def matrixOf (values : List Json) : Matrix := ⟨[⟨"v", values⟩], [], []⟩

/-- Two instances, none, and one that needs the two twice. -/
def fannedIn : Pipeline :=
  ⟨"fanned in", none, [], [],
    [{ plainJob "build" [] none with matrix := some (matrixOf [.ofNat 1, .ofNat 2]) },
      { plainJob "extra" ["build"] none with matrix := some (matrixOf []) },
      { publishJob with needs := ["build", "extra", "build"] }]⟩

def fannedInGraph : JobGraph :=
  let build := { plainJob "build" [] none with matrix := some (matrixOf [.ofNat 1, .ofNat 2]) }
  let publish := { publishJob with needs := ["build", "extra", "build"] }
  ⟨[⟨⟨"build", [("v", "1")]⟩, build, none, []⟩, ⟨⟨"build", [("v", "2")]⟩, build, none, []⟩,
    ⟨⟨"publish", []⟩, publish, some onTag, [0, 1]⟩]⟩

theorem built_graph_declared_fannedIn :
    build fannedIn = .ok fannedInGraph ∧ Declared fannedIn fannedInGraph ∧
      fannedInGraph.dependencies 2 = [0, 1] ∧ fannedInGraph.dependents 0 = [2] ∧
      (fannedInGraph.instancesOf "extra").map Instance.id = [] ∧
      fannedInGraph.order? = some [0, 1, 2] := by
  have hparse : Condition.parse onTag.source = .ok onTag := by decide +kernel
  have hjobs : parseConditions fannedIn.jobs =
      .ok (fannedIn.jobs.zip [none, none, some onTag]) := by
    simp only [fannedIn, parseConditions, parseCondition, plainJob, publishJob, hparse]
    rfl
  have hbuild : build fannedIn = .ok fannedInGraph :=
    build_of_stages (by decide +kernel) (by decide +kernel) hjobs rfl (by decide +kernel)
  exact ⟨hbuild, built_graph_declared hbuild, by decide +kernel, by decide +kernel,
    by decide +kernel, by decide +kernel⟩

end JobGraph

end GatedPipeline
