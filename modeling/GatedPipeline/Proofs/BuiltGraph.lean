import GatedPipeline.JobGraph
import GatedPipeline.Proofs.Acyclicity
import Mathlib.Algebra.Ring.Nat
import Mathlib.Data.List.Nodup

namespace GatedPipeline.JobGraph

theorem bind_eq_ok {ε α β : Type} {x : Except ε α} {f : α → Except ε β} {b : β}
    (h : (x >>= f) = .ok b) : ∃ a, x = .ok a ∧ f a = .ok b := by
  cases x with
  | error e => simp [bind, Except.bind] at h
  | ok a => exact ⟨a, rfl, h⟩

theorem map_eq_ok {ε α β : Type} {f : α → β} {x : Except ε α} {b : β} (h : x.map f = .ok b) :
    ∃ a, x = .ok a ∧ b = f a := by
  cases x with
  | error e => cases h
  | ok a => exact ⟨a, rfl, (Except.ok.inj h).symm⟩

theorem mem_insertAscending (x y : Nat) (ys : List Nat) :
    y ∈ insertAscending x ys ↔ y = x ∨ y ∈ ys := by
  induction ys with
  | nil => simp [insertAscending]
  | cons z zs ih =>
    unfold insertAscending
    split
    · simp
    · split
      · rename_i he
        simp [he]
      · simp only [List.mem_cons, ih]
        rw [or_left_comm]

theorem ascending_insertAscending (x : Nat) {ys : List Nat} (h : ys.Pairwise (· < ·)) :
    (insertAscending x ys).Pairwise (· < ·) := by
  induction h with
  | nil => simp [insertAscending]
  | @cons z zs hz hzs ih =>
    unfold insertAscending
    split
    · rename_i hlt
      refine .cons ?_ (.cons hz hzs)
      intro y hy
      rcases List.mem_cons.mp hy with rfl | hy
      · exact hlt
      · exact Nat.lt_trans hlt (hz y hy)
    · split
      · exact .cons hz hzs
      · refine .cons ?_ ih
        intro y hy
        rcases (mem_insertAscending x y zs).mp hy with rfl | hy
        · omega
        · exact hz y hy

theorem foldl_insertAscending (is : List Nat) {acc : List Nat} (h : acc.Pairwise (· < ·)) :
    (is.foldl (fun acc i => insertAscending i acc) acc).Pairwise (· < ·) ∧
      ∀ y, y ∈ is.foldl (fun acc i => insertAscending i acc) acc ↔ y ∈ acc ∨ y ∈ is := by
  induction is generalizing acc with
  | nil => simp [h]
  | cons i is ih =>
    obtain ⟨hs, hm⟩ := ih (ascending_insertAscending i h)
    refine ⟨hs, fun y => ?_⟩
    rw [List.foldl_cons, hm, mem_insertAscending, List.mem_cons, or_comm (a := y = i), or_assoc]

/-- The dependencies ascend, and they are the instances of the jobs that are needed. -/
theorem dependenciesOf_spec {numbers : List (String × List Nat)} {job : String}
    {needs : List String} {ds : List Nat} (h : dependenciesOf numbers job needs = .ok ds) :
    ds.Pairwise (· < ·) ∧
      ∀ d, d ∈ ds ↔ ∃ need ∈ needs, ∃ is, numbers.lookup need = some is ∧ d ∈ is := by
  induction needs generalizing ds with
  | nil =>
    cases h
    simp
  | cons need rest ih =>
    unfold dependenciesOf at h
    cases hl : numbers.lookup need with
    | none => simp [hl] at h
    | some is =>
      rw [hl] at h
      obtain ⟨others, ho, he⟩ := bind_eq_ok h
      cases he
      obtain ⟨hs, hm⟩ := ih ho
      obtain ⟨hs', hm'⟩ := foldl_insertAscending is hs
      refine ⟨hs', fun d => ?_⟩
      rw [hm', hm]
      simp only [List.mem_cons, exists_eq_or_imp, hl, Option.some.injEq, exists_eq_left']
      exact or_comm

def instanceCount (js : List Job) : Nat := (js.map fun j => j.instanceIds.length).sum

theorem lt_of_mem_numbering {start : Nat} {js : List Job} {name : String} {is : List Nat}
    (h : (name, is) ∈ numbering start js) : ∀ i ∈ is, i < start + instanceCount js := by
  induction js generalizing start with
  | nil => simp [numbering] at h
  | cons j js ih =>
    intro i hi
    simp only [numbering, List.mem_cons, Prod.mk.injEq] at h
    simp only [instanceCount, List.map_cons, List.sum_cons]
    rcases h with ⟨_, rfl⟩ | h
    · have := (List.mem_range'_1.mp hi).2
      omega
    · have := ih h i hi
      simp only [instanceCount] at this
      omega

theorem lt_of_lookup_numbering {js : List Job} {name : String} {is : List Nat}
    (h : (numbering 0 js).lookup name = some is) : ∀ i ∈ is, i < instanceCount js := by
  obtain ⟨before, after, he, _⟩ := List.lookup_eq_some_iff.mp h
  intro i hi
  have := lt_of_mem_numbering (he ▸ by simp : (name, is) ∈ numbering 0 js) i hi
  omega

theorem parseConditions_jobs {js : List Job} {jobs : List (Job × Option Condition)}
    (h : parseConditions js = .ok jobs) : jobs.map Prod.fst = js := by
  induction js generalizing jobs with
  | nil =>
    cases h
    rfl
  | cons j js ih =>
    unfold parseConditions at h
    obtain ⟨c, _, h⟩ := bind_eq_ok h
    obtain ⟨rest, hr, h⟩ := bind_eq_ok h
    cases h
    simp [ih hr]

/-- The instances of the first job stand before those of the others. -/
theorem jobNodes_cons {numbers : List (String × List Nat)} {j : Job} {condition : Option Condition}
    {jobs : List (Job × Option Condition)} {nodes : List Instance}
    (h : jobNodes numbers ((j, condition) :: jobs) = .ok nodes) :
    ∃ dependencies others, dependenciesOf numbers j.name j.needs = .ok dependencies ∧
      jobNodes numbers jobs = .ok others ∧
      nodes = j.instanceIds.map (⟨·, j, condition, dependencies⟩) ++ others := by
  unfold jobNodes at h
  obtain ⟨dependencies, hd, h⟩ := bind_eq_ok h
  obtain ⟨others, ho, h⟩ := bind_eq_ok h
  exact ⟨dependencies, others, hd, ho, (Except.ok.inj h).symm⟩

theorem jobNodes_spec {numbers : List (String × List Nat)} {jobs : List (Job × Option Condition)}
    {nodes : List Instance} (h : jobNodes numbers jobs = .ok nodes) :
    nodes.length = instanceCount (jobs.map Prod.fst) ∧
      ∀ n ∈ nodes, ∃ p ∈ jobs, n.job = p.1 ∧ n.condition = p.2 ∧ n.id ∈ p.1.instanceIds ∧
        dependenciesOf numbers p.1.name p.1.needs = .ok n.dependencies := by
  induction jobs generalizing nodes with
  | nil =>
    cases h
    simp [instanceCount]
  | cons p jobs ih =>
    obtain ⟨j, condition⟩ := p
    obtain ⟨dependencies, others, hd, ho, rfl⟩ := jobNodes_cons h
    obtain ⟨hl, hn⟩ := ih ho
    constructor
    · simp only [List.length_append, List.length_map, hl, instanceCount, List.map_cons,
        List.sum_cons]
    · intro n hm
      rcases List.mem_append.mp hm with hm | hm
      · obtain ⟨id, hid, rfl⟩ := List.mem_map.mp hm
        exact ⟨(j, condition), by simp, rfl, rfl, hid, hd⟩
      · obtain ⟨p, hp, hrest⟩ := hn n hm
        exact ⟨p, List.mem_cons_of_mem _ hp, hrest⟩

/-- The instances of the graph are those of the jobs, each with the condition of its job and with
the dependencies that its job asks for. -/
def Assembled (p : Pipeline) (g : JobGraph) : Prop :=
  ∃ jobs, parseConditions p.jobs = .ok jobs ∧ jobNodes (numbering 0 p.jobs) jobs = .ok g.nodes

/-- A graph that has been built is assembled from its definition, and no cycle is found in it. -/
theorem build_stages {p : Pipeline} {g : JobGraph} (h : build p = .ok g) :
    Assembled p g ∧ Digraph.cycle? g.size g.dependencies = none := by
  unfold build at h
  split at h
  · simp at h
  · split at h
    · simp at h
    · obtain ⟨jobs, hj, h⟩ := bind_eq_ok h
      obtain ⟨nodes, hn, h⟩ := bind_eq_ok h
      dsimp only at h
      split at h
      · simp at h
      · rename_i hc
        cases h
        exact ⟨⟨jobs, hj, hn⟩, hc⟩

theorem build_of_stages {p : Pipeline} {g : JobGraph} {jobs : List (Job × Option Condition)}
    (hcheck : p.check = .ok ()) (hneeds : p.needsCycle? = none)
    (hjobs : parseConditions p.jobs = .ok jobs)
    (hnodes : jobNodes (numbering 0 p.jobs) jobs = .ok g.nodes)
    (hcycle : Digraph.cycle? g.size g.dependencies = none) : build p = .ok g := by
  rw [build, hcheck, hneeds, hjobs]
  simp only [bind, Except.bind, hnodes, hcycle]

/-- Every instance depends on instances of the graph, on each of them once, and there is no
infinite descent along dependencies. -/
structure Sound (g : JobGraph) : Prop where
  bounded : ∀ i, ∀ d ∈ g.dependencies i, d < g.size
  distinct : ∀ i, (g.dependencies i).Nodup
  founded : WellFounded fun d i => d ∈ g.dependencies i

theorem mem_nodes_of_node? {g : JobGraph} {i : Nat} {n : Instance} (h : g.node? i = some n) :
    n ∈ g.nodes := List.mem_of_getElem? h

theorem dependencies_of_node? {g : JobGraph} {i : Nat} {n : Instance} (h : g.node? i = some n) :
    g.dependencies i = n.dependencies := by
  simp [dependencies, h]

theorem node?_of_lt {g : JobGraph} {i : Nat} (h : i < g.size) : ∃ n, g.node? i = some n :=
  ⟨g.nodes[i], List.getElem?_eq_getElem h⟩

theorem lt_of_node? {g : JobGraph} {i : Nat} {n : Instance} (h : g.node? i = some n) :
    i < g.size := (List.getElem?_eq_some_iff.mp h).1

theorem mem_indices {g : JobGraph} {i : Nat} : i ∈ g.indices ↔ i < g.size := List.mem_range

theorem nodup_indices (g : JobGraph) : g.indices.Nodup := List.nodup_range

section Assembled

variable {p : Pipeline} {g : JobGraph} {i : Nat} {n : Instance}

/-- Each instance is one of a job of the definition, whose needs give its dependencies. -/
theorem Assembled.node (h : Assembled p g) (hn : g.node? i = some n) :
    n.job ∈ p.jobs ∧ n.id ∈ n.job.instanceIds ∧
      dependenciesOf (numbering 0 p.jobs) n.job.name n.job.needs = .ok n.dependencies := by
  obtain ⟨jobs, hj, hnodes⟩ := h
  obtain ⟨q, hq, he, _, hid, hd⟩ := (jobNodes_spec hnodes).2 n (mem_nodes_of_node? hn)
  rw [he]
  exact ⟨parseConditions_jobs hj ▸ List.mem_map_of_mem hq, hid, hd⟩

theorem Assembled.size (h : Assembled p g) : g.size = instanceCount p.jobs := by
  obtain ⟨jobs, hj, hnodes⟩ := h
  rw [← parseConditions_jobs hj]
  exact (jobNodes_spec hnodes).1

theorem Assembled.bounded (h : Assembled p g) : ∀ i, ∀ d ∈ g.dependencies i, d < g.size := by
  intro i d hd
  cases hn : g.node? i with
  | none => simp [dependencies, hn] at hd
  | some n =>
    rw [dependencies_of_node? hn] at hd
    obtain ⟨_, _, is, hlook, hmem⟩ := ((dependenciesOf_spec (h.node hn).2.2).2 d).mp hd
    rw [h.size]
    exact lt_of_lookup_numbering hlook d hmem

theorem Assembled.distinct (h : Assembled p g) (i : Nat) : (g.dependencies i).Nodup := by
  cases hn : g.node? i with
  | none => simp [dependencies, hn]
  | some n =>
    rw [dependencies_of_node? hn]
    exact (dependenciesOf_spec (h.node hn).2.2).1.imp Nat.ne_of_lt

end Assembled

theorem build_sound {p : Pipeline} {g : JobGraph} (h : build p = .ok g) : Sound g := by
  obtain ⟨ha, hc⟩ := build_stages h
  exact ⟨ha.bounded, ha.distinct, Digraph.founded_of_cycle?_eq_none ha.bounded hc⟩

/-- The jobs of the instances are those of the definition. -/
theorem job_mem_of_build {p : Pipeline} {g : JobGraph} (h : build p = .ok g) {i : Nat}
    {n : Instance} (hn : g.node? i = some n) : n.job ∈ p.jobs :=
  ((build_stages h).1.node hn).1

theorem lt_of_mem_dependencies {g : JobGraph} {i d : Nat} (h : d ∈ g.dependencies i) :
    i < g.size := by
  cases hi : g.node? i with
  | none => simp [dependencies, hi] at h
  | some n => exact lt_of_node? hi

theorem mem_dependents {g : JobGraph} {i d : Nat} : i ∈ g.dependents d ↔ d ∈ g.dependencies i := by
  unfold dependents
  rw [List.mem_filter, mem_indices, List.contains_iff_mem]
  exact ⟨And.right, fun h => ⟨lt_of_mem_dependencies h, h⟩⟩

theorem nodup_dependents (g : JobGraph) (d : Nat) : (g.dependents d).Nodup :=
  g.nodup_indices.filter _

def plainJob (name : String) (needs : List String) (condition : Option String) : Job :=
  ⟨name, none, needs, condition, none, [], [],
    [⟨"run", "make " ++ name, "bash", none, [], false, none⟩]⟩

def onTag : Condition := ⟨"event == 'tag_push'", .eq (.field .event) (.text "tag_push")⟩

def publishJob : Job :=
  { plainJob "publish" ["lint", "test"] (some onTag.source) with secrets := [.named "TOKEN"] }

/-- Four jobs: two need the first, and the last, which is for tags only and has a secret, needs
these two. -/
def diamond : Pipeline :=
  ⟨"diamond", none, [], [],
    [plainJob "build" [] none, plainJob "lint" ["build"] none, plainJob "test" ["build"] none,
      publishJob]⟩

def diamondGraph : JobGraph :=
  ⟨[⟨⟨"build", []⟩, plainJob "build" [] none, none, []⟩,
    ⟨⟨"lint", []⟩, plainJob "lint" ["build"] none, none, [0]⟩,
    ⟨⟨"test", []⟩, plainJob "test" ["build"] none, none, [0]⟩,
    ⟨⟨"publish", []⟩, publishJob, some onTag, [1, 2]⟩]⟩

theorem build_diamond : build diamond = .ok diamondGraph := by
  have hparse : Condition.parse onTag.source = .ok onTag := by decide +kernel
  have hjobs : parseConditions diamond.jobs =
      .ok (diamond.jobs.zip [none, none, none, some onTag]) := by
    simp only [diamond, parseConditions, parseCondition, plainJob, publishJob, hparse]
    rfl
  exact build_of_stages (by decide +kernel) (by decide +kernel) hjobs rfl (by decide +kernel)

end GatedPipeline.JobGraph
