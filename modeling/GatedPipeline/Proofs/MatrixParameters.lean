import GatedPipeline.Proofs.MatrixExpansion
import Mathlib.Data.List.Sort

namespace GatedPipeline

namespace Bindings

variable {α : Type} {pairs : List (String × α)} {name : String}

theorem get?_ofList_of_mem (h : (pairs.map Prod.fst).Nodup) {p : String × α} (hp : p ∈ pairs) :
    get? p.1 (ofList pairs) = some p.2 := by
  rw [get?_ofList, get?_reverse h]
  exact (get?_eq_some_iff_mem h).mpr hp

theorem isSome_get?_ofList_iff (h : (pairs.map Prod.fst).Nodup) :
    (get? name (ofList pairs)).isSome = true ↔ name ∈ pairs.map Prod.fst := by
  rw [get?_ofList, get?_reverse h]
  exact isSome_get?_iff name pairs

/-- A list that binds each name once is its names in their order, and the map. -/
theorem map_get?_ofList (h : (pairs.map Prod.fst).Nodup) :
    (pairs.map Prod.fst).map (fun n => (n, get? n (ofList pairs))) =
      pairs.map fun p => (p.1, some p.2) := by
  rw [List.map_map]
  apply List.map_congr_left
  intro p hp
  rw [Function.comp_apply, get?_ofList_of_mem h hp]

theorem eq_of_get?_ofList_eq {pairs' : List (String × α)} (h : (pairs.map Prod.fst).Nodup)
    (hnames : pairs.map Prod.fst = pairs'.map Prod.fst)
    (hvalues : ∀ n, get? n (ofList pairs) = get? n (ofList pairs')) : pairs = pairs' := by
  have hpairs := map_get?_ofList h
  have hpairs' := map_get?_ofList (hnames ▸ h)
  simp only [← hnames, ← hvalues] at hpairs'
  have hinjective : Function.Injective fun p : String × α => (p.1, some p.2) := by
    intro p q he
    obtain ⟨hname, hvalue⟩ := Prod.mk.inj he
    exact Prod.ext hname (Option.some.inj hvalue)
  exact hinjective.list_map (hpairs.symm.trans hpairs')

end Bindings

namespace Matrix

/-- Names of axes come first, in the order of the axes, and further names ascend behind them. -/
structure Ordered (axes names : List String) : Prop where
  split : names = axes.filter (· ∈ names) ++ names.filter (· ∉ axes)
  ascending : (names.filter (· ∉ axes)).Pairwise (· < ·)

/-- The axes have names of their own, and an inclusion is a mapping: so it is in a matrix that has
been read. -/
structure Mapped (m : Matrix) : Prop where
  axes : (m.axes.map Axis.name).Nodup
  inclusions : ∀ e ∈ m.inclusions, e.Ascending

variable {axes names names' : List String}

theorem ordered_self (axes : List String) : Ordered axes axes := by
  have hnone : axes.filter (· ∉ axes) = [] := by simp
  constructor
  · rw [hnone, List.append_nil]
    exact (List.filter_eq_self.mpr fun n hn => decide_eq_true hn).symm
  · rw [hnone]
    exact List.Pairwise.nil

theorem Ordered.nodup (h : Ordered axes names) (haxes : axes.Nodup) : names.Nodup := by
  rw [h.split]
  apply (haxes.filter _).append (h.ascending.imp String.ne_of_lt)
  intro n hn hn'
  have hmem : n ∈ axes := (List.mem_filter.mp hn).1
  exact of_decide_eq_true (List.mem_filter.mp hn').2 hmem

/-- The order leaves no choice: which names there are decides how they stand. -/
theorem Ordered.unique (h : Ordered axes names) (h' : Ordered axes names')
    (hsame : ∀ n, n ∈ names ↔ n ∈ names') : names = names' := by
  have hfirst : axes.filter (· ∈ names) = axes.filter (· ∈ names') := by
    apply List.filter_congr
    intro n _
    exact decide_eq_decide.mpr (hsame n)
  have hfurther : names.filter (· ∉ axes) = names'.filter (· ∉ axes) := by
    apply h.ascending.eq_of_mem_iff h'.ascending
    intro n
    rw [List.mem_filter, List.mem_filter, hsame n]
  rw [h.split, h'.split, hfirst, hfurther]

theorem names_of_mem_product {axes : List Axis} {d : Combination} (hd : d ∈ product axes) :
    d.map Prod.fst = axes.map Axis.name := by
  induction axes generalizing d with
  | nil =>
    rw [List.mem_singleton.mp hd]
    rfl
  | cons a rest ih =>
    obtain ⟨v, _, hd⟩ := List.mem_flatMap.mp hd
    obtain ⟨c, hc, rfl⟩ := List.mem_map.mp hd
    rw [List.map_cons, List.map_cons, ih hc]

variable {m : Matrix} {e : MatrixEntry} {d d' : Combination}

theorem Arranged.ordered (h : Arranged m e d) :
    Ordered (m.axes.map Axis.name) (d.map Prod.fst) := by
  obtain ⟨further, hnames, hascending, hfurther⟩ := h.names
  generalize m.axes.map Axis.name = axes at hnames hfurther ⊢
  generalize d.map Prod.fst = names at hnames ⊢
  have hbound : ∀ n ∈ axes, n ∈ names ↔ n ∈ e.names := by
    intro n hn
    rw [hnames, List.mem_append, List.mem_filter, decide_eq_true_eq, hfurther]
    exact ⟨fun h => h.elim And.right And.left, fun h => .inl ⟨hn, h⟩⟩
  have hfirst : axes.filter (· ∈ names) = axes.filter (· ∈ e.names) := by
    apply List.filter_congr
    intro n hn
    exact decide_eq_decide.mpr (hbound n hn)
  have hlast : names.filter (· ∉ axes) = further := by
    have hnone : (axes.filter (· ∈ e.names)).filter (· ∉ axes) = [] := by
      rw [List.filter_eq_nil_iff]
      intro n hn
      simpa using (List.mem_filter.mp hn).1
    rw [hnames, List.filter_append, hnone, List.nil_append, List.filter_eq_self]
    intro n hn
    exact decide_eq_true ((hfurther n).mp hn).2
  constructor
  · rw [hfirst, hlast]
    exact hnames
  · rw [hlast]
    exact hascending

theorem Mapped.ordered (h : m.Mapped) (hd : d ∈ m.combinations) :
    Ordered (m.axes.map Axis.name) (d.map Prod.fst) := by
  rcases mem_of_mem_gathered (mem_gathered_of_mem_combinations hd) with hproduct | ⟨e, he, rfl⟩
  · rw [names_of_mem_product hproduct]
    exact ordered_self _
  · exact (arranged_included (h.inclusions e he) m).ordered

theorem names_rendered (d : Combination) : (rendered d).map Prod.fst = d.map Prod.fst := by
  rw [rendered, List.map_map]
  rfl

theorem Mapped.nodup_names (h : m.Mapped) (hd : d ∈ m.combinations) :
    ((rendered d).map Prod.fst).Nodup := by
  rw [names_rendered]
  exact (h.ordered hd).nodup h.axes

/-- Combinations that bind the same names to the same texts are listed alike. -/
theorem Mapped.rendered_eq (h : m.Mapped) (hd : d ∈ m.combinations) (hd' : d' ∈ m.combinations)
    (hsame : ∀ n, (Bindings.ofList (rendered d)).get? n = (Bindings.ofList (rendered d')).get? n) :
    rendered d = rendered d' := by
  have hnodup := h.nodup_names hd
  have hnodup' := h.nodup_names hd'
  have hmem : ∀ n, n ∈ d.map Prod.fst ↔ n ∈ d'.map Prod.fst := by
    intro n
    rw [← names_rendered, ← names_rendered, ← Bindings.isSome_get?_ofList_iff hnodup,
      ← Bindings.isSome_get?_ofList_iff hnodup', hsame n]
  have hnames : (rendered d).map Prod.fst = (rendered d').map Prod.fst := by
    rw [names_rendered, names_rendered]
    exact (h.ordered hd).unique (h.ordered hd') hmem
  exact Bindings.eq_of_get?_ofList_eq hnodup hnames hsame

end Matrix

/-- The parameters of the two are different maps: there is a name that one of them does not bind, or
that they bind to different texts. -/
def InstanceId.BindsApart (id id' : InstanceId) : Prop :=
  ∃ name, (Bindings.ofList id.params).get? name ≠ (Bindings.ofList id'.params).get? name

namespace Job

variable {j : Job}

theorem nodup_names_of_mem_instanceIds (hmapped : ∀ m, j.matrix = some m → m.Mapped)
    {id : InstanceId} (hid : id ∈ j.instanceIds) : (id.params.map Prod.fst).Nodup := by
  unfold instanceIds at hid
  split at hid
  · rw [List.mem_singleton.mp hid]
    exact List.nodup_nil
  · rename_i m hm
    obtain ⟨d, hd, rfl⟩ := List.mem_map.mp hid
    exact (hmapped m hm).nodup_names hd

theorem pairwise_bindsApart (h : ∀ m, j.matrix = some m → m.WellFormed)
    (hmapped : ∀ m, j.matrix = some m → m.Mapped) :
    j.instanceIds.Pairwise InstanceId.BindsApart := by
  unfold instanceIds
  split
  · exact List.pairwise_singleton _ _
  · rename_i m hm
    rw [List.pairwise_map]
    have hnodup := List.pairwise_map.mp (Matrix.nodup_rendered_combinations (h m hm))
    apply hnodup.imp_of_mem
    intro d d' hd hd' hne
    by_contra hsame
    have hget := not_exists_not.mp hsame
    exact hne ((hmapped m hm).rendered_eq hd hd' hget)

end Job

namespace Pipeline

variable {p : Pipeline}

/-- In a definition that passes the check no two instances have the same identity, neither in the
whole nor, with the parameters read as a map, among those of one job. Reading them as a map loses
nothing: no name is bound twice. -/
theorem instances_bind_apart (h : p.check = .ok ())
    (hmapped : ∀ j ∈ p.jobs, ∀ m, j.matrix = some m → m.Mapped) :
    p.instanceIds.Nodup ∧
      (∀ id ∈ p.instanceIds, (id.params.map Prod.fst).Nodup) ∧
      (p.instanceIds.Pairwise fun id id' => id.job = id'.job → id.BindsApart id') ∧
      ∀ g, JobGraph.build p = .ok g → g.nodes.map (·.id) = p.instanceIds := by
  have hw := p.check_eq_ok_iff.mp h
  refine ⟨hw.nodup_instanceIds, ?_, ?_, ?_⟩
  · intro id hid
    obtain ⟨j, hj, hid⟩ := List.mem_flatMap.mp hid
    exact Job.nodup_names_of_mem_instanceIds (hmapped j hj) hid
  · refine List.pairwise_flatMap.mpr ⟨?_, ?_⟩
    · intro j hj
      apply (Job.pairwise_bindsApart (hw.jobs j hj).matrix (hmapped j hj)).imp
      intro id id' hapart _
      exact hapart
    · apply (List.pairwise_map.mp hw.distinct).imp
      intro j k hne id hid id' hid' hjob
      rw [Job.job_of_mem_instanceIds hid, Job.job_of_mem_instanceIds hid'] at hjob
      exact absurd hjob hne
  · intro g hg
    exact (JobGraph.build_stages hg).1.ids

/-- Two combinations of the axes, and inclusions that repeat one of them in other words, bind less
than the axes, and bind more. -/
def partialPlatforms : Matrix :=
  ⟨[⟨"os", [.str "linux", .str "mac"]⟩, ⟨"fast", [.bool true]⟩],
    [[("fast", .str "true"), ("os", .str "linux")], [("os", .str "linux")],
      [("arch", .ofNat 64), ("os", .str "linux")],
      [("arch", .str "arm"), ("fast", .bool true), ("os", .str "linux")]], []⟩

def tested : Pipeline :=
  ⟨"tested", none, [], [],
    [{ JobGraph.plainJob "test" [] none with matrix := some partialPlatforms },
      JobGraph.plainJob "publish" ["test"] none]⟩

theorem mapped_partialPlatforms : partialPlatforms.Mapped := by
  constructor
  · decide
  · unfold Bindings.Ascending
    decide +kernel

theorem instances_bind_apart_tested :
    tested.check = .ok () ∧ (∀ j ∈ tested.jobs, ∀ m, j.matrix = some m → m.Mapped) ∧
      (tested.instanceIds.Pairwise fun id id' => id.job = id'.job → id.BindsApart id') ∧
      tested.instanceIds = [⟨"test", [("os", "linux"), ("fast", "true")]⟩,
        ⟨"test", [("os", "mac"), ("fast", "true")]⟩, ⟨"test", [("os", "linux")]⟩,
        ⟨"test", [("os", "linux"), ("arch", "64")]⟩,
        ⟨"test", [("os", "linux"), ("fast", "true"), ("arch", "arm")]⟩, ⟨"publish", []⟩] := by
  have hcheck : tested.check = .ok () := by decide +kernel
  have hmapped : ∀ j ∈ tested.jobs, ∀ m, j.matrix = some m → m.Mapped := by
    intro j hj m hm
    rcases List.mem_cons.mp hj with rfl | hj
    · cases hm
      exact mapped_partialPlatforms
    · rw [List.mem_singleton.mp hj] at hm
      cases hm
  exact ⟨hcheck, hmapped, (instances_bind_apart hcheck hmapped).2.2.1, by decide +kernel⟩

end Pipeline

end GatedPipeline
