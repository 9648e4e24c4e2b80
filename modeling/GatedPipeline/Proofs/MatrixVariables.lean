import GatedPipeline.Proofs.EnvironmentLayers
import GatedPipeline.Proofs.MatrixParameters

namespace GatedPipeline

namespace Bindings

variable {α : Type u}

/-- The last of the pairs for a name is what the name is bound to. -/
theorem get?_insertAll_last {before after : List (String × α)} {name : String} {value : α}
    (h : name ∉ names after) (m : Bindings α) :
    get? name (m.insertAll (before ++ (name, value) :: after)) = some value := by
  have hafter : get? name after.reverse = none :=
    get?_eq_none_iff.mpr fun hmem => h (by simpa [names] using hmem)
  rw [get?_insertAll, List.reverse_append, List.reverse_cons, List.append_assoc, get?_append,
    hafter, Option.none_or]
  simp [get?]

/-- Nothing is lost of pairs that are bound one after another, if and only if pairs for one name
have one value. -/
theorem forall_get?_insertAll_iff (m : Bindings α) (pairs : List (String × α)) :
    (∀ p ∈ pairs, get? p.1 (m.insertAll pairs) = some p.2) ↔
      ∀ p ∈ pairs, ∀ q ∈ pairs, p.1 = q.1 → p.2 = q.2 := by
  constructor
  · intro h p hp q hq he
    have hsame := (h p hp).symm.trans (he ▸ h q hq)
    exact Option.some.inj hsame
  · intro h p hp
    -- some pair for the name is found, if not this one
    have hbound : p.1 ∈ names pairs.reverse :=
      List.mem_map_of_mem (List.mem_reverse.mpr hp)
    obtain ⟨value, hvalue⟩ := Option.isSome_iff_exists.mp ((isSome_get?_iff _ _).mpr hbound)
    rw [get?_insertAll, hvalue, Option.some_or]
    have hmem := List.mem_reverse.mp (mem_of_get? hvalue)
    exact congrArg some (h _ hmem p hp rfl)

end Bindings

namespace Matrix

variable {m : Matrix} {e : MatrixEntry} {d : Combination} {name : String}

/-- The names to which a matrix gives values: its axes, and what its inclusions bind. -/
def keys (m : Matrix) : List String :=
  m.axes.map Axis.name ++ m.inclusions.flatMap Bindings.names

theorem names_included_subset (m : Matrix) (e : MatrixEntry) :
    (m.included e).map Prod.fst ⊆ e.names := by
  intro name hname
  obtain ⟨q, hq, rfl⟩ := List.mem_map.mp hname
  rcases List.mem_append.mp hq with hq | hq
  · obtain ⟨a, _, hvalue⟩ := List.mem_filterMap.mp hq
    obtain ⟨v, hget, rfl⟩ := Option.map_eq_some_iff.mp hvalue
    exact (Bindings.isSome_get?_iff a.name e).mp (Option.isSome_iff_exists.mpr ⟨v, hget⟩)
  · exact List.mem_map_of_mem (List.mem_filter.mp hq).1

theorem mem_keys_of_mem_combinations (hd : d ∈ m.combinations) (hname : name ∈ d.map Prod.fst) :
    name ∈ m.keys := by
  rcases mem_of_mem_gathered (mem_gathered_of_mem_combinations hd) with hproduct | ⟨e, he, rfl⟩
  · rw [names_of_mem_product hproduct] at hname
    exact List.mem_append_left _ hname
  · exact List.mem_append_right _
      (List.mem_flatMap.mpr ⟨e, he, names_included_subset m e hname⟩)

end Matrix

/-- The parameters of an instance are named for keys of the matrix of its job. -/
theorem Job.mem_keys_of_mem_params {j : Job} {m : Matrix} (hm : j.matrix = some m)
    {id : InstanceId} (hid : id ∈ j.instanceIds) {q : String × String} (hq : q ∈ id.params) :
    q.1 ∈ m.keys := by
  rw [instanceIds, hm] at hid
  obtain ⟨d, hd, rfl⟩ := List.mem_map.mp hid
  refine Matrix.mem_keys_of_mem_combinations hd ?_
  rw [← Matrix.names_rendered]
  exact List.mem_map_of_mem hq

namespace RunContext

variable {c : RunContext} {n : Instance} {a b : String}

/-- What a variable keeps of a character of ASCII: no case, and an underscore for a dash. -/
def variableChar (ch : Char) : Char := if ch.toUpper == '-' then '_' else ch.toUpper

theorem toList_matrixVariable_of_ascii (h : ∀ ch ∈ a.toList, ch.toNat < 128) :
    (matrixVariable a).toList = "MATRIX_".toList ++ a.toList.map variableChar := by
  rw [matrixVariable, String.toList_append, String.toList_map, Text.toList_upperCase_of_ascii h,
    List.map_map]
  rfl

/-- Names of ASCII share a variable exactly if they differ in case and in dashes for underscores
alone. -/
theorem matrixVariable_eq_iff (ha : ∀ ch ∈ a.toList, ch.toNat < 128)
    (hb : ∀ ch ∈ b.toList, ch.toNat < 128) :
    matrixVariable a = matrixVariable b ↔ a.toList.map variableChar = b.toList.map variableChar := by
  rw [← String.toList_inj, toList_matrixVariable_of_ascii ha, toList_matrixVariable_of_ascii hb,
    List.append_right_inj]

theorem get?_baseEnv_last {before after : List (String × String)} {axis value : String}
    (h : n.id.params = before ++ (axis, value) :: after)
    (hafter : ∀ q ∈ after, matrixVariable q.1 ≠ matrixVariable axis) (c : RunContext) :
    (c.baseEnv n).get? (matrixVariable axis) = some value := by
  rw [baseEnv, h, List.map_append, List.map_cons]
  apply Bindings.get?_insertAll_last
  intro hmem
  rw [Bindings.names, List.map_map] at hmem
  obtain ⟨q, hq, hsame⟩ := List.mem_map.mp hmem
  exact hafter q hq hsame

theorem forall_get?_baseEnv_iff (c : RunContext) (n : Instance) :
    (∀ q ∈ n.id.params, (c.baseEnv n).get? (matrixVariable q.1) = some q.2) ↔
      ∀ q ∈ n.id.params, ∀ r ∈ n.id.params,
        matrixVariable q.1 = matrixVariable r.1 → q.2 = r.2 := by
  have hiff := Bindings.forall_get?_insertAll_iff
    (((Bindings.ofList (c.runVariables n.id)).insertAll c.pipelineEnv).insertAll n.job.env)
    (n.id.params.map fun q => (matrixVariable q.1, q.2))
  simp only [List.forall_mem_map] at hiff
  exact hiff

end RunContext

namespace JobGraph

open RunContext (matrixVariable)

variable {p : Pipeline} {g : JobGraph} {i : Nat} {n : Instance}

/-- The instances of a graph are found where their identities stand in the definition. -/
theorem exists_node_of_build (h : build p = .ok g) {id : InstanceId}
    (hid : p.instanceIds[i]? = some id) : ∃ n, g.node? i = some n ∧ n.id = id := by
  rw [← (build_stages h).1.ids, List.getElem?_map] at hid
  exact Option.map_eq_some_iff.mp hid

/-- The steps of an instance see a parameter in its variable if it is the last one that the variable
shows. They see all of them exactly if parameters with one variable have one value; so it is
wherever the keys of the matrix have variables of their own. -/
theorem matrix_values_shown (h : build p = .ok g)
    (hmapped : ∀ j ∈ p.jobs, ∀ m, j.matrix = some m → m.Mapped) (hn : g.node? i = some n)
    (c : RunContext) :
    (∀ before axis value after, n.id.params = before ++ (axis, value) :: after →
      (∀ q ∈ after, matrixVariable q.1 ≠ matrixVariable axis) →
        (c.baseEnv n).get? (matrixVariable axis) = some value) ∧
    ((∀ q ∈ n.id.params, (c.baseEnv n).get? (matrixVariable q.1) = some q.2) ↔
      ∀ q ∈ n.id.params, ∀ r ∈ n.id.params,
        matrixVariable q.1 = matrixVariable r.1 → q.2 = r.2) ∧
    ∀ m, n.job.matrix = some m →
      (∀ a ∈ m.keys, ∀ b ∈ m.keys, matrixVariable a = matrixVariable b → a = b) →
        ∀ q ∈ n.id.params, (c.baseEnv n).get? (matrixVariable q.1) = some q.2 := by
  obtain ⟨hj, hid, _⟩ := (build_stages h).1.node hn
  refine ⟨fun before axis value after hparams hafter =>
    RunContext.get?_baseEnv_last hparams hafter c, c.forall_get?_baseEnv_iff n, ?_⟩
  intro m hm hkeys
  have hnodup := Job.nodup_names_of_mem_instanceIds (hmapped n.job hj) hid
  have hmem : ∀ q ∈ n.id.params, q.1 ∈ m.keys := fun q hq => Job.mem_keys_of_mem_params hm hid hq
  refine (c.forall_get?_baseEnv_iff n).mpr fun q hq r hr hsame => ?_
  have hname : q.1 = r.1 := hkeys _ (hmem q hq) _ (hmem r hr) hsame
  exact congrArg Prod.snd (List.inj_on_of_nodup_map hnodup hq hr hname)

/-- Two axes and a further key whose variables differ. -/
def toolchainMatrix : Matrix :=
  ⟨[⟨"os", [.str "linux"]⟩, ⟨"rust-version", [.str "stable"]⟩],
    [[("OS-family", .str "unix"), ("os", .str "mac")]], []⟩

def toolchains : Pipeline :=
  ⟨"toolchains", none, [], [],
    [{ plainJob "test" [] none with matrix := some toolchainMatrix }]⟩

theorem matrix_values_shown_toolchains :
    ∃ g n, build toolchains = .ok g ∧ g.node? 1 = some n ∧
      n.id.params = [("os", "mac"), ("OS-family", "unix")] ∧
      ∀ c : RunContext, (c.baseEnv n).get? "MATRIX_OS" = some "mac" ∧
        (c.baseEnv n).get? "MATRIX_OS_FAMILY" = some "unix" := by
  obtain ⟨g, hbuild⟩ : ∃ g, build toolchains = .ok g := ⟨_, rfl⟩
  have hsecond : toolchains.instanceIds[1]? =
      some ⟨"test", [("os", "mac"), ("OS-family", "unix")]⟩ := by
    decide +kernel
  obtain ⟨n, hn, hid⟩ := exists_node_of_build hbuild hsecond
  have hmatrix : n.job.matrix = some toolchainMatrix := by
    rw [List.mem_singleton.mp (job_mem_of_build hbuild hn)]
  have hmapped : ∀ j ∈ toolchains.jobs, ∀ m, j.matrix = some m → m.Mapped := by
    intro j hj m hm
    rw [List.mem_singleton.mp hj] at hm
    cases hm
    exact ⟨by decide, by unfold Bindings.Ascending; decide⟩
  have hkeys : ∀ a ∈ toolchainMatrix.keys, ∀ b ∈ toolchainMatrix.keys,
      matrixVariable a = matrixVariable b → a = b := by
    decide +kernel
  refine ⟨g, n, hbuild, hn, by rw [hid], fun c => ?_⟩
  have hshown := (matrix_values_shown hbuild hmapped hn c).2.2 toolchainMatrix hmatrix hkeys
  have hos : matrixVariable "os" = "MATRIX_OS" := by decide +kernel
  have hfamily : matrixVariable "OS-family" = "MATRIX_OS_FAMILY" := by decide +kernel
  rw [hid, List.forall_mem_cons, List.forall_mem_singleton, hos, hfamily] at hshown
  exact hshown

/-- A definition that passes all checks, with two axes that differ in case alone. -/
def cased : Pipeline :=
  ⟨"cased", none, [], [],
    [{ plainJob "test" [] none with
        matrix := some ⟨[⟨"os", [.str "linux"]⟩, ⟨"OS", [.str "arm"]⟩], [], []⟩ }]⟩

/-- The variable that both axes are shown by has the value of the second: the steps never see that
of the first. -/
theorem matrix_value_hidden :
    cased.check = .ok () ∧ ∃ g n, build cased = .ok g ∧ g.node? 0 = some n ∧
      n.id.params = [("os", "linux"), ("OS", "arm")] ∧
      ∀ c : RunContext, (c.baseEnv n).get? (matrixVariable "os") = some "arm" := by
  obtain ⟨g, hbuild⟩ : ∃ g, build cased = .ok g := ⟨_, rfl⟩
  have hfirst : cased.instanceIds[0]? = some ⟨"test", [("os", "linux"), ("OS", "arm")]⟩ := by
    decide +kernel
  obtain ⟨n, hn, hid⟩ := exists_node_of_build hbuild hfirst
  refine ⟨by decide +kernel, g, n, hbuild, hn, by rw [hid], fun c => ?_⟩
  have hsame : matrixVariable "os" = matrixVariable "OS" :=
    (RunContext.matrixVariable_eq_iff (by simp) (by simp)).mpr (by decide)
  have hparams : n.id.params = [("os", "linux")] ++ ("OS", "arm") :: [] := by rw [hid]; rfl
  rw [hsame]
  exact RunContext.get?_baseEnv_last hparams (by simp) c

end JobGraph

end GatedPipeline
