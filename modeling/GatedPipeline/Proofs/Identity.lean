import GatedPipeline.Proofs.BuiltGraph
import GatedPipeline.Proofs.WellFormed

namespace GatedPipeline

namespace Matrix

theorem rendered_cons (p : String × Json) (c : Combination) :
    rendered (p :: c) = (p.1, valueText p.2) :: rendered c := rfl

theorem nodup_rendered_product {axes : List Axis} (h : Distinct axes) :
    ((product axes).map rendered).Nodup := by
  induction axes with
  | nil => exact List.nodup_singleton _
  | cons a rest ih =>
    have hrest := ih fun b hb => h b (List.mem_cons_of_mem a hb)
    rw [product, List.map_flatMap, List.nodup_flatMap]
    -- With the same first value combinations differ further on; otherwise they differ at once.
    refine ⟨fun v _ => ?_, ?_⟩
    · have hcons : ((product rest).map ((a.name, v) :: ·)).map rendered =
          ((product rest).map rendered).map ((a.name, valueText v) :: ·) := by
        rw [List.map_map, List.map_map]
        rfl
      rw [hcons]
      exact hrest.map fun c d he => (List.cons.inj he).2
    · refine (List.pairwise_map.mp (h a List.mem_cons_self)).imp fun {v w} hne c hc hc' => hne ?_
      simp only [List.map_map, List.mem_map, Function.comp_apply, rendered_cons] at hc hc'
      obtain ⟨d, _, rfl⟩ := hc
      obtain ⟨d', _, he⟩ := hc'
      exact (Prod.mk.inj (List.cons.inj he).1).2.symm

theorem appendNew_eq (cs : List Combination) (d : Combination) :
    appendNew cs d = if rendered d ∈ cs.map rendered then cs else cs ++ [d] := by
  simp [appendNew]

theorem nodup_rendered_appendNew {cs : List Combination} (h : (cs.map rendered).Nodup)
    (c : Combination) : ((appendNew cs c).map rendered).Nodup := by
  rw [appendNew_eq]
  split
  · exact h
  · rename_i hnew
    rw [List.map_append]
    exact h.append (List.nodup_singleton _) fun texts htexts hlast =>
      hnew (List.mem_singleton.mp hlast ▸ htexts)

theorem nodup_rendered_foldl_appendNew (included : List Combination) {cs : List Combination}
    (h : (cs.map rendered).Nodup) : ((included.foldl appendNew cs).map rendered).Nodup := by
  induction included generalizing cs with
  | nil => exact h
  | cons c included ih => exact ih (nodup_rendered_appendNew h c)

/-- No two combinations have the same texts. -/
theorem nodup_rendered_combinations {m : Matrix} (h : m.WellFormed) :
    (m.combinations.map rendered).Nodup :=
  (nodup_rendered_foldl_appendNew _ (nodup_rendered_product h.distinct)).sublist
    (List.filter_sublist.map rendered)

end Matrix

namespace Job

theorem job_of_mem_instanceIds {j : Job} {id : InstanceId} (h : id ∈ j.instanceIds) :
    id.job = j.name := by
  unfold instanceIds at h
  split at h
  · rw [List.mem_singleton.mp h]
  · obtain ⟨c, _, rfl⟩ := List.mem_map.mp h
    rfl

theorem instanceIds_eq_map {j : Job} {m : Matrix} (h : j.matrix = some m) :
    j.instanceIds = (m.combinations.map Matrix.rendered).map (InstanceId.mk j.name) := by
  rw [instanceIds, h, List.map_map]
  rfl

theorem mk_injective (name : String) : Function.Injective (InstanceId.mk name) :=
  fun _ _ he => (InstanceId.mk.inj he).2

theorem nodup_instanceIds {j : Job} (h : ∀ m, j.matrix = some m → m.WellFormed) :
    j.instanceIds.Nodup := by
  cases hm : j.matrix with
  | none =>
    rw [instanceIds, hm]
    exact List.nodup_singleton _
  | some m =>
    rw [instanceIds_eq_map hm]
    exact (Matrix.nodup_rendered_combinations (h m hm)).map (mk_injective j.name)

end Job

namespace Pipeline

variable {p : Pipeline}

def instanceIds (p : Pipeline) : List InstanceId := p.jobs.flatMap Job.instanceIds

theorem WellFormed.nodup_instanceIds (h : p.WellFormed) : p.instanceIds.Nodup := by
  refine List.nodup_flatMap.mpr ⟨fun j hj => Job.nodup_instanceIds (h.jobs j hj).matrix, ?_⟩
  refine (List.pairwise_map.mp h.distinct).imp fun {j k} hne id hid hid' => hne ?_
  rw [← Job.job_of_mem_instanceIds hid, ← Job.job_of_mem_instanceIds hid']

end Pipeline

def Instance.declaration (n : Instance) : InstanceId × Job × Option Condition :=
  (n.id, n.job, n.condition)

namespace JobGraph

variable {p : Pipeline} {g : JobGraph}

theorem wellFormed_of_build (h : build p = .ok g) : p.WellFormed := by
  unfold build at h
  split at h
  · cases h
  · rename_i hcheck
    exact p.check_eq_ok_iff.mp hcheck

theorem declaration_jobNodes {numbers : List (String × List Nat)}
    {jobs : List (Job × Option Condition)} {nodes : List Instance}
    (h : jobNodes numbers jobs = .ok nodes) :
    nodes.map Instance.declaration =
      jobs.flatMap fun q => q.1.instanceIds.map fun id => (id, q.1, q.2) := by
  induction jobs generalizing nodes with
  | nil =>
    cases h
    rfl
  | cons q jobs ih =>
    obtain ⟨j, condition⟩ := q
    obtain ⟨dependencies, others, _, ho, rfl⟩ := jobNodes_cons h
    rw [List.map_append, ih ho, List.map_map, List.flatMap_cons]
    rfl

theorem ids_jobNodes {numbers : List (String × List Nat)} {jobs : List (Job × Option Condition)}
    {nodes : List Instance} (h : jobNodes numbers jobs = .ok nodes) :
    nodes.map (·.id) = (jobs.map Prod.fst).flatMap Job.instanceIds := by
  have hids := congrArg (List.map Prod.fst) (declaration_jobNodes h)
  rw [List.map_map, List.map_flatMap] at hids
  simp only [List.map_map, Function.comp_def, Instance.declaration, List.map_id'] at hids
  rw [hids, List.flatMap_map]

theorem Assembled.ids (h : Assembled p g) : g.nodes.map (·.id) = p.instanceIds := by
  obtain ⟨jobs, hj, hn⟩ := h
  rw [ids_jobNodes hn, parseConditions_jobs hj, Pipeline.instanceIds]

/-- No two instances of a graph have the same identity. -/
theorem nodup_ids_of_build (h : build p = .ok g) : (g.nodes.map (·.id)).Nodup := by
  rw [(build_stages h).1.ids]
  exact (wellFormed_of_build h).nodup_instanceIds

theorem Assembled.job_id (h : Assembled p g) {i : Nat} {n : Instance} (hn : g.node? i = some n) :
    n.id.job = n.job.name :=
  Job.job_of_mem_instanceIds (h.node hn).2.1

end JobGraph

end GatedPipeline
