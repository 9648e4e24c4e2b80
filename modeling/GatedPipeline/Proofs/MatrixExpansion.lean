import GatedPipeline.Definition.Schema
import GatedPipeline.Proofs.Identity
import Mathlib.Algebra.BigOperators.Ring.List
import Mathlib.Algebra.GroupWithZero.Nat

namespace GatedPipeline.Matrix

def count (axes : List Axis) : Nat := (axes.map (·.values.length)).prod

/-- Each axis is bound to the value that its digit of the place numbers. The first axis has the
highest digit: a step of it is as long as all axes behind it together. -/
structure BoundAt (axes : List Axis) (place : Nat) (d : Combination) : Prop where
  length : d.length = axes.length
  digit : ∀ i a, axes[i]? = some a → ∃ v,
    a.values[place / count (axes.drop (i + 1)) % a.values.length]? = some v ∧
      d[i]? = some (a.name, v)

@[simp] theorem count_nil : count [] = 1 := rfl

@[simp] theorem count_cons (a : Axis) (rest : List Axis) :
    count (a :: rest) = a.values.length * count rest := List.prod_cons

theorem count_append (first rest : List Axis) :
    count (first ++ rest) = count first * count rest := by
  rw [count, List.map_append, List.prod_append, count, count]

theorem count_eq_zero_iff (axes : List Axis) : count axes = 0 ↔ ∃ a ∈ axes, a.values = [] := by
  simp [count, List.prod_eq_zero_iff]

theorem length_product (axes : List Axis) : (product axes).length = count axes := by
  induction axes with
  | nil => rfl
  | cons a rest ih =>
    rw [product, List.length_flatMap]
    simp only [List.length_map, ih, List.map_const', List.sum_replicate, count_cons]
    rfl

/-- In parts of one length `n` the place `k` is place `k % n` of part `k / n`. -/
theorem getElem?_flatMap_of_length_eq {α β : Type*} {f : α → List β} {n : Nat} (hn : 0 < n)
    {l : List α} (h : ∀ a ∈ l, (f a).length = n) (k : Nat) :
    (l.flatMap f)[k]? = l[k / n]?.bind fun a => (f a)[k % n]? := by
  induction l generalizing k with
  | nil => rfl
  | cons a l ih =>
    have hfirst := h a List.mem_cons_self
    rw [List.flatMap_cons]
    by_cases hk : k < n
    · rw [List.getElem?_append_left (hfirst.symm ▸ hk), Nat.div_eq_of_lt hk, Nat.mod_eq_of_lt hk]
      rfl
    · have hle : n ≤ k := Nat.le_of_not_lt hk
      rw [List.getElem?_append_right (hfirst.symm ▸ hle), hfirst,
        ih (fun b hb => h b (List.mem_cons_of_mem a hb)), Nat.div_eq_sub_div hn hle,
        Nat.mod_eq_sub_mod hle]
      rfl

variable {axes : List Axis} {a : Axis} {i place : Nat} {d d' : Combination}

/-- A whole number of steps of an axis fits into a step of the axes from it on. -/
theorem exists_count_eq (h : axes[i]? = some a) :
    ∃ m, a.values.length ∣ m ∧ count axes = m * count (axes.drop (i + 1)) := by
  obtain ⟨hi, rfl⟩ := List.getElem?_eq_some_iff.mp h
  refine ⟨count (axes.take i) * axes[i].values.length, Dvd.intro_left _ rfl, ?_⟩
  conv_lhs => rw [← List.take_append_drop i axes, List.drop_eq_getElem_cons hi]
  rw [count_append, count_cons, Nat.mul_assoc]

/-- The digits of the axes do not depend on what is above them. -/
theorem digit_mod (h : axes[i]? = some a) (place : Nat) :
    place % count axes / count (axes.drop (i + 1)) % a.values.length =
      place / count (axes.drop (i + 1)) % a.values.length := by
  obtain ⟨m, hdvd, hcount⟩ := exists_count_eq h
  rw [hcount, Nat.mod_mul_left_div_self, Nat.mod_mod_of_dvd _ hdvd]

theorem BoundAt.cons {v : Json} (hv : a.values[place / count axes]? = some v)
    (h : BoundAt axes (place % count axes) d) : BoundAt (a :: axes) place ((a.name, v) :: d) where
  length := congrArg (· + 1) h.length
  digit i b hb := by
    cases i with
    | zero =>
      obtain rfl := Option.some.inj hb
      obtain ⟨hlt, _⟩ := List.getElem?_eq_some_iff.mp hv
      refine ⟨v, ?_, rfl⟩
      rw [List.drop_one, List.tail_cons, Nat.mod_eq_of_lt hlt]
      exact hv
    | succ i =>
      rw [List.getElem?_cons_succ] at hb
      obtain ⟨w, hw, hd⟩ := h.digit i b hb
      rw [digit_mod hb] at hw
      exact ⟨w, hw, hd⟩

/-- The digits leave no choice. -/
theorem BoundAt.unique (h : BoundAt axes place d) (h' : BoundAt axes place d') : d = d' := by
  refine List.ext_getElem? fun i => ?_
  cases ha : axes[i]? with
  | none =>
    have hlen := List.getElem?_eq_none_iff.mp ha
    rw [List.getElem?_eq_none (h.length ▸ hlen), List.getElem?_eq_none (h'.length ▸ hlen)]
  | some a =>
    obtain ⟨v, hv, hd⟩ := h.digit i a ha
    obtain ⟨w, hw, hd'⟩ := h'.digit i a ha
    rw [hd, hd', Option.some.inj (hv.symm.trans hw)]

theorem boundAt_of_getElem?_product (h : (product axes)[place]? = some d) :
    BoundAt axes place d := by
  induction axes generalizing place d with
  | nil =>
    obtain ⟨_, rfl⟩ := List.mem_singleton.mp (List.mem_of_getElem? h)
    exact ⟨rfl, fun i a ha => by cases ha⟩
  | cons a rest ih =>
    have hlt : place < count (a :: rest) := by
      rw [← length_product]
      exact (List.getElem?_eq_some_iff.mp h).1
    have hpos : 0 < count rest := by
      rw [count_cons] at hlt
      exact Nat.pos_of_mul_pos_left (Nat.zero_lt_of_lt hlt)
    rw [product, getElem?_flatMap_of_length_eq hpos
      fun v _ => (List.length_map _).trans (length_product rest)] at h
    obtain ⟨v, hv, h⟩ := Option.bind_eq_some_iff.mp h
    rw [List.getElem?_map] at h
    obtain ⟨d, hrest, rfl⟩ := Option.map_eq_some_iff.mp h
    exact .cons hv (ih hrest)

/-- At each place of the product stands the one combination of its digits. -/
theorem getElem?_product_iff (h : place < count axes) :
    (product axes)[place]? = some d ↔ BoundAt axes place d := by
  refine ⟨boundAt_of_getElem?_product, fun hd => ?_⟩
  have hlt : place < (product axes).length := (length_product axes).symm ▸ h
  have hthere := List.getElem?_eq_getElem hlt
  rw [hthere, (boundAt_of_getElem?_product hthere).unique hd]

end GatedPipeline.Matrix

namespace GatedPipeline

namespace Schema

/-- Entries of a matrix that is read are mappings: their names are written once and ascend. -/
theorem ascending_of_bindings? {j : Json} {e : MatrixEntry} (h : Json.bindings? some j = some e) :
    e.Ascending := by
  obtain ⟨members, _, h⟩ := Option.bind_eq_some_iff.mp h
  obtain ⟨pairs, _, rfl⟩ := Option.map_eq_some_iff.mp h
  exact Bindings.ascending_ofList pairs

theorem ascending_of_listOf? {j : Json} {es : List MatrixEntry}
    (h : Json.listOf? (Json.bindings? some) j = some es) : ∀ e ∈ es, e.Ascending := by
  simp only [Json.listOf?, Option.bind_eq_some_iff] at h
  obtain ⟨items, -, h⟩ := h
  induction items generalizing es with
  | nil =>
    cases h
    exact List.forall_mem_nil _
  | cons item items ih =>
    rw [List.mapM_cons] at h
    obtain ⟨e, he, h⟩ := Option.bind_eq_some_iff.mp h
    obtain ⟨others, hothers, h⟩ := Option.bind_eq_some_iff.mp h
    cases h
    exact List.forall_mem_cons.mpr ⟨ascending_of_bindings? he, ih hothers⟩

theorem ascending_of_matrix {j : Json} {m : Matrix} (h : matrix j = some m) :
    (∀ e ∈ m.inclusions, e.Ascending) ∧ ∀ e ∈ m.exclusions, e.Ascending := by
  have hentries : ∀ (a : Option Json) (es : List MatrixEntry),
      Record.defaulted (Json.listOf? (Json.bindings? some)) [] a = some es →
        ∀ e ∈ es, e.Ascending := by
    rintro (_ | j) es h
    · cases h
      exact List.forall_mem_nil _
    · exact ascending_of_listOf? h
  obtain ⟨record, _, h⟩ := Option.bind_eq_some_iff.mp h
  obtain ⟨field, _, h⟩ := Option.bind_eq_some_iff.mp h
  obtain ⟨axes, _, h⟩ := Option.bind_eq_some_iff.mp h
  obtain ⟨inclusions, hin, h⟩ := Option.bind_eq_some_iff.mp h
  obtain ⟨exclusions, hex, h⟩ := Option.bind_eq_some_iff.mp h
  cases h
  exact ⟨hentries _ _ hin, hentries _ _ hex⟩

end Schema

namespace Matrix

/-- The combination binds what the entry binds: first the names of axes, in the order of the axes,
then the further names in ascending order. -/
structure Arranged (m : Matrix) (e : MatrixEntry) (d : Combination) : Prop where
  names : ∃ further, d.map Prod.fst = (m.axes.map Axis.name).filter (· ∈ e.names) ++ further ∧
    further.Pairwise (· < ·) ∧ ∀ n, n ∈ further ↔ n ∈ e.names ∧ n ∉ m.axes.map Axis.name
  values : ∀ p ∈ d, e.get? p.1 = some p.2

/-- The combinations that come up: those of the product by their places, then the included ones. -/
structure Candidates (m : Matrix) (all : List Combination) : Prop where
  length : all.length = count m.axes + m.inclusions.length
  product : ∀ k < count m.axes, ∀ d, all[k]? = some d ↔ BoundAt m.axes k d
  included : ∀ k e, m.inclusions[k]? = some e →
    ∃ d, all[count m.axes + k]? = some d ∧ Arranged m e d

/-- Each name of the entry is bound in the combination to an equal value, or to one of the same
text. -/
def Matches (e : MatrixEntry) (d : Combination) : Prop :=
  ∀ p ∈ e, ∃ q ∈ d, q.1 = p.1 ∧ (q.2.same p.2 = true ∨ valueText q.2 = valueText p.2)

/-- A combination with its place is one of the first `n`, or none before it has the same texts. -/
def IsNew (n : Nat) (all : List Combination) (p : Combination × Nat) : Prop :=
  n ≤ p.2 → ∀ d ∈ all.take p.2, rendered d ≠ rendered p.1

/-- A combination with its place stays: it is of the product or new, and no exclusion matches it. -/
structure Stays (m : Matrix) (all : List Combination) (p : Combination × Nat) : Prop where
  isNew : IsNew (count m.axes) all p
  kept : ∀ e ∈ m.exclusions, ¬ Matches e p.1

instance (e : MatrixEntry) (d : Combination) : Decidable (Matches e d) :=
  inferInstanceAs (Decidable (∀ p ∈ e, ∃ q ∈ d, _))

instance (n : Nat) (all : List Combination) : DecidablePred (IsNew n all) := fun p =>
  inferInstanceAs (Decidable (n ≤ p.2 → ∀ d ∈ all.take p.2, rendered d ≠ rendered p.1))

theorem stays_iff (m : Matrix) (all : List Combination) (p : Combination × Nat) :
    m.Stays all p ↔ IsNew (count m.axes) all p ∧ ∀ e ∈ m.exclusions, ¬ Matches e p.1 :=
  ⟨fun h => ⟨h.isNew, h.kept⟩, fun h => ⟨h.1, h.2⟩⟩

instance (m : Matrix) (all : List Combination) : DecidablePred (m.Stays all) := fun p =>
  decidable_of_iff _ (m.stays_iff all p).symm

/-- The combinations of the axes and those that are included, before any is left out. -/
def gathered (m : Matrix) : List Combination :=
  (m.inclusions.map m.included).foldl appendNew (product m.axes)

variable {m : Matrix} {e : MatrixEntry}

theorem excludedBy_iff (d : Combination) (e : MatrixEntry) :
    excludedBy d e = true ↔ Matches e d := by
  simp [excludedBy, Matches, sameScalar]

/-- The names of axes that an entry binds, with what it binds them to. -/
theorem names_filterMap_get? (axes : List Axis) (e : MatrixEntry) :
    (axes.filterMap fun a => (e.get? a.name).map (a.name, ·)).map Prod.fst =
      (axes.map Axis.name).filter (· ∈ e.names) := by
  induction axes with
  | nil => rfl
  | cons a rest ih =>
    have hbound := Bindings.isSome_get?_iff a.name e
    cases hv : e.get? a.name <;> simp [hv, ih, ← hbound]

theorem arranged_included (h : e.Ascending) (m : Matrix) : Arranged m e (m.included e) where
  names := by
    refine ⟨(e.filter fun p => (m.axis? p.1).isNone).map Prod.fst, ?_, ?_, fun n => ?_⟩
    · rw [included, List.map_append, names_filterMap_get?]
    · exact h.sublist (List.filter_sublist.map Prod.fst)
    · simp only [List.mem_map, List.mem_filter, isNone_axis?_iff, Bindings.names]
      grind
  values p hp := by
    rcases List.mem_append.mp hp with hp | hp
    · obtain ⟨a, _, hp⟩ := List.mem_filterMap.mp hp
      obtain ⟨v, hv, rfl⟩ := Option.map_eq_some_iff.mp hp
      exact hv
    · exact h.get?_of_mem (List.mem_filter.mp hp).1

theorem candidates_of_ascending (h : ∀ e ∈ m.inclusions, e.Ascending) :
    m.Candidates (product m.axes ++ m.inclusions.map m.included) where
  length := by rw [List.length_append, length_product, List.length_map]
  product k hk d := by
    rw [List.getElem?_append_left ((length_product m.axes).symm ▸ hk), getElem?_product_iff hk]
  included k e he := by
    refine ⟨m.included e, ?_, arranged_included (h e (List.mem_of_getElem? he)) m⟩
    rw [← length_product, List.getElem?_append_right (Nat.le_add_right _ _),
      Nat.add_sub_cancel_left, List.getElem?_map, he]
    rfl

theorem mem_rendered_appendNew (cs : List Combination) (d : Combination)
    (texts : List (String × String)) :
    texts ∈ (appendNew cs d).map rendered ↔ texts ∈ cs.map rendered ∨ texts = rendered d := by
  rw [appendNew_eq]
  split
  · rename_i hd
    exact ⟨.inl, fun h => h.elim id (· ▸ hd)⟩
  · simp

/-- What is passed over has the texts of something that is there. -/
theorem mem_rendered_foldl_appendNew (included cs : List Combination)
    (texts : List (String × String)) :
    texts ∈ (included.foldl appendNew cs).map rendered ↔ texts ∈ (cs ++ included).map rendered := by
  induction included generalizing cs with
  | nil => rw [List.foldl_nil, List.append_nil]
  | cons d included ih =>
    rw [List.foldl_cons, ih]
    simp only [List.map_append, List.mem_append, mem_rendered_appendNew, List.map_cons,
      List.mem_cons, or_assoc]

/-- Nothing that comes after a combination decides whether it is new. -/
theorem isNew_append {n : Nat} {all : List Combination} {p : Combination × Nat}
    (h : p ∈ all.zipIdx) (more : List Combination) :
    IsNew n (all ++ more) p ↔ IsNew n all p := by
  have hlt : p.2 < all.length := by
    rw [← Nat.zero_add all.length]
    exact (List.mem_zipIdx h).2.1
  rw [IsNew, List.take_append_of_le_length (Nat.le_of_lt hlt), IsNew]

theorem isNew_last {n : Nat} {all : List Combination} (h : n ≤ all.length) (d : Combination) :
    IsNew n (all ++ [d]) (d, all.length) ↔ rendered d ∉ all.map rendered := by
  simp [IsNew, h, eq_comm]

theorem foldl_appendNew (cs included : List Combination) :
    included.foldl appendNew cs =
      ((cs ++ included).zipIdx.filter (IsNew cs.length (cs ++ included))).map Prod.fst := by
  induction included using List.reverseRecOn with
  | nil =>
    have hfirst : ∀ p ∈ cs.zipIdx, decide (IsNew cs.length cs p) = true := fun p hp =>
      decide_eq_true fun hle => by
        have hlt := (List.mem_zipIdx hp).2.1
        omega
    rw [List.foldl_nil, List.append_nil, List.filter_eq_self.mpr hfirst, List.zipIdx_map_fst]
  | append_singleton included d ih =>
    have htexts := mem_rendered_foldl_appendNew included cs (rendered d)
    have hlast := isNew_last (List.length_append ▸ Nat.le_add_right cs.length included.length) d
    rw [List.foldl_append, List.foldl_cons, List.foldl_nil, appendNew_eq, ← List.append_assoc]
    generalize cs ++ included = all at ih htexts hlast ⊢
    have hsame : ∀ p ∈ all.zipIdx,
        decide (IsNew cs.length (all ++ [d]) p) = decide (IsNew cs.length all p) :=
      fun p hp => decide_eq_decide.mpr (isNew_append hp [d])
    rw [List.zipIdx_append, List.filter_append, List.map_append, List.filter_congr hsame, ← ih,
      List.zipIdx_singleton, Nat.zero_add]
    split
    · rename_i hseen
      rw [List.filter_cons_of_neg, List.filter_nil, List.map_nil, List.append_nil]
      exact fun hnew => hlast.mp (of_decide_eq_true hnew) (htexts.mp hseen)
    · rename_i hnew
      rw [List.filter_cons_of_pos, List.filter_nil]
      · rfl
      · exact decide_eq_true (hlast.mpr fun hseen => hnew (htexts.mpr hseen))

theorem mem_of_mem_gathered {d : Combination} (hd : d ∈ m.gathered) :
    d ∈ product m.axes ∨ ∃ e ∈ m.inclusions, d = m.included e := by
  rw [gathered, foldl_appendNew] at hd
  obtain ⟨p, hp, rfl⟩ := List.mem_map.mp hd
  have hall := List.fst_mem_of_mem_zipIdx (List.mem_filter.mp hp).1
  rcases List.mem_append.mp hall with hproduct | hincluded
  · exact .inl hproduct
  · obtain ⟨e, he, heq⟩ := List.mem_map.mp hincluded
    exact .inr ⟨e, he, heq.symm⟩

theorem mem_gathered_of_mem_combinations {d : Combination} (hd : d ∈ m.combinations) :
    d ∈ m.gathered := (List.mem_filter.mp hd).1

theorem combinations_eq (m : Matrix) :
    m.combinations =
      ((product m.axes ++ m.inclusions.map m.included).zipIdx.filter
        (m.Stays (product m.axes ++ m.inclusions.map m.included))).map Prod.fst := by
  rw [combinations, foldl_appendNew, List.filter_map, List.filter_filter, length_product]
  congr 2
  funext p
  rw [Bool.eq_iff_iff]
  simp [stays_iff, ← excludedBy_iff, and_comm]

end Matrix

namespace Job

/-- A job with a matrix has an instance for each combination of its axes, in the order of the
digits of its place, and then for each inclusion that brings new texts, in the order in which they
are written, but for those that an exclusion matches. The matrix need not be checked for this; its
inclusions are mappings, as they are when it is read. -/
theorem instanceIds_of_matrix {j : Job} {m : Matrix} (hm : j.matrix = some m)
    (h : ∀ e ∈ m.inclusions, e.Ascending) :
    ∃ all, m.Candidates all ∧
      j.instanceIds = (all.zipIdx.filter (m.Stays all)).map
        (fun p => ⟨j.name, Matrix.rendered p.1⟩) ∧
      (m.axes = [] → Matrix.count m.axes = 1) ∧
      (Matrix.count m.axes = 0 ↔ ∃ a ∈ m.axes, a.values = []) := by
  refine ⟨_, Matrix.candidates_of_ascending h, ?_, fun hnone => ?_, Matrix.count_eq_zero_iff _⟩
  · simp only [instanceIds, hm]
    rw [Matrix.combinations_eq, List.map_map]
    rfl
  · rw [hnone, Matrix.count_nil]

/-- An inclusion has the texts of a combination of the axes, another one has a further key, and in
the exclusion a number is written as a text. -/
def writtenLevels : Json :=
  .obj [
    ("axes", .obj [("os", .arr [.str "linux", .str "mac"]), ("level", .arr [.ofNat 1, .ofNat 2])]),
    ("include", .arr [.obj [("os", .str "linux"), ("level", .str "1")],
      .obj [("os", .str "mac"), ("level", .ofNat 3), ("arch", .str "arm")]]),
    ("exclude", .arr [.obj [("os", .str "linux"), ("level", .str "2")]])]

def levels : Matrix :=
  ⟨[⟨"os", [.str "linux", .str "mac"]⟩, ⟨"level", [.ofNat 1, .ofNat 2]⟩],
    [[("level", .str "1"), ("os", .str "linux")],
      [("arch", .str "arm"), ("level", .ofNat 3), ("os", .str "mac")]],
    [[("level", .str "2"), ("os", .str "linux")]]⟩

theorem matrix_writtenLevels : Schema.matrix writtenLevels = some levels := rfl

def levelsJob : Job := { JobGraph.plainJob "build" [] none with matrix := some levels }

theorem instanceIds_of_matrix_levels :
    levelsJob.matrix = some levels ∧ levels.faults = [] ∧
      (∃ all, levels.Candidates all ∧
        levelsJob.instanceIds = (all.zipIdx.filter (levels.Stays all)).map
          fun p => ⟨"build", Matrix.rendered p.1⟩) ∧
      levelsJob.instanceIds = [⟨"build", [("os", "linux"), ("level", "1")]⟩,
        ⟨"build", [("os", "mac"), ("level", "1")]⟩, ⟨"build", [("os", "mac"), ("level", "2")]⟩,
        ⟨"build", [("os", "mac"), ("level", "3"), ("arch", "arm")]⟩] := by
  have hmatrix : levelsJob.matrix = some levels := rfl
  have hread := Schema.ascending_of_matrix matrix_writtenLevels
  obtain ⟨all, hall, hids, _⟩ := instanceIds_of_matrix hmatrix hread.1
  exact ⟨hmatrix, by decide +kernel, ⟨all, hall, hids⟩, by decide +kernel⟩

end Job

end GatedPipeline
