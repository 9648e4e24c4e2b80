import GatedPipeline.Proofs.Agreement
import GatedPipeline.Proofs.MatrixExpansion

namespace GatedPipeline

/-- A value may stay, and its text may stand for a scalar. -/
inductive Json.Respelled : Json → Json → Prop where
  | kept (v : Json) : Respelled v v
  | spelled {v : Json} {text : String} (scalar : v.scalarText? = some text) :
      Respelled v (.str text)

/-- The same names in the same order, with values of which some are spelled out. -/
def Bindings.Respelled (c c' : Bindings Json) : Prop := c.AlikeBy (fun _ => Json.Respelled) c'

structure Axis.Respelled (a a' : Axis) : Prop where
  name : a.name = a'.name
  values : List.Forall₂ Json.Respelled a.values a'.values

structure Matrix.Respelled (m m' : Matrix) : Prop where
  axes : List.Forall₂ Axis.Respelled m.axes m'.axes
  inclusions : List.Forall₂ Bindings.Respelled m.inclusions m'.inclusions
  exclusions : List.Forall₂ Bindings.Respelled m.exclusions m'.exclusions

/-- Floating zeros of different signs. -/
def Json.oppositeZeros : Json → Json → Bool
  | .num (.double x), .num (.double y) =>
    x.mantissa == 0 && y.mantissa == 0 && x.negative != y.negative
  | _, _ => false

/-- Zeros of one sign are written alike. -/
theorem Double.write_of_zero {x y : Double} (hx : x.mantissa = 0) (hy : y.mantissa = 0)
    (hsign : x.negative = y.negative) (layout : Layout) : x.write layout = y.write layout := by
  simp only [write, hx, hy, hsign, if_true]

theorem exists_of_forall₂ {α β : Type} {R : α → β → Prop} {l : List α} {l' : List β}
    (h : List.Forall₂ R l l') {a : α} (ha : a ∈ l) : ∃ b ∈ l', R a b := by
  induction h with
  | nil => cases ha
  | @cons c c' l l' hc _ ih =>
    rcases List.mem_cons.mp ha with rfl | ha
    · exact ⟨c', List.mem_cons_self, hc⟩
    · obtain ⟨b, hb, hab⟩ := ih ha
      exact ⟨b, List.mem_cons_of_mem c' hb, hab⟩

theorem map_filter_sublist {α β γ : Type} {R : α → β → Prop} {l : List α} {l' : List β}
    (h : List.Forall₂ R l l') {f : α → γ} {f' : β → γ} (hf : ∀ a b, R a b → f a = f' b)
    {p : α → Bool} {p' : β → Bool} (hp : ∀ a b, R a b → p a = true → p' b = true) :
    ((l.filter p).map f).Sublist ((l'.filter p').map f') := by
  induction h with
  | nil => exact .slnil
  | @cons a b l l' hab _ ih =>
    cases hpa : p a with
    | true =>
      rw [List.filter_cons_of_pos hpa, List.filter_cons_of_pos (hp a b hab hpa), List.map_cons,
        List.map_cons, hf a b hab]
      exact ih.cons_cons (f' b)
    | false =>
      rw [List.filter_cons_of_neg (Bool.eq_false_iff.mp hpa)]
      refine ih.trans ((List.Sublist.filter p' ?_).map f')
      exact List.sublist_cons_self b l'

namespace Json

variable {v v' w w' : Json}

theorem Respelled.valueText_eq (h : v.Respelled w) : Matrix.valueText v = Matrix.valueText w := by
  cases h with
  | kept => rfl
  | spelled scalar =>
    rw [Matrix.valueText, scalar]
    rfl

theorem eq_of_str_same {s : String} (h : (str s).same w = true) : w = .str s := by
  cases w with
  | str t =>
    simp only [same, beq_iff_eq] at h
    rw [h]
  | _ => simp [same] at h

theorem eq_of_same_str {s : String} (h : v.same (.str s) = true) : v = .str s := by
  cases v with
  | str t =>
    simp only [same, beq_iff_eq] at h
    rw [h]
  | _ => simp [same] at h

/-- Texts are equal only to texts, so spelling a value out makes it equal to nothing new. -/
theorem same_of_respelled (hv : v.Respelled v') (hw : w.Respelled w') (h : v'.same w' = true) :
    v.same w = true ∨ Matrix.valueText v = Matrix.valueText w := by
  cases hv with
  | kept =>
    cases hw with
    | kept => exact .inl h
    | spelled scalar =>
      right
      rw [eq_of_same_str h, Respelled.valueText_eq (.spelled scalar)]
  | spelled scalar =>
    right
    rw [Respelled.valueText_eq (.spelled scalar), hw.valueText_eq, eq_of_str_same h]

/-- Equal scalars have the same text, but for zeros. -/
theorem valueText_of_same (hv : v.IsScalar) (h : v.same w = true) :
    Matrix.valueText v = Matrix.valueText w ∨ v.oppositeZeros w = true := by
  cases v with
  | str s =>
    rw [eq_of_str_same h]
    exact .inl rfl
  | bool b =>
    cases w with
    | bool b' =>
      simp only [same, beq_iff_eq] at h
      rw [h]
      exact .inl rfl
    | _ => simp [same] at h
  | num n =>
    cases w with
    | num n' =>
      cases n with
      | int i =>
        cases n' with
        | int k =>
          simp only [same, Number.same, beq_iff_eq] at h
          rw [h]
          exact .inl rfl
        | double y => simp [same, Number.same] at h
      | double x =>
        cases n' with
        | int k => simp [same, Number.same] at h
        | double y =>
          simp only [same, Number.same, Double.same, Bool.or_eq_true, Bool.and_eq_true,
            beq_iff_eq] at h
          rcases h with ⟨hx, hy⟩ | rfl
          · by_cases hsign : x.negative = y.negative
            · left
              exact Double.write_of_zero hx hy hsign {}
            · right
              rw [oppositeZeros, hx, hy, bne_iff_ne.mpr hsign]
              rfl
          · exact .inl rfl
    | _ => simp [same] at h
  | null => exact hv.elim
  | arr items => exact hv.elim
  | obj members => exact hv.elim

end Json

namespace Bindings

variable {c c' : Bindings Json}

theorem Respelled.rendered_eq (h : c.Respelled c') : Matrix.rendered c = Matrix.rendered c' := by
  induction h with
  | nil => rfl
  | cons hp _ ih => rw [Matrix.rendered_cons, Matrix.rendered_cons, ih, hp.1, hp.2.valueText_eq]

theorem Respelled.get? (h : c.Respelled c') (name : String) :
    Option.Rel Json.Respelled (c.get? name) (c'.get? name) := by
  induction h with
  | nil => exact .none
  | @cons p p' c c' hp _ ih =>
    obtain ⟨n, v⟩ := p
    obtain ⟨n', v'⟩ := p'
    obtain ⟨rfl, hv⟩ := hp
    unfold Bindings.get?
    split
    · exact .some hv
    · exact ih

end Bindings

namespace Matrix

variable {m m' : Matrix} {e e' : MatrixEntry} {d d' : Combination}

/-- The names and texts of the entry are among those of the combination. -/
def MatchesText (e : MatrixEntry) (d : Combination) : Prop := rendered e ⊆ rendered d

instance (e : MatrixEntry) (d : Combination) : Decidable (MatchesText e d) :=
  inferInstanceAs (Decidable (rendered e ⊆ rendered d))

/-- The combinations that are left if exclusions go by texts alone. -/
def combinationsByText (m : Matrix) : List Combination :=
  m.gathered.filter fun d => ¬ ∃ e ∈ m.exclusions, MatchesText e d

/-- What is left out is left out by its texts. -/
def ExcludesByText (m : Matrix) : Prop :=
  ∀ d ∈ m.gathered, (∃ e ∈ m.exclusions, Matches e d) → ∃ e ∈ m.exclusions, MatchesText e d

def valuesOf (m : Matrix) (name : String) : List Json :=
  (m.axes.filter (·.name == name)).flatMap Axis.values ++
    m.inclusions.flatMap fun e => (e.filter (·.1 == name)).map Prod.snd

/-- No exclusion has one zero for a name that may be bound to the other. -/
def ZerosAgree (m : Matrix) : Prop :=
  ∀ e ∈ m.exclusions, ∀ p ∈ e, ∀ v ∈ m.valuesOf p.1, v.oppositeZeros p.2 = false

instance (m : Matrix) : Decidable m.ZerosAgree :=
  inferInstanceAs (Decidable (∀ e ∈ m.exclusions, ∀ p ∈ e, ∀ v ∈ m.valuesOf p.1,
    v.oppositeZeros p.2 = false))

theorem mem_valuesOf_iff {name : String} {v : Json} :
    v ∈ m.valuesOf name ↔
      (∃ a ∈ m.axes, a.name = name ∧ v ∈ a.values) ∨ ∃ e ∈ m.inclusions, (name, v) ∈ e := by
  simp only [valuesOf, List.mem_append, List.mem_flatMap, List.mem_filter, List.mem_map, beq_iff_eq,
    and_assoc]
  apply or_congr Iff.rfl
  constructor
  · rintro ⟨e, he, p, hp, rfl, rfl⟩
    exact ⟨e, he, hp⟩
  · rintro ⟨e, he, hp⟩
    exact ⟨e, he, (name, v), hp, rfl, rfl⟩

theorem combinations_eq_filter (m : Matrix) :
    m.combinations = m.gathered.filter fun d => ¬ ∃ e ∈ m.exclusions, Matches e d := by
  apply List.filter_congr
  intro d _
  rw [Bool.eq_iff_iff, Bool.not_eq_true', List.any_eq_false, decide_eq_true_eq]
  simp only [excludedBy_iff, not_exists, not_and]

theorem product_respelled {axes axes' : List Axis} (h : List.Forall₂ Axis.Respelled axes axes') :
    List.Forall₂ Bindings.Respelled (product axes) (product axes') := by
  induction h with
  | nil => exact .cons .nil .nil
  | cons ha _ ih =>
    apply List.rel_flatMap ha.values
    intro v v' hv
    refine List.rel_map ?_ ih
    intro c c' hc
    exact .cons ⟨ha.name, hv⟩ hc

/-- Spelling values out leaves the names of the axes as they are. -/
theorem names_respelled {axes axes' : List Axis} (h : List.Forall₂ Axis.Respelled axes axes') :
    axes.map Axis.name = axes'.map Axis.name := by
  induction h with
  | nil => rfl
  | cons ha _ ih => rw [List.map_cons, List.map_cons, ha.name, ih]

theorem included_respelled (h : List.Forall₂ Axis.Respelled m.axes m'.axes)
    (he : e.Respelled e') : Bindings.Respelled (m.included e) (m'.included e') := by
  have hfurther : ∀ name, (m.axis? name).isNone = (m'.axis? name).isNone := by
    intro name
    rw [Bool.eq_iff_iff, isNone_axis?_iff, isNone_axis?_iff, names_respelled h]
  apply List.rel_append
  · refine List.rel_filterMap ?_ h
    intro a a' ha
    dsimp only
    rw [← ha.name]
    have hget := he.get? a.name
    generalize e.get? a.name = v, e'.get? a.name = v' at hget ⊢
    cases hget with
    | none => exact .none
    | some hv => exact .some ⟨rfl, hv⟩
  · refine List.rel_filter ?_ he
    intro p p' hp
    dsimp only
    rw [hp.1, hfurther p'.1]

theorem appendNew_respelled {cs cs' : List Combination}
    (hcs : List.Forall₂ Bindings.Respelled cs cs') (hd : Bindings.Respelled d d') :
    List.Forall₂ Bindings.Respelled (appendNew cs d) (appendNew cs' d') := by
  have htexts : cs.map rendered = cs'.map rendered := by
    induction hcs with
    | nil => rfl
    | cons hc _ ih => rw [List.map_cons, List.map_cons, hc.rendered_eq, ih]
  rw [appendNew_eq, appendNew_eq, htexts, hd.rendered_eq]
  split
  · exact hcs
  · exact List.rel_append hcs (.cons hd .nil)

theorem Respelled.gathered (h : m.Respelled m') :
    List.Forall₂ Bindings.Respelled m.gathered m'.gathered := by
  have hincluded : List.Forall₂ Bindings.Respelled (m.inclusions.map m.included)
      (m'.inclusions.map m'.included) := by
    refine List.rel_map ?_ h.inclusions
    intro e e' he
    exact included_respelled h.axes he
  refine List.rel_foldl ?_ (product_respelled h.axes) hincluded
  intro cs cs' hcs d d' hd
  exact appendNew_respelled hcs hd

/-- Equal texts match. -/
theorem MatchesText.matches (h : MatchesText e d) : Matches e d := by
  intro p hp
  obtain ⟨q, hq, he⟩ := List.mem_map.mp (h (List.mem_map_of_mem hp))
  obtain ⟨hname, htext⟩ := Prod.mk.inj he
  exact ⟨q, hq, hname, .inr htext⟩

/-- What an exclusion matches in values that are spelled out it matches in the values as well. -/
theorem matches_of_respelled (he : e.Respelled e') (hd : Bindings.Respelled d d')
    (h : Matches e' d') : Matches e d := by
  intro p hp
  obtain ⟨p', hp', hpname, hpvalue⟩ := exists_of_forall₂ he hp
  obtain ⟨q', hq', hname, hvalue⟩ := h p' hp'
  have hdflip : List.Forall₂ (fun b a => a.1 = b.1 ∧ a.2.Respelled b.2) d' d := List.Forall₂.flip hd
  obtain ⟨q, hq, hqname, hqvalue⟩ := exists_of_forall₂ hdflip hq'
  refine ⟨q, hq, ?_, ?_⟩
  · rw [hqname, hname, hpname]
  · rcases hvalue with hsame | htext
    · exact Json.same_of_respelled hqvalue hpvalue hsame
    · right
      rw [hqvalue.valueText_eq, htext, hpvalue.valueText_eq]

theorem matchesText_respelled (he : e.Respelled e') (hd : Bindings.Respelled d d') :
    MatchesText e d ↔ MatchesText e' d' := by
  rw [MatchesText, MatchesText, he.rendered_eq, hd.rendered_eq]

/-- A respelled matrix leaves out no more than the matrix. -/
theorem Respelled.texts_sublist (h : m.Respelled m') :
    (m.combinations.map rendered).Sublist (m'.combinations.map rendered) := by
  rw [combinations_eq_filter, combinations_eq_filter]
  refine map_filter_sublist h.gathered (fun _ _ hd => hd.rendered_eq) ?_
  intro d d' hd hkept
  rw [decide_eq_true_eq] at hkept ⊢
  rintro ⟨e', he', hmatches⟩
  obtain ⟨e, he, hrel⟩ := exists_of_forall₂ h.exclusions.flip he'
  exact hkept ⟨e, he, matches_of_respelled hrel hd hmatches⟩

theorem Respelled.matchesText_iff (h : m.Respelled m') (hd : Bindings.Respelled d d') :
    (∃ e ∈ m.exclusions, MatchesText e d) ↔ ∃ e ∈ m'.exclusions, MatchesText e d' := by
  constructor
  · rintro ⟨e, he, hmatches⟩
    obtain ⟨e', he', hrel⟩ := exists_of_forall₂ h.exclusions he
    exact ⟨e', he', (matchesText_respelled hrel hd).mp hmatches⟩
  · rintro ⟨e', he', hmatches⟩
    obtain ⟨e, he, hrel⟩ := exists_of_forall₂ h.exclusions.flip he'
    exact ⟨e, he, (matchesText_respelled hrel hd).mpr hmatches⟩

theorem Respelled.texts_byText (h : m.Respelled m') :
    m.combinationsByText.map rendered = m'.combinationsByText.map rendered := by
  have hflip : List.Forall₂ (fun d' d => Bindings.Respelled d d') m'.gathered m.gathered :=
    h.gathered.flip
  apply List.Sublist.antisymm
  · refine map_filter_sublist h.gathered (fun _ _ hd => hd.rendered_eq) ?_
    intro d d' hd hkept
    rw [decide_eq_true_eq] at hkept ⊢
    exact mt (h.matchesText_iff hd).mpr hkept
  · refine map_filter_sublist hflip (fun _ _ hd => hd.rendered_eq.symm) ?_
    intro d' d hd hkept
    rw [decide_eq_true_eq] at hkept ⊢
    exact mt (h.matchesText_iff hd).mp hkept

theorem combinations_sublist_byText (m : Matrix) :
    m.combinations.Sublist m.combinationsByText := by
  rw [combinations_eq_filter]
  apply List.monotone_filter_right
  intro d hkept
  rw [decide_eq_true_eq] at hkept ⊢
  rintro ⟨e, he, hmatches⟩
  exact hkept ⟨e, he, hmatches.matches⟩

theorem excludesByText_iff (m : Matrix) :
    m.ExcludesByText ↔ m.combinations = m.combinationsByText := by
  constructor
  · intro h
    rw [combinations_eq_filter]
    apply List.filter_congr
    intro d hd
    rw [decide_eq_decide]
    apply not_congr
    constructor
    · exact h d hd
    · rintro ⟨e, he, hmatches⟩
      exact ⟨e, he, hmatches.matches⟩
  · intro h d hd hmatches
    by_contra hnone
    have hkept : d ∈ m.combinations := by
      rw [h]
      exact List.mem_filter.mpr ⟨hd, decide_eq_true hnone⟩
    rw [combinations_eq_filter] at hkept
    exact of_decide_eq_true (List.mem_filter.mp hkept).2 hmatches

/-- Between the texts of the matrix and those that exclusions by text leave there is room for those
of a respelled matrix only. -/
theorem Respelled.texts_eq (h : m.Respelled m') (hexcludes : m.ExcludesByText) :
    m'.combinations.map rendered = m.combinations.map rendered := by
  apply List.Sublist.antisymm
  · have hleft := (combinations_sublist_byText m').map rendered
    rw [← h.texts_byText] at hleft
    rw [m.excludesByText_iff.mp hexcludes]
    exact hleft
  · exact h.texts_sublist

theorem mem_of_mem_product {axes : List Axis} (hd : d ∈ product axes) {q : String × Json}
    (hq : q ∈ d) : ∃ a ∈ axes, a.name = q.1 ∧ q.2 ∈ a.values := by
  induction axes generalizing d with
  | nil =>
    rw [List.mem_singleton.mp hd] at hq
    cases hq
  | cons a rest ih =>
    obtain ⟨v, hv, hd⟩ := List.mem_flatMap.mp hd
    obtain ⟨c, hc, rfl⟩ := List.mem_map.mp hd
    rcases List.mem_cons.mp hq with rfl | hq
    · exact ⟨a, List.mem_cons_self, rfl, hv⟩
    · obtain ⟨b, hb, hbound⟩ := ih hc hq
      exact ⟨b, List.mem_cons_of_mem a hb, hbound⟩

theorem mem_of_mem_included {q : String × Json} (hq : q ∈ m.included e) : q ∈ e := by
  rcases List.mem_append.mp hq with hq | hq
  · obtain ⟨a, _, hq⟩ := List.mem_filterMap.mp hq
    obtain ⟨v, hv, rfl⟩ := Option.map_eq_some_iff.mp hq
    exact Bindings.mem_of_get? hv
  · exact (List.mem_filter.mp hq).1

theorem mem_valuesOf_of_mem_gathered (hd : d ∈ m.gathered) {q : String × Json} (hq : q ∈ d) :
    q.2 ∈ m.valuesOf q.1 := by
  apply mem_valuesOf_iff.mpr
  rcases mem_of_mem_gathered hd with hproduct | ⟨e, he, rfl⟩
  · exact .inl (mem_of_mem_product hproduct hq)
  · exact .inr ⟨e, he, mem_of_mem_included hq⟩

theorem excludesByText_of_zerosAgree (hscalar : ∀ name, ∀ v ∈ m.valuesOf name, v.IsScalar)
    (hzeros : m.ZerosAgree) : m.ExcludesByText := by
  rintro d hd ⟨e, he, hmatches⟩
  refine ⟨e, he, ?_⟩
  intro t ht
  obtain ⟨p, hp, rfl⟩ := List.mem_map.mp ht
  obtain ⟨q, hq, hname, hvalue⟩ := hmatches p hp
  have hbound := mem_valuesOf_of_mem_gathered hd hq
  have htext : valueText q.2 = valueText p.2 := by
    rcases hvalue with hsame | htext
    · rcases Json.valueText_of_same (hscalar q.1 q.2 hbound) hsame with htext | hopposite
      · exact htext
      · rw [hname] at hbound
        exact absurd hopposite (Bool.eq_false_iff.mp (hzeros e he p hp q.2 hbound))
    · exact htext
  rw [← hname, ← htext]
  exact List.mem_map_of_mem hq

theorem WellFormed.scalar (h : m.WellFormed) {name : String} {v : Json} (hv : v ∈ m.valuesOf name) :
    v.IsScalar := by
  rcases mem_valuesOf_iff.mp hv with ⟨a, ha, _, hv⟩ | ⟨e, he, hv⟩
  · exact h.axes a ha v hv
  · exact h.inclusions e he (name, v) hv

end Matrix

/-- The text of a scalar in its place. -/
def Json.spelledOut (v : Json) : Json := (v.scalarText?.map .str).getD v

theorem Json.respelled_spelledOut (v : Json) : v.Respelled v.spelledOut := by
  unfold spelledOut
  cases h : v.scalarText? with
  | none => exact .kept v
  | some text => exact .spelled h

theorem Json.IsScalar.spelledOut_eq {v : Json} (h : v.IsScalar) :
    ∃ text, v.spelledOut = .str text := by
  obtain ⟨text, htext⟩ := Option.isSome_iff_exists.mp (v.isSome_scalarText?_iff.mpr h)
  exact ⟨text, by rw [spelledOut, htext]; rfl⟩

def MatrixEntry.spelledOut (e : MatrixEntry) : MatrixEntry := e.map fun p => (p.1, p.2.spelledOut)

theorem MatrixEntry.respelled_spelledOut (e : MatrixEntry) :
    Bindings.Respelled e (spelledOut e) := by
  unfold Bindings.Respelled Bindings.AlikeBy spelledOut
  rw [List.forall₂_map_right_iff]
  apply List.forall₂_same.mpr
  intro p _
  exact ⟨rfl, p.2.respelled_spelledOut⟩

namespace Matrix

variable {m : Matrix}

/-- The matrix with all its scalars written as texts. -/
def spelledOut (m : Matrix) : Matrix where
  axes := m.axes.map fun a => ⟨a.name, a.values.map Json.spelledOut⟩
  inclusions := m.inclusions.map MatrixEntry.spelledOut
  exclusions := m.exclusions.map MatrixEntry.spelledOut

theorem respelled_spelledOut (m : Matrix) : m.Respelled m.spelledOut where
  axes := by
    rw [spelledOut, List.forall₂_map_right_iff]
    apply List.forall₂_same.mpr
    intro a _
    refine ⟨rfl, ?_⟩
    rw [List.forall₂_map_right_iff]
    exact List.forall₂_same.mpr fun v _ => v.respelled_spelledOut
  inclusions := by
    rw [spelledOut, List.forall₂_map_right_iff]
    exact List.forall₂_same.mpr fun e _ => MatrixEntry.respelled_spelledOut e
  exclusions := by
    rw [spelledOut, List.forall₂_map_right_iff]
    exact List.forall₂_same.mpr fun e _ => MatrixEntry.respelled_spelledOut e

theorem WellFormed.text_of_mem_valuesOf (h : m.WellFormed) {name : String} {v : Json}
    (hv : v ∈ m.spelledOut.valuesOf name) : ∃ text, v = .str text := by
  rcases mem_valuesOf_iff.mp hv with ⟨a', ha', _, hv⟩ | ⟨e', he', hv⟩
  · obtain ⟨a, ha, rfl⟩ := List.mem_map.mp ha'
    obtain ⟨w, hw, rfl⟩ := List.mem_map.mp hv
    exact (h.axes a ha w hw).spelledOut_eq
  · obtain ⟨e, he, rfl⟩ := List.mem_map.mp he'
    obtain ⟨p, hp, hpv⟩ := List.mem_map.mp hv
    obtain ⟨text, htext⟩ := (h.inclusions e he p hp).spelledOut_eq
    exact ⟨text, (Prod.mk.inj hpv).2.symm.trans htext⟩

/-- Texts are no zeros. -/
theorem WellFormed.excludesByText_spelledOut (h : m.WellFormed) : m.spelledOut.ExcludesByText := by
  apply excludesByText_of_zerosAgree
  · intro name v hv
    obtain ⟨text, rfl⟩ := h.text_of_mem_valuesOf hv
    trivial
  · intro e he p hp v hv
    obtain ⟨text, rfl⟩ := h.text_of_mem_valuesOf hv
    rfl

theorem WellFormed.excludesByText_of_texts_eq (h : m.WellFormed)
    (htexts : m.spelledOut.combinations.map rendered = m.combinations.map rendered) :
    m.ExcludesByText := by
  rw [excludesByText_iff]
  apply (combinations_sublist_byText m).eq_of_length
  have hspelled := m.spelledOut.excludesByText_iff.mp h.excludesByText_spelledOut
  rw [hspelled, ← m.respelled_spelledOut.texts_byText] at htexts
  have hlength := congrArg List.length htexts
  rw [List.length_map, List.length_map] at hlength
  exact hlength.symm

end Matrix

namespace Job

def withMatrix (j : Job) (m : Matrix) : Job := { j with matrix := some m }

theorem instanceIds_withMatrix (j : Job) (m : Matrix) :
    (j.withMatrix m).instanceIds =
      (m.combinations.map Matrix.rendered).map (InstanceId.mk j.name) :=
  instanceIds_eq_map rfl

/-- However scalars of a matrix are spelled out, the instances stay what they are exactly if every
combination that is left out is left out by its texts. That holds unless an exclusion has a zero
where a combination may have the zero of the other sign. In any case no instance is lost. -/
theorem instanceIds_respelled_iff {j : Job} {m : Matrix} (hm : j.matrix = some m)
    (h : m.WellFormed) :
    ((∀ m', m.Respelled m' → (j.withMatrix m').instanceIds = j.instanceIds) ↔ m.ExcludesByText) ∧
      (m.ZerosAgree → m.ExcludesByText) ∧
      ∀ m', m.Respelled m' → j.instanceIds.Sublist (j.withMatrix m').instanceIds := by
  have hids := instanceIds_eq_map hm
  refine ⟨⟨?_, ?_⟩, ?_, ?_⟩
  · intro hall
    have hspelled := hall m.spelledOut m.respelled_spelledOut
    rw [instanceIds_withMatrix, hids] at hspelled
    exact h.excludesByText_of_texts_eq ((mk_injective j.name).list_map hspelled)
  · intro hexcludes m' hrespelled
    rw [instanceIds_withMatrix, hids, hrespelled.texts_eq hexcludes]
  · intro hzeros
    exact Matrix.excludesByText_of_zerosAgree (fun _ _ hv => h.scalar hv) hzeros
  · intro m' hrespelled
    rw [instanceIds_withMatrix, hids]
    exact hrespelled.texts_sublist.map (InstanceId.mk j.name)

/-- Versions that are numbers, one of them left out by its text and one by a number. -/
def releases : Matrix :=
  ⟨[⟨"version", [.num (.double (Double.zero false)), .num (.double ⟨false, 6755399441055744, -52⟩),
      .ofNat 2]⟩, ⟨"stable", [.bool true, .bool false]⟩],
    [[("version", .str "1.5"), ("stable", .bool true)], [("version", .ofNat 3)]],
    [[("version", .num (.double (Double.zero false)))],
      [("version", .str "2"), ("stable", .str "false")]]⟩

def releasesJob : Job := { JobGraph.plainJob "test" [] none with matrix := some releases }

theorem instanceIds_respelled_iff_releases :
    releasesJob.matrix = some releases ∧ releases.faults = [] ∧ releases.ExcludesByText ∧
      (releasesJob.withMatrix releases.spelledOut).instanceIds = releasesJob.instanceIds ∧
      releasesJob.instanceIds =
        [⟨"test", [("version", "1.5"), ("stable", "true")]⟩,
          ⟨"test", [("version", "1.5"), ("stable", "false")]⟩,
          ⟨"test", [("version", "2"), ("stable", "true")]⟩, ⟨"test", [("version", "3")]⟩] := by
  have hmatrix : releasesJob.matrix = some releases := rfl
  have hfaults : releases.faults = [] := by decide +kernel
  obtain ⟨hiff, hzeros, -⟩ :=
    instanceIds_respelled_iff hmatrix (releases.faults_eq_nil_iff.mp hfaults)
  have hexcludes := hzeros (by decide)
  have hspelled := hiff.mpr hexcludes releases.spelledOut releases.respelled_spelledOut
  exact ⟨hmatrix, hfaults, hexcludes, hspelled, by decide +kernel⟩

/-- A zero with a sign, and one without in the exclusion. -/
def zeros : Matrix :=
  ⟨[⟨"v", [.num (.double (Double.zero true))]⟩], [], [[("v", .num (.double (Double.zero false)))]]⟩

def zerosJob : Job := { JobGraph.plainJob "test" [] none with matrix := some zeros }

theorem instanceIds_zeros_spelledOut :
    zerosJob.matrix = some zeros ∧ zeros.faults = [] ∧ zeros.Respelled zeros.spelledOut ∧
      zerosJob.instanceIds = [] ∧
      (zerosJob.withMatrix zeros.spelledOut).instanceIds = [⟨"test", [("v", "-0.0")]⟩] :=
  ⟨rfl, by decide +kernel, zeros.respelled_spelledOut, by decide +kernel, by decide +kernel⟩

end Job

end GatedPipeline
