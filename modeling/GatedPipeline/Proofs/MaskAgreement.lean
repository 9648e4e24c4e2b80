import GatedPipeline.Proofs.Coverage

namespace GatedPipeline

namespace Text

variable {old new v w text : List Char}

/-- Somewhere in the text the end of the first value is the beginning of the second one. -/
def Collides (v w text : List Char) : Prop :=
  ∃ front mid back, mid ≠ [] ∧ v = front ++ mid ∧ w = mid ++ back ∧ front ++ mid ++ back <:+: text

/-- The beginning of the second value is looked for in the first one, at each of its places. -/
theorem collides_iff : Collides v w text ↔
    ∃ k ∈ List.range v.length, v.drop k <+: w ∧
      isInfix (v ++ w.drop (v.length - k)) text = true := by
  simp only [List.mem_range, isInfix_iff]
  constructor
  · rintro ⟨front, mid, back, hmid, rfl, rfl, ho⟩
    have hpos := List.length_pos_of_ne_nil hmid
    refine ⟨front.length, by rw [List.length_append]; omega, ?_, ?_⟩
    · rw [List.drop_left]
      exact List.prefix_append mid back
    · rwa [List.length_append, Nat.add_sub_cancel_left, List.drop_left]
  · rintro ⟨k, hk, ⟨back, rfl⟩, ho⟩
    refine ⟨v.take k, v.drop k, back, ?_, (List.take_append_drop k v).symm, rfl, ?_⟩
    · exact List.ne_nil_of_length_pos (by rw [List.length_drop]; omega)
    · rwa [← List.length_drop, List.drop_left, ← List.take_append_drop k v] at ho

instance (v w text : List Char) : Decidable (Collides v w text) :=
  decidable_of_iff _ collides_iff.symm

/-- No two different values of one length collide. -/
def Apart (values : List String) (text : String) : Prop :=
  ∀ v ∈ values, ∀ w ∈ values, v ≠ w → v.utf8ByteSize = w.utf8ByteSize →
    ¬ Collides v.toList w.toList text.toList

instance (values : List String) (text : String) : Decidable (Apart values text) :=
  inferInstanceAs (Decidable (∀ v ∈ values, ∀ w ∈ values, v ≠ w →
    v.utf8ByteSize = w.utf8ByteSize → ¬ Collides v.toList w.toList text.toList))

theorem Apart.mono {values values' : List String} {text : String} (h : Apart values text)
    (hsub : values' ⊆ values) : Apart values' text :=
  fun v hv w hw => h v (hsub hv) w (hsub hw)

theorem Collides.mono {text' : List Char} (h : Collides v w text) (hin : text <:+: text') :
    Collides v w text' := by
  obtain ⟨front, mid, back, hmid, hv, hw, ho⟩ := h
  exact ⟨front, mid, back, hmid, hv, hw, ho.trans hin⟩

/-- Replacing makes no values collide. -/
theorem Collides.of_replaced (hn : new ≠ []) (hv : ∀ c ∈ new, c ∉ v) (hw : ∀ c ∈ new, c ∉ w)
    (h : Collides v w (replaced old new text)) : Collides v w text := by
  obtain ⟨front, mid, back, hmid, rfl, rfl, ho⟩ := h
  refine ⟨front, mid, back, hmid, rfl, rfl, ?_⟩
  have hne : front ++ mid ++ back ≠ [] := by
    intro he
    exact hmid (List.append_eq_nil_iff.mp (List.append_eq_nil_iff.mp he).1).2
  refine infix_of_infix_replaced hne hn (fun c hc hm => ?_) ho
  rcases List.mem_append.mp hm with hm | hm
  · exact hv c hc hm
  · exact hw c hc (List.mem_append_right _ hm)

/-- A value at the beginning of the text that does not collide with the replaced one and does not
contain it is left alone. -/
theorem replaced_append_of_not_collides {rest : List Char} (hin : ¬ w <:+: v)
    (hc : ¬ Collides v w (v ++ rest)) :
    replaced w new (v ++ rest) = v ++ replaced w new rest := by
  apply replaced_append
  rintro mid hmid ⟨front, hfront⟩ ⟨later, he⟩
  rcases List.append_eq_append_iff.mp he with ⟨back, hmid', _⟩ | ⟨back, hw, hrest⟩
  · exact hin ⟨front, back, by rw [List.append_assoc, ← hmid', hfront]⟩
  · refine hc ⟨front, mid, back, hmid, hfront.symm, hw, [], later, ?_⟩
    rw [hfront, hrest, List.nil_append, List.append_assoc]

/-- Where one of two values begins the text, the order in which they are replaced does not matter
if it does not matter behind it. -/
theorem replaced_comm_of_begins {rest : List Char} (hv : v ≠ []) (hw : w ≠ [])
    (hnw : ∀ c ∈ new, c ∉ w) (hin : ¬ w <:+: v) (hc : ¬ Collides v w (v ++ rest))
    (ih : replaced v new (replaced w new rest) = replaced w new (replaced v new rest)) :
    replaced v new (replaced w new (v ++ rest)) = replaced w new (replaced v new (v ++ rest)) :=
  calc replaced v new (replaced w new (v ++ rest))
      = replaced v new (v ++ replaced w new rest) := by
        rw [replaced_append_of_not_collides hin hc]
    _ = new ++ replaced v new (replaced w new rest) := replaced_append_self hv _
    _ = new ++ replaced w new (replaced v new rest) := by rw [ih]
    _ = replaced w new (new ++ replaced v new rest) :=
        (replaced_append_of_disjoint hw hnw _).symm
    _ = replaced w new (replaced v new (v ++ rest)) := by rw [replaced_append_self hv]

/-- Two values that neither collide nor contain one another are replaced in either order with the
same result. -/
theorem replaced_comm (hv : v ≠ []) (hw : w ≠ []) (hn : new ≠ []) (hnv : ∀ c ∈ new, c ∉ v)
    (hnw : ∀ c ∈ new, c ∉ w) (hwv : ¬ w <:+: v) (hvw : ¬ v <:+: w) (hc : ¬ Collides v w text)
    (hc' : ¬ Collides w v text) :
    replaced v new (replaced w new text) = replaced w new (replaced v new text) := by
  induction hlen : text.length using Nat.strong_induction_on generalizing text with
  | _ n ih =>
    -- The values stay apart in whatever is left of the text.
    have hrest : ∀ front rest, text = front ++ rest → 0 < front.length →
        replaced v new (replaced w new rest) = replaced w new (replaced v new rest) := by
      intro front rest he hpos
      have hin : rest <:+: text := he ▸ (List.suffix_append front rest).isInfix
      refine ih rest.length ?_ (fun h => hc (h.mono hin)) (fun h => hc' (h.mono hin)) rfl
      rw [← hlen, he, List.length_append]
      omega
    by_cases hpv : v <+: text
    · obtain ⟨rest, rfl⟩ := hpv
      have ihrest := hrest v rest rfl (List.length_pos_of_ne_nil hv)
      exact replaced_comm_of_begins hv hw hnw hwv hc ihrest
    by_cases hpw : w <+: text
    · obtain ⟨rest, rfl⟩ := hpw
      have ihrest := hrest w rest rfl (List.length_pos_of_ne_nil hw)
      exact (replaced_comm_of_begins hw hv hnv hvw hc' ihrest.symm).symm
    cases text with
    | nil => simp [replaced]
    | cons c cs =>
      have ihrest := hrest [c] cs rfl Nat.zero_lt_one
      have hv' : ¬ v <+: c :: replaced w new cs := by
        rw [← replaced_cons_of_unmatched hpw]
        exact fun hp => hpv (prefix_of_prefix_replaced hn hnv hp)
      have hw' : ¬ w <+: c :: replaced v new cs := by
        rw [← replaced_cons_of_unmatched hpv]
        exact fun hp => hpw (prefix_of_prefix_replaced hn hnw hp)
      rw [replaced_cons_of_unmatched hpw, replaced_cons_of_unmatched hpv,
        replaced_cons_of_unmatched hv', replaced_cons_of_unmatched hw', ihrest]

/-- A value that stands in a text is first replaced no later than there. -/
theorem exists_first_replaced (hw : w ≠ []) (new front rest : List Char) :
    ∃ before after, front ++ w ++ rest = before ++ w ++ after ∧ before.length ≤ front.length ∧
      replaced w new (front ++ w ++ rest) = before ++ new ++ replaced w new after := by
  induction front with
  | nil => exact ⟨[], rest, rfl, Nat.le_refl 0, replaced_append_self hw rest⟩
  | cons c front ih =>
    by_cases hp : w <+: c :: (front ++ w ++ rest)
    · obtain ⟨after, hafter⟩ := hp
      refine ⟨[], after, hafter.symm, Nat.zero_le _, ?_⟩
      rw [List.cons_append, List.cons_append, ← hafter]
      exact replaced_append_self hw after
    · obtain ⟨before, after, he, hlen, hreplaced⟩ := ih
      refine ⟨c :: before, after, congrArg (c :: ·) he, Nat.succ_le_succ hlen, ?_⟩
      rw [List.cons_append, List.cons_append, replaced_cons_of_unmatched hp, hreplaced]
      rfl

theorem prefix_of_prefix_append_cons {c : Char} {front rest : List Char} (hc : c ∉ v)
    (h : v <+: front ++ c :: rest) : v <+: front := by
  obtain ⟨later, he⟩ := h
  rcases List.append_eq_append_iff.mp he with ⟨more, hfront, _⟩ | ⟨more, hv, hmore⟩
  · exact ⟨more, hfront.symm⟩
  · cases more with
    | nil => exact ⟨[], by rw [hv, List.append_nil, List.append_nil]⟩
    | cons d more =>
      obtain ⟨rfl, _⟩ := List.cons.inj hmore
      exact absurd (hv ▸ List.mem_append_right _ List.mem_cons_self) hc

section Collision

variable {front mid back : List Char}

/-- Of two values that collide, the one that is replaced first leaves the end of the other. -/
theorem replaced_of_collision (hmid : mid ≠ []) (hnew : ∀ c ∈ new, c ∉ mid ++ back)
    (hvw : ¬ front ++ mid <:+: mid ++ back) :
    replaced (mid ++ back) new (replaced (front ++ mid) new (front ++ mid ++ back)) =
      new ++ back := by
  have hv : front ++ mid ≠ [] := fun he => hmid (List.append_eq_nil_iff.mp he).2
  have hw : mid ++ back ≠ [] := fun he => hmid (List.append_eq_nil_iff.mp he).1
  have hvback : ¬ front ++ mid <:+: back :=
    fun h => hvw (h.trans (List.suffix_append mid back).isInfix)
  have hwback : ¬ mid ++ back <:+: back := by
    intro h
    have hpos := List.length_pos_of_ne_nil hmid
    have hlen := h.length_le
    rw [List.length_append] at hlen
    omega
  rw [replaced_append_self hv, replaced_eq_self hvback, replaced_append_of_disjoint hw hnew,
    replaced_eq_self hwback]

/-- Replaced first, the other one leaves the first character of the text: it stands somewhere, but
not at the beginning, and the one that stands there is broken up. -/
theorem head?_replaced_of_collision {star : Char} (hmid : mid ≠ []) (hstar : star ∉ front ++ mid)
    (hvw : ¬ front ++ mid <:+: mid ++ back) (hwv : ¬ mid ++ back <:+: front ++ mid) :
    (replaced (front ++ mid) (star :: new) (replaced (mid ++ back) (star :: new)
      (front ++ mid ++ back))).head? = (front ++ mid ++ back).head? := by
  have hw : mid ++ back ≠ [] := fun he => hmid (List.append_eq_nil_iff.mp he).1
  have hbegins : ¬ mid ++ back <+: front ++ mid ++ back := by
    intro h
    rcases List.prefix_or_prefix_of_prefix h (List.prefix_append (front ++ mid) back) with h | h
    · exact hwv h.isInfix
    · exact hvw h.isInfix
  obtain ⟨before, after, he, hlen, hreplaced⟩ :=
    exists_first_replaced hw (star :: new) front []
  rw [List.append_nil, ← List.append_assoc] at he hreplaced
  cases before with
  | nil => exact absurd ⟨after, he.symm⟩ hbegins
  | cons c before =>
    have hno : ¬ front ++ mid <+: c :: (before ++ star :: (new ++ replaced (mid ++ back)
        (star :: new) after)) := by
      intro h
      have hpre : front ++ mid <+: c :: before := prefix_of_prefix_append_cons hstar h
      have hpos := List.length_pos_of_ne_nil hmid
      have hle := hpre.length_le
      rw [List.length_append] at hle
      omega
    rw [hreplaced, he, List.append_assoc, List.cons_append, List.cons_append, List.cons_append,
      replaced_cons_of_unmatched hno]
    rfl

theorem replaced_ne_of_collision {star : Char} (hmid : mid ≠ []) (hstar : star ∉ front ++ mid)
    (hnew : ∀ c ∈ star :: new, c ∉ mid ++ back) (hvw : ¬ front ++ mid <:+: mid ++ back)
    (hwv : ¬ mid ++ back <:+: front ++ mid) :
    replaced (mid ++ back) (star :: new) (replaced (front ++ mid) (star :: new)
        (front ++ mid ++ back)) ≠
      replaced (front ++ mid) (star :: new) (replaced (mid ++ back) (star :: new)
        (front ++ mid ++ back)) := by
  intro he
  have hv : front ++ mid ≠ [] := fun he => hmid (List.append_eq_nil_iff.mp he).2
  have hheads := congrArg List.head? he
  rw [replaced_of_collision hmid hnew hvw, head?_replaced_of_collision hmid hstar hvw hwv,
    List.head?_append_of_ne_nil _ hv, List.cons_append, List.head?_cons] at hheads
  exact hstar (List.mem_of_head? hheads.symm)

end Collision

end Text

namespace ScopedSecrets

open Text

variable {order order' front : List String} {v w text : String}

theorem not_infix_of_ne (hne : v ≠ w) (hsize : v.utf8ByteSize = w.utf8ByteSize) :
    ¬ v.toList <:+: w.toList :=
  fun h => hne (eq_of_infix_of_size_le h (Nat.le_of_eq hsize.symm))

theorem apart_replaceAll (h : ∀ u ∈ order, Hideable u) (hapart : Apart order text) (w : String) :
    Apart order (replaceAll w stars text) := by
  intro u hu v hv hne hsize hc
  rw [replaceAll, String.toList_ofList] at hc
  exact hapart u hu v hv hne hsize
    (hc.of_replaced stars_ne_nil (h u hu).disjoint (h v hv).disjoint)

theorem replaceAll_comm (hv : Hideable v) (hw : Hideable w)
    (hsize : v.utf8ByteSize = w.utf8ByteSize) (hapart : Apart [v, w] text) :
    replaceAll v stars (replaceAll w stars text) =
      replaceAll w stars (replaceAll v stars text) := by
  by_cases hne : v = w
  · rw [hne]
  · have hvw := hapart v List.mem_cons_self w (List.mem_cons_of_mem v List.mem_cons_self) hne hsize
    have hwv := hapart w (List.mem_cons_of_mem v List.mem_cons_self) v List.mem_cons_self
      (Ne.symm hne) hsize.symm
    simp only [replaceAll, String.toList_ofList]
    rw [replaced_comm hv.toList_ne_nil hw.toList_ne_nil stars_ne_nil hv.disjoint hw.disjoint
      (not_infix_of_ne (Ne.symm hne) hsize.symm) (not_infix_of_ne hne hsize) hvw hwv]

/-- A value can be hidden before others of its length. -/
theorem hideAll_append_cons (h : ∀ u ∈ v :: front, Hideable u)
    (hsize : ∀ u ∈ front, u.utf8ByteSize = v.utf8ByteSize) (hapart : Apart (v :: front) text)
    (back : List String) :
    hideAll (front ++ v :: back) text = hideAll (v :: (front ++ back)) text := by
  induction front generalizing text with
  | nil => rfl
  | cons w front ih =>
    have hsub : v :: front ⊆ v :: w :: front :=
      List.cons_subset_cons v (List.subset_cons_self w front)
    have hpair : [v, w] ⊆ v :: w :: front := (List.sublist_append_left [v, w] front).subset
    have hrest := ih (fun u hu => h u (hsub hu))
      (fun u hu => hsize u (List.mem_cons_of_mem w hu)) ((apart_replaceAll h hapart w).mono hsub)
    have hcomm := replaceAll_comm (h v List.mem_cons_self)
      (h w (List.mem_cons_of_mem v List.mem_cons_self)) (hsize w List.mem_cons_self).symm
      (hapart.mono hpair)
    calc hideAll (w :: (front ++ v :: back)) text
        = hideAll (front ++ v :: back) (replaceAll w stars text) := rfl
      _ = hideAll (v :: (front ++ back)) (replaceAll w stars text) := hrest
      _ = hideAll (front ++ back) (replaceAll v stars (replaceAll w stars text)) := rfl
      _ = hideAll (front ++ back) (replaceAll w stars (replaceAll v stars text)) := by rw [hcomm]
      _ = hideAll (v :: w :: (front ++ back)) text := rfl

/-- A value that does not stand in the text need not be hidden. -/
theorem hideAll_filter (hv : Hideable v) (h : ¬ Occurs v text) :
    hideAll (order.filter (· != v)) text = hideAll order text := by
  induction order generalizing text with
  | nil => rfl
  | cons w order ih =>
    by_cases hw : w = v
    · subst hw
      have hsame : replaceAll w stars text = text := by
        rw [replaceAll, replaced_eq_self h, String.ofList_toList]
      have hfilter : (w :: order).filter (· != w) = order.filter (· != w) := by
        rw [List.filter_cons, if_neg (by simp)]
      calc hideAll ((w :: order).filter (· != w)) text
          = hideAll order text := by rw [hfilter, ih h]
        _ = hideAll order (replaceAll w stars text) := by rw [hsame]
    · have hfilter : (w :: order).filter (· != v) = w :: order.filter (· != v) := by
        rw [List.filter_cons, if_pos (by simpa using hw)]
      have hgone : ¬ Occurs v (replaceAll w stars text) := by
        intro ho
        rw [Occurs, replaceAll, String.toList_ofList] at ho
        exact h (infix_of_infix_replaced hv.toList_ne_nil stars_ne_nil hv.disjoint ho)
      rw [hfilter]
      exact ih hgone

/-- What one order has before the first value of another is as long as that value. -/
theorem size_of_mem_front {rest back : List String}
    (hdesc : (v :: rest).Pairwise fun a b => b.utf8ByteSize ≤ a.utf8ByteSize)
    (hdesc' : (front ++ v :: back).Pairwise fun a b => b.utf8ByteSize ≤ a.utf8ByteSize)
    (hfront : ∀ u ∈ front, u ∈ v :: rest) (hw : w ∈ front) :
    w.utf8ByteSize = v.utf8ByteSize := by
  have hge := (List.pairwise_append.mp hdesc').2.2 w hw v List.mem_cons_self
  rcases List.mem_cons.mp (hfront w hw) with rfl | hm
  · rfl
  · exact Nat.le_antisymm ((List.pairwise_cons.mp hdesc).1 w hm) hge

/-- Without a value that both have, two orders still have the same values. -/
theorem mem_others_iff {rest back : List String}
    (hmem : ∀ u, u ∈ v :: rest ↔ u ∈ front ++ v :: back) (u : String) :
    u ∈ rest.filter (· != v) ↔ u ∈ (front ++ back).filter (· != v) := by
  have hrest : (v :: rest).filter (· != v) = rest.filter (· != v) := by simp
  have hothers : (front ++ v :: back).filter (· != v) = (front ++ back).filter (· != v) := by
    simp [List.filter_append]
  rw [← hrest, ← hothers, List.mem_filter, List.mem_filter, hmem]

/-- The same values in two orders, each from long ones to short ones, hide the same. -/
theorem hideAll_eq_of_mem_iff (hmem : ∀ u, u ∈ order ↔ u ∈ order')
    (h : ∀ u ∈ order, Hideable u)
    (hdesc : order.Pairwise fun a b => b.utf8ByteSize ≤ a.utf8ByteSize)
    (hdesc' : order'.Pairwise fun a b => b.utf8ByteSize ≤ a.utf8ByteSize)
    (hapart : Apart order text) : hideAll order text = hideAll order' text := by
  induction hn : order.length using Nat.strong_induction_on generalizing order order' text with
  | _ n ih =>
    cases order with
    | nil =>
      have hnil : order' = [] :=
        List.eq_nil_iff_forall_not_mem.mpr fun u hu => List.not_mem_nil ((hmem u).mpr hu)
      rw [hnil]
    | cons v rest =>
      -- `v` is brought to the front of the other order. Once it has been hidden it stands in the
      -- text no more, and can be left out wherever else it is listed.
      obtain ⟨front, back, hsplit⟩ :=
        List.append_of_mem ((hmem v).mp List.mem_cons_self)
      subst hsplit
      have hv := h v List.mem_cons_self
      have hfront : ∀ u ∈ front, u ∈ v :: rest :=
        fun u hu => (hmem u).mpr (List.mem_append_left _ hu)
      have hfrontv : v :: front ⊆ v :: rest :=
        List.cons_subset.mpr ⟨List.mem_cons_self, fun u hu => hfront u hu⟩
      have hsize : ∀ u ∈ front, u.utf8ByteSize = v.utf8ByteSize :=
        fun u hu => size_of_mem_front hdesc hdesc' hfront hu
      have hgone : ¬ Occurs v (replaceAll v stars text) := by
        rw [Occurs, replaceAll, String.toList_ofList]
        exact not_infix_replaced hv.toList_ne_nil stars_ne_nil hv.disjoint
      have hrest : hideAll (rest.filter (· != v)) (replaceAll v stars text) =
          hideAll ((front ++ back).filter (· != v)) (replaceAll v stars text) := by
        refine ih _ ?_ (mem_others_iff hmem) (fun u hu => ?_) ?_ ?_ ?_ rfl
        · rw [← hn, List.length_cons]
          exact Nat.lt_succ_of_le (List.length_filter_le _ _)
        · exact h u (List.mem_cons_of_mem v (List.mem_of_mem_filter hu))
        · exact (List.pairwise_cons.mp hdesc).2.filter _
        · exact (hdesc'.sublist
            ((List.Sublist.refl front).append (List.sublist_cons_self v back))).filter _
        · refine (apart_replaceAll h hapart v).mono fun u hu => ?_
          exact List.mem_cons_of_mem v (List.mem_of_mem_filter hu)
      calc hideAll (v :: rest) text
          = hideAll rest (replaceAll v stars text) := rfl
        _ = hideAll (rest.filter (· != v)) (replaceAll v stars text) :=
            (hideAll_filter hv hgone).symm
        _ = hideAll ((front ++ back).filter (· != v)) (replaceAll v stars text) := hrest
        _ = hideAll (v :: (front ++ back)) text := hideAll_filter hv hgone
        _ = hideAll (front ++ v :: back) text :=
            (hideAll_append_cons (fun u hu => h u (hfrontv hu)) hsize (hapart.mono hfrontv)
              back).symm

/-- Two secrets of one length are hidden in the order of their names. -/
theorem mask_pair (hv : Hideable v) (hw : Hideable w) (hsize : v.utf8ByteSize = w.utf8ByteSize)
    (a b text : String) : mask ⟨[(a, v), (b, w)]⟩ text = hideAll [v, w] text := by
  have hfilter : [v, w].filter (!·.isEmpty) = [v, w] := by
    simp [hv.1, hw.1]
  have hsorted : ([v, w].filter (!·.isEmpty)).Pairwise fun a b =>
      decide (b.utf8ByteSize ≤ a.utf8ByteSize) = true := by
    rw [hfilter]
    exact List.pairwise_pair.mpr (decide_eq_true (Nat.le_of_eq hsize.symm))
  have hmask := mask_eq_hideAll (s := ⟨[(a, v), (b, w)]⟩) hsorted text
  rwa [List.map_cons, List.map_cons, List.map_nil, hfilter] at hmask

/-- If two secrets of one length can collide, it shows in which order they are hidden. -/
theorem exists_hideAll_ne (hv : Hideable v) (hw : Hideable w) (hne : v ≠ w)
    (hsize : v.utf8ByteSize = w.utf8ByteSize) {cs : List Char}
    (hc : Collides v.toList w.toList cs) : ∃ text, hideAll [v, w] text ≠ hideAll [w, v] text := by
  obtain ⟨front, mid, back, hmid, hfront, hback, _⟩ := hc
  refine ⟨String.ofList (front ++ mid ++ back), fun he => ?_⟩
  have hlists : replaced w.toList stars.toList (replaced v.toList stars.toList
        (front ++ mid ++ back)) =
      replaced v.toList stars.toList (replaced w.toList stars.toList (front ++ mid ++ back)) := by
    have hinner := congrArg String.toList he
    simpa only [hideAll, List.foldl_cons, List.foldl_nil, replaceAll, String.toList_ofList]
      using hinner
  have hvw := not_infix_of_ne hne hsize
  have hwv := not_infix_of_ne (Ne.symm hne) hsize.symm
  have hstars : stars.toList = '*' :: ['*', '*'] := rfl
  have hstar := hv.2
  have hdisjoint := hw.disjoint
  rw [hstars] at hlists hdisjoint
  rw [hfront, hback] at hlists hvw hwv
  rw [hfront] at hstar
  rw [hback] at hdisjoint
  exact replaced_ne_of_collision hmid hstar hdisjoint hvw hwv hlists

/-- The order of two secrets of one length never shows exactly if they cannot collide. -/
theorem hideAll_pair_comm_iff (hv : Hideable v) (hw : Hideable w) (hne : v ≠ w)
    (hsize : v.utf8ByteSize = w.utf8ByteSize) :
    (∀ text, hideAll [v, w] text = hideAll [w, v] text) ↔ ∀ text, Apart [v, w] text := by
  constructor
  · intro hall text x hx y hy hxy _ hc
    have hcase : x = v ∧ y = w ∨ x = w ∧ y = v := by
      simp only [List.mem_cons, List.not_mem_nil, or_false] at hx hy
      grind
    rcases hcase with ⟨rfl, rfl⟩ | ⟨rfl, rfl⟩
    · obtain ⟨text', hdiff⟩ := exists_hideAll_ne hv hw hne hsize hc
      exact hdiff (hall text')
    · obtain ⟨text', hdiff⟩ := exists_hideAll_ne hw hv (Ne.symm hne) hsize.symm hc
      exact hdiff (hall text').symm
  · intro hapart text
    exact (replaceAll_comm hv hw hsize (hapart text)).symm

theorem ne_empty_of_ne (hne : v ≠ w) (hsize : v.utf8ByteSize = w.utf8ByteSize) : v ≠ "" := by
  rintro rfl
  have hw : w = "" :=
    String.utf8ByteSize_eq_zero_iff.mp (hsize.symm.trans String.utf8ByteSize_empty)
  exact hne hw.symm

/-- Masking depends on nothing but which values are secret, as long as no two secrets of one length
collide in the text. Two secrets of one length may change names exactly if they never do. -/
theorem maskings_agree {s s' : ScopedSecrets}
    (hsame : ∀ value, value ∈ s.values.map Prod.snd ↔ value ∈ s'.values.map Prod.snd)
    (hs : ∀ value ∈ s.values.map Prod.snd, '*' ∉ value.toList) :
    (∀ text out out', Apart (s.values.map Prod.snd) text → s.MasksTo text out →
      s'.MasksTo text out' → out = out') ∧
    ∀ v ∈ s.values.map Prod.snd, ∀ w ∈ s.values.map Prod.snd, v ≠ w →
      v.utf8ByteSize = w.utf8ByteSize →
        ((∀ text, mask ⟨[("A", v), ("B", w)]⟩ text = mask ⟨[("A", w), ("B", v)]⟩ text) ↔
          ∀ text, Apart [v, w] text) := by
  constructor
  · rintro text _ _ hapart ⟨order, horder, rfl⟩ ⟨order', horder', rfl⟩
    have hmem : ∀ u, u ∈ order ↔ u ∈ order' := by
      intro u
      rw [horder.mem_iff, horder'.mem_iff, hsame]
    exact hideAll_eq_of_mem_iff hmem (horder.hideable hs) horder.descending horder'.descending
      (hapart.mono horder.subset)
  · intro v hvm w hwm hne hsize
    have hv : Hideable v := ⟨ne_empty_of_ne hne hsize, hs v hvm⟩
    have hw : Hideable w := ⟨ne_empty_of_ne (Ne.symm hne) hsize.symm, hs w hwm⟩
    rw [← hideAll_pair_comm_iff hv hw hne hsize]
    refine forall_congr' fun text => ?_
    rw [mask_pair hv hw hsize, mask_pair hw hv hsize.symm]

def doubled : ScopedSecrets := ⟨[("A", "abc"), ("B", "def"), ("C", "abc"), ("D", "ab")]⟩

def renamed : ScopedSecrets := ⟨[("X", "def"), ("Y", "ab"), ("Z", "abc")]⟩

theorem maskings_agree_renamed :
    (∀ value, value ∈ doubled.values.map Prod.snd ↔ value ∈ renamed.values.map Prod.snd) ∧
      (∀ value ∈ doubled.values.map Prod.snd, '*' ∉ value.toList) ∧
      Apart (doubled.values.map Prod.snd) "abcdefab" ∧
      doubled.mask "abcdefab" = renamed.mask "abcdefab" := by
  have hsame : ∀ value, value ∈ doubled.values.map Prod.snd ↔
      value ∈ renamed.values.map Prod.snd := by
    intro value
    simp only [doubled, renamed, List.map_cons, List.map_nil, List.mem_cons, List.not_mem_nil]
    grind
  have hs : ∀ value ∈ doubled.values.map Prod.snd, '*' ∉ value.toList := by decide
  have hapart : Apart (doubled.values.map Prod.snd) "abcdefab" := by decide +kernel
  exact ⟨hsame, hs, hapart, (maskings_agree hsame hs).1 "abcdefab" _ _ hapart
    (doubled.masksTo_mask "abcdefab") (renamed.masksTo_mask "abcdefab")⟩

/-- Two secrets of one length that change names are masked in another way where they collide, and
the stars of one secret are masked once more if a secret that is a star has two names. -/
theorem maskings_differ :
    (∀ value, value ∈ (⟨[("A", "abc"), ("B", "bcd")]⟩ : ScopedSecrets).values.map Prod.snd ↔
        value ∈ (⟨[("A", "bcd"), ("B", "abc")]⟩ : ScopedSecrets).values.map Prod.snd) ∧
      mask ⟨[("A", "abc"), ("B", "bcd")]⟩ "abcd" = "***d" ∧
      mask ⟨[("A", "bcd"), ("B", "abc")]⟩ "abcd" = "a***" ∧
      (∀ value, value ∈ (⟨[("A", "*")]⟩ : ScopedSecrets).values.map Prod.snd ↔
        value ∈ (⟨[("A", "*"), ("B", "*")]⟩ : ScopedSecrets).values.map Prod.snd) ∧
      mask ⟨[("A", "*")]⟩ "*" = "***" ∧ mask ⟨[("A", "*"), ("B", "*")]⟩ "*" = "*********" := by
  refine ⟨?_, ?_, ?_, ?_, ?_, ?_⟩
  · intro value
    simp only [List.map_cons, List.map_nil, List.mem_cons, List.not_mem_nil, or_false]
    exact or_comm
  · exact (mask_eq_hideAll (by decide) "abcd").trans (by decide +kernel)
  · exact (mask_eq_hideAll (by decide) "abcd").trans (by decide +kernel)
  · intro value
    simp only [List.map_cons, List.map_nil, List.mem_cons, List.not_mem_nil, or_false, or_self]
  · exact (mask_eq_hideAll (by decide) "*").trans (by decide +kernel)
  · exact (mask_eq_hideAll (by decide) "*").trans (by decide +kernel)

end ScopedSecrets

end GatedPipeline
