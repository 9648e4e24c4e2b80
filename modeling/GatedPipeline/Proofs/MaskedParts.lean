import GatedPipeline.Proofs.Masking

namespace GatedPipeline

open ScopedSecrets (stars Hideable)

inductive Part where
  | shown (c : Char)
  | hidden (value : String)
deriving DecidableEq

namespace Part

def original : Part → List Char
  | shown c => [c]
  | hidden value => value.toList

def masked : Part → List Char
  | shown c => [c]
  | hidden _ => stars.toList

def originals (parts : List Part) : List Char := parts.flatMap original

def maskeds (parts : List Part) : List Char := parts.flatMap masked

/-- The characters that are left once the stars are taken away. -/
def visible (parts : List Part) : List Char :=
  parts.filterMap fun
    | shown c => some c
    | hidden _ => none

/-- The character at a place of the text is one of a hidden value. -/
def hides : List Part → Nat → Bool
  | [], _ => false
  | shown _ :: _, 0 => false
  | shown _ :: parts, i + 1 => hides parts i
  | hidden value :: parts, i =>
    if i < value.toList.length then true else hides parts (i - value.toList.length)

/-- Hides a value wherever all of its characters are still shown. -/
def hide (value : String) : List Part → List Part
  | [] => []
  | part :: parts =>
    if (value.toList.map shown).isPrefixOf (part :: parts) then
      hidden value :: hide value (parts.drop (value.toList.length - 1))
    else part :: hide value parts
termination_by parts => parts.length
decreasing_by
  · simp only [List.length_drop, List.length_cons]; omega
  · simp

def hideEach (order : List String) (parts : List Part) : List Part :=
  order.foldl (fun parts value => hide value parts) parts

variable {order : List String} {value : String} {v : List Char} {part : Part}
  {parts rest : List Part} {i : Nat}

theorem originals_map_shown (v : List Char) : originals (v.map shown) = v := by
  induction v with
  | nil => rfl
  | cons c v ih => exact congrArg (c :: ·) ih

theorem maskeds_map_shown (v : List Char) : maskeds (v.map shown) = v := by
  induction v with
  | nil => rfl
  | cons c v ih => exact congrArg (c :: ·) ih

/-- A value without stars begins a masked text only where its characters are shown. -/
theorem prefix_maskeds_iff (hs : '*' ∉ v) (parts : List Part) :
    v <+: maskeds parts ↔ v.map shown <+: parts := by
  induction v generalizing parts with
  | nil => exact iff_of_true List.nil_prefix List.nil_prefix
  | cons c v ih =>
    have hv : '*' ∉ v := fun hm => hs (List.mem_cons_of_mem c hm)
    cases parts with
    | nil => exact iff_of_false (by simp [maskeds]) (by simp)
    | cons part parts =>
      cases part with
      | shown d =>
        have hstep : c :: v <+: maskeds (shown d :: parts) ↔ c = d ∧ v <+: maskeds parts :=
          List.cons_prefix_cons
        rw [hstep, List.map_cons, List.cons_prefix_cons, shown.injEq, ih hv]
      | hidden w =>
        refine iff_of_false ?_ ?_
        · intro hp
          have hstar : c = '*' := (List.cons_prefix_cons.mp hp).1
          exact hs (hstar ▸ List.mem_cons_self)
        · intro hp
          cases (List.cons_prefix_cons.mp hp).1

/-- What is hidden first of all. -/
theorem eq_append_of_begins (h : (value.toList.map shown).isPrefixOf (part :: parts) = true)
    (hv : value ≠ "") :
    part :: parts = value.toList.map shown ++ parts.drop (value.toList.length - 1) := by
  obtain ⟨rest, hrest⟩ := List.isPrefixOf_iff_prefix.mp h
  obtain ⟨c, cs, hc⟩ := List.exists_cons_of_ne_nil
    (fun he : value.toList = [] => hv (String.toList_eq_nil_iff.mp he))
  rw [hc, List.map_cons, List.cons_append] at hrest
  obtain ⟨rfl, rfl⟩ := List.cons.inj hrest
  have hdrop : (cs.map shown ++ rest).drop ((c :: cs).length - 1) = rest :=
    List.drop_left' (by simp)
  rw [hc, hdrop, List.map_cons, List.cons_append]

/-- Hiding a value among the parts is replacing it in the masked text. -/
theorem maskeds_hide (h : Hideable value) (parts : List Part) :
    maskeds (hide value parts) = Text.replaced value.toList stars.toList (maskeds parts) := by
  have hnil : value.toList ≠ [] := h.toList_ne_nil
  fun_induction hide value parts with
  | case1 => exact (Text.replaced_eq_self (by simpa [maskeds] using hnil)).symm
  | case2 part parts hp ih =>
    have hsplit : maskeds (part :: parts) =
        value.toList ++ maskeds (parts.drop (value.toList.length - 1)) := by
      rw [eq_append_of_begins hp h.1, maskeds, List.flatMap_append]
      exact congrArg (· ++ _) (maskeds_map_shown value.toList)
    rw [hsplit, Text.replaced_append_self hnil, ← ih]
    rfl
  | case3 part parts hp ih =>
    cases part with
    | shown c =>
      have hno : ¬ value.toList <+: c :: maskeds parts := fun hpre =>
        hp (List.isPrefixOf_iff_prefix.mpr ((prefix_maskeds_iff h.2 (shown c :: parts)).mp hpre))
      calc maskeds (shown c :: hide value parts)
          = c :: maskeds (hide value parts) := rfl
        _ = c :: Text.replaced value.toList stars.toList (maskeds parts) := by rw [ih]
        _ = Text.replaced value.toList stars.toList (c :: maskeds parts) :=
          (Text.replaced_cons_of_unmatched hno).symm
    | hidden w =>
      calc maskeds (hidden w :: hide value parts)
          = stars.toList ++ maskeds (hide value parts) := rfl
        _ = stars.toList ++ Text.replaced value.toList stars.toList (maskeds parts) := by rw [ih]
        _ = Text.replaced value.toList stars.toList (stars.toList ++ maskeds parts) :=
          (Text.replaced_append_of_disjoint hnil h.disjoint _).symm

theorem originals_hide (hv : value ≠ "") (parts : List Part) :
    originals (hide value parts) = originals parts := by
  fun_induction hide value parts with
  | case1 => rfl
  | case2 part parts hp ih =>
    rw [eq_append_of_begins hp hv, originals, originals, List.flatMap_cons, List.flatMap_append]
    exact congrArg₂ (· ++ ·) (originals_map_shown value.toList).symm ih
  | case3 part parts _ ih => exact congrArg (part.original ++ ·) ih

theorem mem_hide {w : String} (h : hidden w ∈ hide value parts) : w = value ∨ hidden w ∈ parts := by
  fun_induction hide value parts with
  | case1 => cases h
  | case2 part parts _ ih =>
    rcases List.mem_cons.mp h with he | h
    · exact .inl (hidden.inj he)
    · exact (ih h).imp_right fun hm => List.mem_cons_of_mem part (List.mem_of_mem_drop hm)
  | case3 part parts _ ih =>
    rcases List.mem_cons.mp h with he | h
    · exact .inr (he ▸ List.mem_cons_self)
    · exact (ih h).imp_right (List.mem_cons_of_mem part)

theorem hides_hidden_cons : hides (hidden value :: parts) i =
    if i < value.toList.length then true else hides parts (i - value.toList.length) := by
  cases i <;> rfl

theorem hides_map_shown_append (v : List Char) (rest : List Part) (i : Nat) :
    hides (v.map shown ++ rest) i = if i < v.length then false else hides rest (i - v.length) := by
  induction v generalizing i with
  | nil => rfl
  | cons c v ih =>
    cases i with
    | zero => rfl
    | succ i =>
      rw [List.map_cons, List.cons_append, hides, ih, List.length_cons]
      simp only [Nat.succ_lt_succ_iff, Nat.succ_sub_succ]

/-- What is hidden stays hidden. -/
theorem hides_hide (hv : value ≠ "") (h : hides parts i = true) :
    hides (hide value parts) i = true := by
  fun_induction hide value parts generalizing i with
  | case1 => exact h
  | case2 part parts hp ih =>
    rw [eq_append_of_begins hp hv, hides_map_shown_append] at h
    rw [hides_hidden_cons]
    split
    · rfl
    · rename_i hi
      rw [if_neg hi] at h
      exact ih h
  | case3 part parts _ ih =>
    cases part with
    | shown c =>
      cases i with
      | zero => exact h
      | succ i => exact ih h
    | hidden w =>
      rw [hides_hidden_cons] at h ⊢
      split
      · rfl
      · rename_i hi
        rw [if_neg hi] at h
        exact ih h

theorem hides_append_of_le {front : List Part} (h : (originals front).length ≤ i) :
    hides (front ++ rest) i = hides rest (i - (originals front).length) := by
  induction front generalizing i with
  | nil => rfl
  | cons part front ih =>
    have hlen : (originals (part :: front)).length =
        part.original.length + (originals front).length := List.length_append
    rw [hlen] at h ⊢
    cases part with
    | shown c =>
      cases i with
      | zero => exact absurd h (by simp [original])
      | succ i =>
        have hle : (originals front).length ≤ i := by simp [original] at h; omega
        have hsub : i + 1 - ((shown c).original.length + (originals front).length) =
            i - (originals front).length := by simp [original]; omega
        rw [hsub, ← ih hle]
        rfl
    | hidden w =>
      have hw : ¬ i < w.toList.length := by simp only [original] at h; omega
      have hle : (originals front).length ≤ i - w.toList.length := by
        simp only [original] at h; omega
      rw [List.cons_append, hides_hidden_cons, if_neg hw, ih hle, Nat.sub_sub]
      rfl

/-- All of a hidden value is hidden. -/
theorem hides_of_split {front back : List Part} (hparts : parts = front ++ hidden value :: back)
    (hl : (originals front).length ≤ i)
    (hr : i < (originals front).length + value.toList.length) : hides parts i = true := by
  have hlt : i - (originals front).length < value.toList.length := by omega
  rw [hparts, hides_append_of_le hl, hides_hidden_cons, if_pos hlt]

/-- What is hidden is part of a hidden value. -/
theorem exists_split_of_hides (h : hides parts i = true) :
    ∃ front value back, parts = front ++ hidden value :: back ∧ (originals front).length ≤ i ∧
      i < (originals front).length + value.toList.length := by
  induction parts generalizing i with
  | nil => cases h
  | cons part parts ih =>
    cases part with
    | shown c =>
      cases i with
      | zero => cases h
      | succ i =>
        obtain ⟨front, value, back, rfl, hl, hr⟩ := ih h
        refine ⟨shown c :: front, value, back, rfl, ?_, ?_⟩
        · exact Nat.succ_le_succ hl
        · have hlen : (originals (shown c :: front)).length = (originals front).length + 1 := rfl
          omega
    | hidden w =>
      rw [hides_hidden_cons] at h
      split at h
      · rename_i hi
        exact ⟨[], w, parts, rfl, Nat.zero_le i, by simpa [originals] using hi⟩
      · rename_i hi
        obtain ⟨front, value, back, rfl, hl, hr⟩ := ih h
        have hlen : (originals (hidden w :: front)).length =
            w.toList.length + (originals front).length := List.length_append
        exact ⟨hidden w :: front, value, back, rfl, by omega, by omega⟩

theorem visible_eq_filter (h : '*' ∉ originals parts) :
    visible parts = (maskeds parts).filter (· != '*') := by
  induction parts with
  | nil => rfl
  | cons part parts ih =>
    have hrest : '*' ∉ originals parts := fun hm => h (List.mem_append_right _ hm)
    cases part with
    | shown c =>
      have hc : c ≠ '*' := by
        rintro rfl
        exact h List.mem_cons_self
      calc visible (shown c :: parts)
          = c :: visible parts := rfl
        _ = c :: (maskeds parts).filter (· != '*') := by rw [ih hrest]
        _ = (c :: maskeds parts).filter (· != '*') := by
          simp only [List.filter_cons, bne_iff_ne, ne_eq, hc, not_false_eq_true, if_true]
    | hidden w =>
      calc visible (hidden w :: parts)
          = (maskeds parts).filter (· != '*') := ih hrest
        _ = (stars.toList ++ maskeds parts).filter (· != '*') := by
          rw [List.filter_append]
          rfl

theorem maskeds_hideEach (ho : ∀ value ∈ order, Hideable value) (parts : List Part) :
    maskeds (hideEach order parts) =
      (ScopedSecrets.hideAll order (String.ofList (maskeds parts))).toList := by
  induction order generalizing parts with
  | nil => exact String.toList_ofList.symm
  | cons value rest ih =>
    have hrest : ∀ w ∈ rest, Hideable w := fun w hw => ho w (List.mem_cons_of_mem value hw)
    calc maskeds (hideEach rest (hide value parts))
        = (ScopedSecrets.hideAll rest (String.ofList (maskeds (hide value parts)))).toList :=
          ih hrest _
      _ = (ScopedSecrets.hideAll rest (Text.replaceAll value stars
            (String.ofList (maskeds parts)))).toList := by
          rw [maskeds_hide (ho value List.mem_cons_self), Text.replaceAll, String.toList_ofList]

theorem originals_hideEach (ho : ∀ value ∈ order, Hideable value) (parts : List Part) :
    originals (hideEach order parts) = originals parts := by
  induction order generalizing parts with
  | nil => rfl
  | cons value rest ih =>
    have hrest : ∀ w ∈ rest, Hideable w := fun w hw => ho w (List.mem_cons_of_mem value hw)
    exact (ih hrest _).trans (originals_hide (ho value List.mem_cons_self).1 parts)

theorem mem_hideEach (h : hidden value ∈ hideEach order parts) :
    value ∈ order ∨ hidden value ∈ parts := by
  induction order generalizing parts with
  | nil => exact .inr h
  | cons w rest ih =>
    rcases ih h with hm | hm
    · exact .inl (List.mem_cons_of_mem w hm)
    · rcases mem_hide hm with rfl | hm
      · exact .inl List.mem_cons_self
      · exact .inr hm

theorem hides_hideEach (ho : ∀ value ∈ order, Hideable value) (h : hides parts i = true) :
    hides (hideEach order parts) i = true := by
  induction order generalizing parts with
  | nil => exact h
  | cons w rest ih =>
    have hrest : ∀ v ∈ rest, Hideable v := fun v hv => ho v (List.mem_cons_of_mem w hv)
    exact ih hrest (hides_hide (ho w List.mem_cons_self).1 h)

theorem hideEach_append (front back : List String) (parts : List Part) :
    hideEach (front ++ back) parts = hideEach back (hideEach front parts) := List.foldl_append

section Shown

variable {text : List Char}

theorem originals_hideEach_shown (ho : ∀ value ∈ order, Hideable value) (text : List Char) :
    originals (hideEach order (text.map shown)) = text := by
  rw [originals_hideEach ho, originals_map_shown]

theorem maskeds_hideEach_shown (ho : ∀ value ∈ order, Hideable value) (text : List Char) :
    maskeds (hideEach order (text.map shown)) =
      (ScopedSecrets.hideAll order (String.ofList text)).toList := by
  rw [maskeds_hideEach ho, maskeds_map_shown]

theorem mem_of_hidden_mem_hideEach (h : hidden value ∈ hideEach order (text.map shown)) :
    value ∈ order := by
  rcases mem_hideEach h with hm | hm
  · exact hm
  · obtain ⟨c, _, hc⟩ := List.mem_map.mp hm
    cases hc

end Shown

end Part

end GatedPipeline
