import GatedPipeline.Secret.Scope
import Mathlib.Data.List.Infix

namespace GatedPipeline

namespace Text

/-- The value stands somewhere in the text. -/
def Occurs (value text : String) : Prop := value.toList <:+: text.toList

instance (value text : String) : Decidable (Occurs value text) :=
  decidable_of_iff (isInfix value.toList text.toList = true) isInfix_iff

variable {old new v rest text : List Char}

theorem eq_nil_of_prefix_cons {c : Char} (hc : c ∉ v) (h : v <+: c :: rest) : v = [] := by
  rcases List.prefix_cons_iff.mp h with rfl | ⟨t, rfl, _⟩
  · rfl
  · exact absurd List.mem_cons_self hc

/-- What does not have the character that divides a text lies on one side of it. -/
theorem infix_of_infix_append_cons {c : Char} {before : List Char} (hc : c ∉ v)
    (h : v <:+: before ++ c :: rest) : v <:+: before ∨ v <:+: rest := by
  rcases List.infix_append_iff.mp h with h | h | ⟨front, back, rfl, hfront, hback⟩
  · exact .inl h
  · rcases List.infix_cons_iff.mp h with h | h
    · exact .inl (eq_nil_of_prefix_cons hc h ▸ List.nil_infix)
    · exact .inr h
  · have hnil := eq_nil_of_prefix_cons (fun hm => hc (List.mem_append_right _ hm)) hback
    rw [hnil, List.append_nil]
    exact .inl hfront.isInfix

theorem infix_of_infix_append (hv : v ≠ []) (hd : ∀ c ∈ new, c ∉ v) (h : v <:+: new ++ rest) :
    v <:+: rest := by
  induction new with
  | nil => exact h
  | cons c new ih =>
    rcases List.infix_cons_iff.mp h with h | h
    · exact absurd (eq_nil_of_prefix_cons (hd c List.mem_cons_self) h) hv
    · exact ih (fun d hd' => hd d (List.mem_cons_of_mem c hd')) h

/-- What is put in has no character of the value, so the value starts a replaced text only where it
started the text before. -/
theorem prefix_of_prefix_replaced (hn : new ≠ []) (hd : ∀ c ∈ new, c ∉ v)
    (h : v <+: replaced old new text) : v <+: text := by
  fun_induction replaced old new text generalizing v with
  | case1 => exact h
  | case2 c cs _ ih =>
    obtain ⟨d, new', rfl⟩ := List.exists_cons_of_ne_nil hn
    rw [eq_nil_of_prefix_cons (hd d List.mem_cons_self) h]
    exact List.nil_prefix
  | case3 c cs _ ih =>
    rcases List.prefix_cons_iff.mp h with rfl | ⟨t, rfl, ht⟩
    · exact List.nil_prefix
    · refine List.cons_prefix_cons.mpr ⟨rfl, ih (fun d hd' hm => ?_) ht⟩
      exact hd d hd' (List.mem_cons_of_mem c hm)

/-- Replacing makes no value appear that was not there. -/
theorem infix_of_infix_replaced (hv : v ≠ []) (hn : new ≠ []) (hd : ∀ c ∈ new, c ∉ v)
    (h : v <:+: replaced old new text) : v <:+: text := by
  fun_induction replaced old new text with
  | case1 => exact h
  | case2 c cs _ ih =>
    have hrest := ih (infix_of_infix_append hv hd h)
    exact hrest.trans ((List.drop_suffix _ cs).isInfix.trans (List.suffix_cons c cs).isInfix)
  | case3 c cs hno ih =>
    rcases List.infix_cons_iff.mp h with hp | hi
    · have hreplaced : c :: replaced old new cs = replaced old new (c :: cs) := by
        rw [replaced, if_neg hno]
      exact (prefix_of_prefix_replaced hn hd (hreplaced ▸ hp)).isInfix
    · exact (ih hi).trans (List.suffix_cons c cs).isInfix

/-- No occurrence of the replaced text is left. -/
theorem not_infix_replaced (ho : old ≠ []) (hn : new ≠ []) (hd : ∀ c ∈ new, c ∉ old) :
    ¬ old <:+: replaced old new text := by
  fun_induction replaced old new text with
  | case1 => simpa using ho
  | case2 c cs _ ih => exact fun h => ih (infix_of_infix_append ho hd h)
  | case3 c cs hno ih =>
    intro h
    rcases List.infix_cons_iff.mp h with hp | hi
    · have hreplaced : c :: replaced old new cs = replaced old new (c :: cs) := by
        rw [replaced, if_neg hno]
      exact hno (List.isPrefixOf_iff_prefix.mpr (prefix_of_prefix_replaced hn hd (hreplaced ▸ hp)))
    · exact ih hi

/-- What does not stand in a text is replaced nowhere. -/
theorem replaced_eq_self (h : ¬ old <:+: text) : replaced old new text = text := by
  fun_induction replaced old new text with
  | case1 => rfl
  | case2 c cs hp _ => exact absurd (List.isPrefixOf_iff_prefix.mp hp).isInfix h
  | case3 c cs _ ih =>
    have hrest : ¬ old <:+: cs := fun ho => h (ho.trans (List.suffix_cons c cs).isInfix)
    rw [ih hrest]

theorem replaced_append_self (ho : old ≠ []) (rest : List Char) :
    replaced old new (old ++ rest) = new ++ replaced old new rest := by
  obtain ⟨c, cs, rfl⟩ := List.exists_cons_of_ne_nil ho
  have hp : (c :: cs).isPrefixOf (c :: (cs ++ rest)) = true :=
    List.isPrefixOf_iff_prefix.mpr (List.prefix_append (c :: cs) rest)
  have hrest : (cs ++ rest).drop ((c :: cs).length - 1) = rest := List.drop_left
  rw [List.cons_append, replaced, if_pos hp, hrest]

theorem replaced_cons_of_unmatched {c : Char} (h : ¬ old <+: c :: text) :
    replaced old new (c :: text) = c :: replaced old new text := by
  rw [replaced, if_neg fun hp => h (List.isPrefixOf_iff_prefix.mp hp)]

/-- What the replaced text starts nowhere in is passed over. -/
theorem replaced_append {front : List Char}
    (h : ∀ back, back ≠ [] → back <:+ front → ¬ old <+: back ++ rest) :
    replaced old new (front ++ rest) = front ++ replaced old new rest := by
  induction front with
  | nil => rfl
  | cons c front ih =>
    have hhere : ¬ old <+: c :: (front ++ rest) :=
      h (c :: front) (List.cons_ne_nil c front) List.suffix_rfl
    have hrest := ih fun back hb hs => h back hb (hs.trans (List.suffix_cons c front))
    rw [List.cons_append, replaced_cons_of_unmatched hhere, hrest, List.cons_append]

theorem replaced_append_of_disjoint {front : List Char} (ho : old ≠ [])
    (hd : ∀ c ∈ front, c ∉ old) (rest : List Char) :
    replaced old new (front ++ rest) = front ++ replaced old new rest := by
  apply replaced_append
  intro back hb hs hp
  obtain ⟨c, back, rfl⟩ := List.exists_cons_of_ne_nil hb
  exact ho (eq_nil_of_prefix_cons (hd c (hs.subset List.mem_cons_self)) hp)

/-- A value without a line break lies in one line of a text. -/
theorem occurs_of_occurs_intercalate {value : String} {lines : List String} (hv : value ≠ "")
    (hb : '\n' ∉ value.toList) (h : Occurs value ("\n".intercalate lines)) :
    ∃ line ∈ lines, Occurs value line := by
  rw [Occurs, String.toList_intercalate] at h
  induction lines with
  | nil => exact absurd (String.toList_eq_nil_iff.mp (List.infix_nil.mp h)) hv
  | cons line lines ih =>
    cases lines with
    | nil => exact ⟨line, List.mem_cons_self, by simpa [Occurs] using h⟩
    | cons next lines =>
      simp only [List.map_cons, List.intercalate_cons_cons, List.append_assoc] at h
      rcases infix_of_infix_append_cons hb h with h | h
      · exact ⟨line, List.mem_cons_self, h⟩
      · obtain ⟨l, hl, ho⟩ := ih h
        exact ⟨l, List.mem_cons_of_mem line hl, ho⟩

end Text

namespace ScopedSecrets

theorem mem_hidden {s : ScopedSecrets} {value : String} :
    value ∈ s.hidden ↔ value ∈ s.values.map Prod.snd ∧ value ≠ "" := by
  simp [hidden, List.mem_mergeSort]

def hideAll (order : List String) (text : String) : String :=
  order.foldl (fun t value => Text.replaceAll value stars t) text

/-- What can be hidden: neither empty nor with the character that stands in its place. -/
def Hideable (value : String) : Prop := value ≠ "" ∧ '*' ∉ value.toList

theorem Hideable.toList_ne_nil {value : String} (h : Hideable value) : value.toList ≠ [] :=
  fun he => h.1 (String.toList_eq_nil_iff.mp he)

theorem Hideable.disjoint {value : String} (h : Hideable value) :
    ∀ c ∈ stars.toList, c ∉ value.toList := by
  intro c hc
  have hstar : c = '*' := by simpa [stars] using hc
  rw [hstar]
  exact h.2

theorem stars_ne_nil : stars.toList ≠ [] := by decide

/-- A value that has been replaced does not come back while others are. -/
theorem not_occurs_hideAll {value : String} (hv : Hideable value) {order : List String}
    {text : String} (h : value ∈ order ∨ ¬ Text.Occurs value text) :
    ¬ Text.Occurs value (hideAll order text) := by
  induction order generalizing text with
  | nil => simpa [hideAll] using h
  | cons w order ih =>
    change ¬ Text.Occurs value (hideAll order (Text.replaceAll w stars text))
    apply ih
    simp only [Text.Occurs, Text.replaceAll, String.toList_ofList]
    rcases h with h | h
    · rcases List.mem_cons.mp h with rfl | h
      · exact .inr (Text.not_infix_replaced hv.toList_ne_nil stars_ne_nil hv.disjoint)
      · exact .inl h
    · right
      exact fun ho =>
        h (Text.infix_of_infix_replaced hv.toList_ne_nil stars_ne_nil hv.disjoint ho)

/-- A masked text shows no secret. -/
theorem not_occurs_mask {s : ScopedSecrets} {value : String} (hm : value ∈ s.values.map Prod.snd)
    (hv : value ≠ "") (hs : '*' ∉ value.toList) (text : String) :
    ¬ Text.Occurs value (s.mask text) :=
  not_occurs_hideAll ⟨hv, hs⟩ (.inl (mem_hidden.mpr ⟨hm, hv⟩))

/-- An order in which the values may be hidden: none comes after a shorter one. Which of two values
of the same length comes first is left open, as it depends on the names they are bound to. -/
structure Sequenced (s : ScopedSecrets) (order : List String) : Prop where
  perm : order.Perm ((s.values.map Prod.snd).filter (!·.isEmpty))
  descending : order.Pairwise fun a b => b.utf8ByteSize ≤ a.utf8ByteSize

/-- What masking may make of a text. -/
def MasksTo (s : ScopedSecrets) (text out : String) : Prop :=
  ∃ order, s.Sequenced order ∧ hideAll order text = out

variable {s : ScopedSecrets} {order : List String} {text out value : String}

theorem Sequenced.mem_iff (h : s.Sequenced order) :
    value ∈ order ↔ value ∈ s.values.map Prod.snd ∧ value ≠ "" := by
  rw [h.perm.mem_iff, List.mem_filter]
  simp

theorem Sequenced.subset (h : s.Sequenced order) : order ⊆ s.values.map Prod.snd :=
  fun _ hm => (h.mem_iff.mp hm).1

theorem Sequenced.hideable (h : s.Sequenced order)
    (hs : ∀ value ∈ s.values.map Prod.snd, '*' ∉ value.toList) :
    ∀ value ∈ order, Hideable value :=
  fun value hm => ⟨(h.mem_iff.mp hm).2, hs value (h.mem_iff.mp hm).1⟩

theorem sequenced_hidden (s : ScopedSecrets) : s.Sequenced s.hidden := by
  constructor
  · exact List.mergeSort_perm _ _
  · have htrans : ∀ a b c : String, decide (b.utf8ByteSize ≤ a.utf8ByteSize) = true →
        decide (c.utf8ByteSize ≤ b.utf8ByteSize) = true →
        decide (c.utf8ByteSize ≤ a.utf8ByteSize) = true := by
      intro a b c hab hbc
      exact decide_eq_true (Nat.le_trans (of_decide_eq_true hbc) (of_decide_eq_true hab))
    have htotal : ∀ a b : String, (decide (b.utf8ByteSize ≤ a.utf8ByteSize) ||
        decide (a.utf8ByteSize ≤ b.utf8ByteSize)) = true := by
      intro a b
      rw [Bool.or_eq_true, decide_eq_true_iff, decide_eq_true_iff]
      exact Nat.le_total _ _
    exact (List.pairwise_mergeSort htrans htotal _).imp of_decide_eq_true

/-- Names that ascend put the values in one of these orders. -/
theorem masksTo_mask (s : ScopedSecrets) (text : String) : s.MasksTo text (s.mask text) :=
  ⟨s.hidden, s.sequenced_hidden, rfl⟩

/-- Values that are listed from long ones to short ones are hidden as they are listed. -/
theorem mask_eq_hideAll (h : ((s.values.map Prod.snd).filter (!·.isEmpty)).Pairwise fun a b =>
    decide (b.utf8ByteSize ≤ a.utf8ByteSize) = true) (text : String) :
    s.mask text = hideAll ((s.values.map Prod.snd).filter (!·.isEmpty)) text := by
  have hhidden : s.hidden = (s.values.map Prod.snd).filter (!·.isEmpty) :=
    List.mergeSort_of_pairwise h
  calc s.mask text
      = hideAll s.hidden text := rfl
    _ = hideAll ((s.values.map Prod.snd).filter (!·.isEmpty)) text := by rw [hhidden]

theorem hideAll_eq_self (h : ∀ value ∈ order, ¬ Text.Occurs value text) :
    hideAll order text = text := by
  induction order with
  | nil => rfl
  | cons value rest ih =>
    have hfirst : Text.replaceAll value stars text = text := by
      rw [Text.replaceAll, Text.replaced_eq_self (h value List.mem_cons_self), String.ofList_toList]
    have hrest : ∀ value ∈ rest, ¬ Text.Occurs value text :=
      fun v hv => h v (List.mem_cons_of_mem value hv)
    calc hideAll (value :: rest) text
        = hideAll rest (Text.replaceAll value stars text) := rfl
      _ = hideAll rest text := by rw [hfirst]
      _ = text := ih hrest

/-- No secret is left in a masked text, however secrets contain, overlap or repeat one another, and
in whatever order those of the same length are hidden. A text without secrets stays as it is. -/
theorem masking_frees_text (s : ScopedSecrets)
    (hs : ∀ value ∈ s.values.map Prod.snd, '*' ∉ value.toList) (text : String) :
    s.MasksTo text (s.mask text) ∧
      ∀ out, s.MasksTo text out →
        (∀ value ∈ s.values.map Prod.snd, value ≠ "" → ¬ Text.Occurs value out) ∧
        ((∀ value ∈ s.values.map Prod.snd, value ≠ "" → ¬ Text.Occurs value text) →
          out = text) := by
  refine ⟨s.masksTo_mask text, ?_⟩
  rintro out ⟨order, horder, rfl⟩
  constructor
  · intro value hm hv
    have hmem : value ∈ order := horder.mem_iff.mpr ⟨hm, hv⟩
    exact not_occurs_hideAll ⟨hv, hs value hm⟩ (.inl hmem)
  · intro hfree
    apply hideAll_eq_self
    intro value hmem
    obtain ⟨hm, hv⟩ := horder.mem_iff.mp hmem
    exact hfree value hm hv

/-- Two secrets of one length that share a character, and one within the other. -/
def tangled : ScopedSecrets := ⟨[("A", "abc"), ("B", "cde"), ("C", "ab"), ("D", "")]⟩

theorem masking_frees_text_tangled :
    (∀ value ∈ tangled.values.map Prod.snd, '*' ∉ value.toList) ∧
      tangled.mask "abcde" = "***de" ∧ ¬ Text.Occurs "abc" "***de" ∧
      ¬ Text.Occurs "cde" "***de" ∧ tangled.mask "dec" = "dec" := by
  have hs : ∀ value ∈ tangled.values.map Prod.snd, '*' ∉ value.toList := by decide
  have hmask : tangled.mask "abcde" = "***de" :=
    (mask_eq_hideAll (by decide) "abcde").trans (by decide +kernel)
  obtain ⟨hmasks, hfree⟩ := masking_frees_text tangled hs "abcde"
  rw [hmask] at hmasks
  have hgone := (hfree "***de" hmasks).1
  refine ⟨hs, hmask, hgone "abc" (by decide) (by decide), hgone "cde" (by decide) (by decide), ?_⟩
  obtain ⟨hkept, hsame⟩ := masking_frees_text tangled hs "dec"
  exact (hsame _ hkept).2 (by decide)

end ScopedSecrets

end GatedPipeline
