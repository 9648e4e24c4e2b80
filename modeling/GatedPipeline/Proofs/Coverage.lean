import GatedPipeline.Proofs.MaskedParts

namespace GatedPipeline

namespace Text

/-- The places from `start` on and before `stop`. -/
structure Span where
  start : Nat
  stop : Nat
deriving DecidableEq

namespace Span

def Has (s : Span) (i : Nat) : Prop := s.start ≤ i ∧ i < s.stop

def Within (s t : Span) : Prop := t.start ≤ s.start ∧ s.stop ≤ t.stop

def Meets (s t : Span) : Prop := s.start < t.stop ∧ t.start < s.stop

instance (s : Span) (i : Nat) : Decidable (s.Has i) :=
  inferInstanceAs (Decidable (s.start ≤ i ∧ i < s.stop))

instance (s t : Span) : Decidable (s.Within t) :=
  inferInstanceAs (Decidable (t.start ≤ s.start ∧ s.stop ≤ t.stop))

instance (s t : Span) : Decidable (s.Meets t) :=
  inferInstanceAs (Decidable (s.start < t.stop ∧ t.start < s.stop))

theorem Has.meets {s t : Span} {i : Nat} (hs : s.Has i) (ht : t.Has i) : s.Meets t :=
  ⟨Nat.lt_of_le_of_lt hs.1 ht.2, Nat.lt_of_le_of_lt ht.1 hs.2⟩

end Span

/-- Where one of the values stands in the text. -/
def spans (values : List String) (text : List Char) : List Span :=
  values.flatMap fun value =>
    ((List.range text.length).filter fun start =>
      value ≠ "" ∧ value.toList <+: text.drop start).map fun start =>
        ⟨start, start + value.toList.length⟩

/-- The character at a place belongs to a value that stands there. -/
def Covered (values : List String) (text : List Char) (i : Nat) : Prop :=
  ∃ span ∈ spans values text, span.Has i

instance (values : List String) (text : List Char) (i : Nat) :
    Decidable (Covered values text i) :=
  inferInstanceAs (Decidable (∃ span ∈ spans values text, span.Has i))

/-- Values that share a character of the text lie within one that stands there. -/
def Joined (values : List String) (text : List Char) : Prop :=
  ∀ s ∈ spans values text, ∀ t ∈ spans values text, s.Meets t →
    ∃ u ∈ spans values text, s.Within u ∧ t.Within u

instance (values : List String) (text : List Char) : Decidable (Joined values text) :=
  inferInstanceAs (Decidable (∀ s ∈ spans values text, ∀ t ∈ spans values text, s.Meets t →
    ∃ u ∈ spans values text, s.Within u ∧ t.Within u))

/-- What is left of a text once the characters at some places are taken out. -/
def kept (taken : Nat → Bool) : List Char → List Char
  | [] => []
  | c :: cs =>
    if taken 0 then kept (fun i => taken (i + 1)) cs else c :: kept (fun i => taken (i + 1)) cs

/-- The characters of a text that belong to no value. -/
def outside (values : List String) (text : List Char) : List Char :=
  kept (fun i => decide (Covered values text i)) text

variable {values : List String} {text : List Char} {taken more : Nat → Bool} {span : Span}

theorem mem_spans : span ∈ spans values text ↔ ∃ value ∈ values, value ≠ "" ∧
    value.toList <+: text.drop span.start ∧ span.stop = span.start + value.toList.length := by
  simp only [spans, List.mem_flatMap, List.mem_map, List.mem_filter, List.mem_range,
    decide_eq_true_eq]
  constructor
  · rintro ⟨value, hm, start, ⟨_, hv, hp⟩, rfl⟩
    exact ⟨value, hm, hv, hp, rfl⟩
  · rintro ⟨value, hm, hv, hp, hstop⟩
    have hlen : value.toList.length ≠ 0 :=
      fun he => hv (String.toList_eq_nil_iff.mp (List.length_eq_zero_iff.mp he))
    have hle : value.toList.length ≤ text.length - span.start := by
      simpa using hp.length_le
    refine ⟨value, hm, span.start, ⟨by omega, hv, hp⟩, ?_⟩
    rw [← hstop]

theorem stop_le_of_mem_spans (h : span ∈ spans values text) :
    span.stop - span.start ≤ text.length - span.start := by
  obtain ⟨value, _, _, hp, hstop⟩ := mem_spans.mp h
  have hlen : value.toList.length ≤ text.length - span.start := by simpa using hp.length_le
  omega

theorem Covered.lt_length {i : Nat} (h : Covered values text i) : i < text.length := by
  obtain ⟨span, hspan, hl, hr⟩ := h
  have hle := stop_le_of_mem_spans hspan
  omega

theorem kept_cons (taken : Nat → Bool) (c : Char) (cs : List Char) : kept taken (c :: cs) =
    if taken 0 then kept (fun i => taken (i + 1)) cs else c :: kept (fun i => taken (i + 1)) cs :=
  rfl

theorem length_kept_le (h : ∀ i, taken i = true → more i = true) :
    (kept more text).length ≤ (kept taken text).length := by
  induction text generalizing taken more with
  | nil => exact Nat.le_refl 0
  | cons c cs ih =>
    have hrest := ih fun i => h (i + 1)
    rw [kept_cons, kept_cons]
    cases ht : taken 0 with
    | true =>
      rw [h 0 ht]
      exact hrest
    | false =>
      cases more 0 with
      | true => exact Nat.le_succ_of_le hrest
      | false => exact Nat.succ_le_succ hrest

/-- To take out more places and be left with the same is to take out the same places. -/
theorem kept_eq_iff (h : ∀ i, taken i = true → more i = true) :
    kept taken text = kept more text ↔ ∀ i < text.length, more i = true → taken i = true := by
  induction text generalizing taken more with
  | nil => exact iff_of_true rfl fun i hi => absurd hi (Nat.not_lt_zero i)
  | cons c cs ih =>
    have hrest := ih fun i => h (i + 1)
    have hall : (∀ i < (c :: cs).length, more i = true → taken i = true) ↔
        (more 0 = true → taken 0 = true) ∧
          ∀ i < cs.length, more (i + 1) = true → taken (i + 1) = true :=
      Nat.forall_lt_succ_left
    rw [hall, ← hrest, kept_cons, kept_cons]
    cases ht : taken 0 with
    | true => simp [h 0 ht]
    | false =>
      cases hm : more 0 with
      | false => simp
      | true =>
        -- A character that is left on the one side only cannot be made up for later.
        have hle : (kept (fun i => more (i + 1)) cs).length ≤
            (kept (fun i => taken (i + 1)) cs).length := length_kept_le fun i => h (i + 1)
        simp only [Bool.false_eq_true, if_false, if_true, imp_false, not_true_eq_false, false_and,
          iff_false]
        intro he
        have hlen := congrArg List.length he
        rw [List.length_cons] at hlen
        omega

theorem kept_append (taken : Nat → Bool) (front back : List Char) :
    kept taken (front ++ back) =
      kept taken front ++ kept (fun i => taken (i + front.length)) back := by
  induction front generalizing taken with
  | nil => rfl
  | cons c front ih =>
    have hshift : (fun i => taken (i + front.length + 1)) =
        fun i => taken (i + (c :: front).length) := rfl
    rw [List.cons_append, kept_cons, kept_cons, ih, hshift]
    split
    · rfl
    · rfl

theorem kept_eq_nil (h : ∀ i < text.length, taken i = true) : kept taken text = [] := by
  induction text generalizing taken with
  | nil => rfl
  | cons c cs ih =>
    rw [kept_cons, if_pos (h 0 (Nat.zero_lt_succ _))]
    exact ih fun i hi => h (i + 1) (Nat.succ_lt_succ hi)

/-- A text within another one that has no more bytes is that text. -/
theorem eq_of_infix_of_size_le {u v : String} (h : u.toList <:+: v.toList)
    (hb : v.utf8ByteSize ≤ u.utf8ByteSize) : u = v := by
  obtain ⟨front, back, he⟩ := h
  have hv : v = String.ofList front ++ u ++ String.ofList back := by
    rw [← String.toList_inj, ← he]
    simp
  have hsize := congrArg String.utf8ByteSize hv
  rw [String.utf8ByteSize_append, String.utf8ByteSize_append] at hsize
  have hfront : String.ofList front = "" := String.utf8ByteSize_eq_zero_iff.mp (by omega)
  have hback : String.ofList back = "" := String.utf8ByteSize_eq_zero_iff.mp (by omega)
  rw [hv, hfront, hback, String.empty_append, String.append_empty]

/-- Of two texts that stand in a third one, one that lies within the other and has no fewer bytes is
the other. -/
theorem eq_of_within {u v : String} {i j : Nat} (hu : u.toList <+: text.drop i)
    (hv : v.toList <+: text.drop j) (hl : j ≤ i)
    (hr : i + u.toList.length ≤ j + v.toList.length) (hb : v.utf8ByteSize ≤ u.utf8ByteSize) :
    i = j ∧ u = v := by
  obtain ⟨rest, hrest⟩ := hv
  have hdrop : text.drop i = v.toList.drop (i - j) ++ rest := by
    have hadd : text.drop i = (text.drop j).drop (i - j) := by
      rw [List.drop_drop, Nat.add_sub_cancel' hl]
    rw [hadd, ← hrest, List.drop_append_of_le_length (by omega)]
  have hpre : u.toList <+: v.toList.drop (i - j) := by
    rw [hdrop] at hu
    refine List.prefix_of_prefix_length_le hu (List.prefix_append _ rest) ?_
    rw [List.length_drop]
    omega
  have heq : u = v :=
    eq_of_infix_of_size_le (hpre.isInfix.trans (List.drop_suffix _ _).isInfix) hb
  subst heq
  exact ⟨by omega, rfl⟩

end Text

namespace Part

open Text
open ScopedSecrets (stars)

variable {parts : List Part} {v : List Char} {start : Nat}

theorem visible_eq_kept (parts : List Part) :
    visible parts = kept (hides parts) (originals parts) := by
  induction parts with
  | nil => rfl
  | cons part parts ih =>
    cases part with
    | shown c => exact congrArg (c :: ·) ih
    | hidden value =>
      have hfront : kept (hides (hidden value :: parts)) value.toList = [] :=
        kept_eq_nil fun i hi => by rw [hides_hidden_cons, if_pos hi]
      have hback : (fun i => hides (hidden value :: parts) (i + value.toList.length)) =
          hides parts := by
        funext i
        rw [hides_hidden_cons, if_neg (by omega), Nat.add_sub_cancel]
      calc visible (hidden value :: parts)
          = kept (hides parts) (originals parts) := ih
        _ = kept (hides (hidden value :: parts)) (value.toList ++ originals parts) := by
          rw [kept_append, hfront, hback, List.nil_append]

/-- Characters at the beginning of a text that are all shown begin the masked text as well. -/
theorem prefix_maskeds_of_shown (hparts : ∀ value, hidden value ∈ parts → value ≠ "")
    (hp : v <+: originals parts) (hshown : ∀ i < v.length, hides parts i = false) :
    v <+: maskeds parts := by
  induction parts generalizing v with
  | nil => exact hp
  | cons part parts ih =>
    cases v with
    | nil => exact List.nil_prefix
    | cons c v =>
      cases part with
      | shown d =>
        obtain ⟨rfl, hv⟩ := List.cons_prefix_cons.mp hp
        refine List.cons_prefix_cons.mpr ⟨rfl, ih ?_ hv ?_⟩
        · exact fun value hm => hparts value (List.mem_cons_of_mem _ hm)
        · exact fun i hi => hshown (i + 1) (Nat.succ_lt_succ hi)
      | hidden w =>
        have hw : w.toList.length ≠ 0 := fun he =>
          hparts w List.mem_cons_self (String.toList_eq_nil_iff.mp (List.length_eq_zero_iff.mp he))
        have hfirst := hshown 0 (Nat.zero_lt_succ _)
        rw [hides_hidden_cons, if_pos (Nat.pos_of_ne_zero hw)] at hfirst
        cases hfirst

theorem infix_maskeds_of_shown (hparts : ∀ value, hidden value ∈ parts → value ≠ "") (hv : v ≠ [])
    (hp : v <+: (originals parts).drop start)
    (hshown : ∀ i, start ≤ i → i < start + v.length → hides parts i = false) :
    v <:+: maskeds parts := by
  induction parts generalizing start with
  | nil => exact absurd (List.prefix_nil.mp (by simpa [originals] using hp)) hv
  | cons part parts ih =>
    have hrest : ∀ value, hidden value ∈ parts → value ≠ "" :=
      fun value hm => hparts value (List.mem_cons_of_mem _ hm)
    cases part with
    | shown c =>
      cases start with
      | zero =>
        refine (prefix_maskeds_of_shown hparts hp fun i hi => ?_).isInfix
        exact hshown i (Nat.zero_le i) (by omega)
      | succ start =>
        refine (ih hrest hp fun i hl hr => ?_).trans (List.suffix_cons c _).isInfix
        exact hshown (i + 1) (by omega) (by omega)
    | hidden w =>
      have hpos : 0 < v.length := List.length_pos_of_ne_nil hv
      have hstart : w.toList.length ≤ start := by
        by_contra hlt
        have hfirst := hshown start (Nat.le_refl _) (by omega)
        rw [hides_hidden_cons, if_pos (by omega)] at hfirst
        cases hfirst
      have hdrop : (originals (hidden w :: parts)).drop start =
          (originals parts).drop (start - w.toList.length) := by
        have happ : originals (hidden w :: parts) = w.toList ++ originals parts := rfl
        rw [happ, List.drop_append, List.drop_eq_nil_of_le hstart, List.nil_append]
      rw [hdrop] at hp
      refine (ih hrest hp fun i hl hr => ?_).trans (List.suffix_append stars.toList _).isInfix
      have hi := hshown (i + w.toList.length) (by omega) (by omega)
      rwa [hides_hidden_cons, if_neg (by omega), Nat.add_sub_cancel] at hi

/-- Whatever is hidden lies in a value that is hidden as a whole. -/
theorem exists_span_of_hides {values : List String} {i : Nat}
    (hparts : ∀ value, hidden value ∈ parts → value ∈ values ∧ value ≠ "")
    (h : hides parts i = true) :
    ∃ value span, hidden value ∈ parts ∧ span ∈ spans values (originals parts) ∧ span.Has i ∧
      value.toList <+: (originals parts).drop span.start ∧
      span.stop = span.start + value.toList.length ∧ ∀ j, span.Has j → hides parts j = true := by
  obtain ⟨front, value, back, hsplit, hl, hr⟩ := exists_split_of_hides h
  have hm : hidden value ∈ parts := by
    rw [hsplit]
    exact List.mem_append_right _ List.mem_cons_self
  have hdrop : (originals parts).drop (originals front).length =
      value.toList ++ originals back := by
    have happ : originals parts = originals front ++ (value.toList ++ originals back) := by
      rw [hsplit]
      exact List.flatMap_append
    rw [happ, List.drop_left]
  have hp : value.toList <+: (originals parts).drop (originals front).length :=
    hdrop ▸ List.prefix_append _ _
  obtain ⟨hvalue, hv⟩ := hparts value hm
  refine ⟨value, ⟨(originals front).length, (originals front).length + value.toList.length⟩, hm,
    mem_spans.mpr ⟨value, hvalue, hv, hp, rfl⟩, ⟨hl, hr⟩, hp, rfl, ?_⟩
  rintro j ⟨hjl, hjr⟩
  exact hides_of_split hsplit hjl hjr

end Part

namespace ScopedSecrets

open Text

/-- Apart from stars, just the characters of no secret are left of the text. -/
def HidesWhole (s : ScopedSecrets) (text out : String) : Prop :=
  out.toList.filter (· != '*') = outside (s.values.map Prod.snd) text.toList

instance (s : ScopedSecrets) (text out : String) : Decidable (s.HidesWhole text out) :=
  inferInstanceAs (Decidable (out.toList.filter (· != '*') =
    outside (s.values.map Prod.snd) text.toList))

variable {s : ScopedSecrets} {order : List String} {text : List Char} {value : String}

/-- Of a value that has been replaced no place in the text is left untouched. -/
theorem exists_hides_of_mem (ho : ∀ value ∈ order, Hideable value) (hm : value ∈ order)
    {start : Nat} (hp : value.toList <+: text.drop start) :
    ∃ i, start ≤ i ∧ i < start + value.toList.length ∧
      Part.hides (Part.hideEach order (text.map .shown)) i = true := by
  have hvalue := ho value hm
  by_contra hnone
  have hparts : ∀ w, Part.hidden w ∈ Part.hideEach order (text.map .shown) → w ≠ "" :=
    fun w hw => (ho w (Part.mem_of_hidden_mem_hideEach hw)).1
  have hin : value.toList <:+: Part.maskeds (Part.hideEach order (text.map .shown)) := by
    rw [← Part.originals_hideEach_shown ho text] at hp
    refine Part.infix_maskeds_of_shown hparts hvalue.toList_ne_nil hp fun i hl hr => ?_
    exact Bool.eq_false_iff.mpr fun hh => hnone ⟨i, hl, hr, hh⟩
  rw [Part.maskeds_hideEach_shown ho] at hin
  exact not_occurs_hideAll hvalue (.inl hm) hin

/-- What is hidden lies in a secret that stands in the text and is hidden as a whole. -/
theorem exists_span_of_hides_hideEach {values : List String}
    (ho : ∀ value ∈ order, Hideable value) (hsub : order ⊆ values) {i : Nat}
    (h : Part.hides (Part.hideEach order (text.map .shown)) i = true) :
    ∃ value span, value ∈ order ∧ span ∈ spans values text ∧ span.Has i ∧
      value.toList <+: text.drop span.start ∧ span.stop = span.start + value.toList.length ∧
      ∀ j, span.Has j → Part.hides (Part.hideEach order (text.map .shown)) j = true := by
  have hparts : ∀ w, Part.hidden w ∈ Part.hideEach order (text.map .shown) →
      w ∈ values ∧ w ≠ "" := by
    intro w hw
    have hm := Part.mem_of_hidden_mem_hideEach hw
    exact ⟨hsub hm, (ho w hm).1⟩
  obtain ⟨value, span, hm, hspan⟩ := Part.exists_span_of_hides hparts h
  rw [Part.originals_hideEach_shown ho] at hspan
  exact ⟨value, span, Part.mem_of_hidden_mem_hideEach hm, hspan⟩

/-- Once it has been its turn, a value that stands in the text meets one that is hidden, and that
one does not lie within it unless it is the value. -/
theorem exists_hidden_span (h : s.Sequenced order)
    (hs : ∀ value ∈ s.values.map Prod.snd, '*' ∉ value.toList) {span : Span}
    (hspan : span ∈ spans (s.values.map Prod.snd) text) :
    ∃ other ∈ spans (s.values.map Prod.snd) text, span.Meets other ∧
      (∀ i, other.Has i → Part.hides (Part.hideEach order (text.map .shown)) i = true) ∧
      (other.Within span → other = span) := by
  obtain ⟨value, hvalue, hv, hp, hstop⟩ := mem_spans.mp hspan
  obtain ⟨front, back, hsplit⟩ := List.append_of_mem (h.mem_iff.mpr ⟨hvalue, hv⟩)
  have hturn : order = (front ++ [value]) ++ back := by
    rw [hsplit, List.append_assoc]
    rfl
  subst hturn
  have ho := h.hideable hs
  have hsofar : ∀ w ∈ front ++ [value], Hideable w :=
    fun w hw => ho w (List.mem_append_left back hw)
  have hsub : front ++ [value] ⊆ s.values.map Prod.snd :=
    fun w hw => h.subset (List.mem_append_left back hw)
  -- Those that had their turn are no shorter.
  have hlonger : ∀ w ∈ front ++ [value], value.utf8ByteSize ≤ w.utf8ByteSize := by
    intro w hw
    rcases List.mem_append.mp hw with hw | hw
    · have hdesc := (List.pairwise_append.mp (List.pairwise_append.mp h.descending).1).2.2
      exact hdesc w hw value (List.mem_singleton_self value)
    · rw [List.mem_singleton.mp hw]
  obtain ⟨i, hl, hr, hi⟩ := exists_hides_of_mem hsofar
    (List.mem_append_right front (List.mem_singleton_self value)) hp
  obtain ⟨w, other, hm, hother, hhas, hpw, hstopw, hall⟩ :=
    exists_span_of_hides_hideEach hsofar hsub hi
  refine ⟨other, hother, Span.Has.meets ⟨hl, hstop ▸ hr⟩ hhas, fun j hj => ?_, fun hin => ?_⟩
  · rw [Part.hideEach_append]
    exact Part.hides_hideEach (fun w hw => ho w (List.mem_append_right _ hw)) (hall j hj)
  · obtain ⟨hstart, rfl⟩ := eq_of_within hpw hp hin.1 (hstopw ▸ hstop ▸ hin.2) (hlonger w hm)
    obtain ⟨start, stop⟩ := span
    obtain ⟨start', stop'⟩ := other
    simp only at hstart hstop hstopw
    subst hstart hstop hstopw
    rfl

/-- If values that share a character lie within one, all of every value is hidden. -/
theorem hides_of_joined (h : s.Sequenced order)
    (hs : ∀ value ∈ s.values.map Prod.snd, '*' ∉ value.toList)
    (hj : Joined (s.values.map Prod.snd) text) {span : Span}
    (hspan : span ∈ spans (s.values.map Prod.snd) text) {i : Nat} (hi : span.Has i) :
    Part.hides (Part.hideEach order (text.map .shown)) i = true := by
  -- From long values to short ones: the one around the value and a hidden one that it meets is
  -- longer, unless it is the value.
  induction hn : text.length - (span.stop - span.start) using Nat.strong_induction_on
    generalizing span i with
  | _ n ih =>
    obtain ⟨other, hother, hmeets, hall, hsame⟩ := exists_hidden_span h hs hspan
    obtain ⟨around, haround, hin, hin'⟩ := hj span hspan other hother hmeets
    by_cases hlt : span.stop - span.start < around.stop - around.start
    · have hle := stop_le_of_mem_spans haround
      have hhas : around.Has i := ⟨Nat.le_trans hin.1 hi.1, Nat.lt_of_lt_of_le hi.2 hin.2⟩
      exact ih _ (by omega) haround hhas rfl
    · have hwithin : other.Within span := by
        obtain ⟨_, _⟩ := hi
        obtain ⟨_, _⟩ := hin
        obtain ⟨_, _⟩ := hin'
        constructor <;> omega
      exact hall i (hsame hwithin ▸ hi)

/-- Just the characters of no secret are left if no character of a secret is left: nothing else is
ever taken out. -/
theorem hidesWhole_hideAll_iff (h : s.Sequenced order)
    (hs : ∀ value ∈ s.values.map Prod.snd, '*' ∉ value.toList) {text : String}
    (ht : '*' ∉ text.toList) : s.HidesWhole text (hideAll order text) ↔
      ∀ i, Covered (s.values.map Prod.snd) text.toList i →
        Part.hides (Part.hideEach order (text.toList.map .shown)) i = true := by
  have ho := h.hideable hs
  have horiginals := Part.originals_hideEach_shown ho text.toList
  have hmasked : Part.maskeds (Part.hideEach order (text.toList.map .shown)) =
      (hideAll order text).toList := by
    rw [Part.maskeds_hideEach_shown ho, String.ofList_toList]
  have hvisible : (hideAll order text).toList.filter (· != '*') =
      kept (Part.hides (Part.hideEach order (text.toList.map .shown))) text.toList := by
    rw [← hmasked, ← Part.visible_eq_filter (horiginals.symm ▸ ht), Part.visible_eq_kept,
      horiginals]
  have hmore : ∀ i, Part.hides (Part.hideEach order (text.toList.map .shown)) i = true →
      decide (Covered (s.values.map Prod.snd) text.toList i) = true := by
    intro i hi
    obtain ⟨_, span, _, hspan, hhas, _⟩ := exists_span_of_hides_hideEach ho h.subset hi
    exact decide_eq_true ⟨span, hspan, hhas⟩
  rw [HidesWhole, hvisible, outside, kept_eq_iff hmore]
  constructor
  · intro hall i hi
    exact hall i hi.lt_length (decide_eq_true hi)
  · intro hall i _ hi
    exact hall i (of_decide_eq_true hi)

/-- A masked text is the text with some of the secrets in it behind stars. Each secret that stands
in the text loses characters, and characters of no secret stay. All characters of all secrets go
exactly as long as no secret stands partly outside of those behind stars; that is so if secrets that
share a character lie within one. -/
theorem masking_covers_iff {s : ScopedSecrets}
    (hs : ∀ value ∈ s.values.map Prod.snd, '*' ∉ value.toList) {text out : String}
    (ht : '*' ∉ text.toList) (h : s.MasksTo text out) :
    ∃ parts : List Part, Part.originals parts = text.toList ∧ Part.maskeds parts = out.toList ∧
      (∀ value, .hidden value ∈ parts → value ∈ s.values.map Prod.snd ∧ value ≠ "") ∧
      (∀ span ∈ spans (s.values.map Prod.snd) text.toList,
        ∃ i, span.Has i ∧ Part.hides parts i = true) ∧
      (s.HidesWhole text out ↔
        ∀ i, Covered (s.values.map Prod.snd) text.toList i → Part.hides parts i = true) ∧
      (Joined (s.values.map Prod.snd) text.toList → s.HidesWhole text out) := by
  obtain ⟨order, horder, rfl⟩ := h
  have ho := horder.hideable hs
  have hmasked : Part.maskeds (Part.hideEach order (text.toList.map .shown)) =
      (hideAll order text).toList := by
    rw [Part.maskeds_hideEach_shown ho, String.ofList_toList]
  have hlaw := hidesWhole_hideAll_iff horder hs ht
  refine ⟨Part.hideEach order (text.toList.map .shown), Part.originals_hideEach_shown ho _, hmasked,
    fun value hm => ?_, fun span hspan => ?_, hlaw, fun hj => hlaw.mpr ?_⟩
  · exact horder.mem_iff.mp (Part.mem_of_hidden_mem_hideEach hm)
  · obtain ⟨value, hvalue, hv, hp, hstop⟩ := mem_spans.mp hspan
    obtain ⟨i, hl, hr, hi⟩ := exists_hides_of_mem ho (horder.mem_iff.mpr ⟨hvalue, hv⟩) hp
    exact ⟨i, ⟨hl, hstop ▸ hr⟩, hi⟩
  · rintro i ⟨span, hspan, hi⟩
    exact hides_of_joined horder hs hj hspan hi

/-- A secret within another one, and one that is not in the text. -/
def nested : ScopedSecrets := ⟨[("LONG", "abcdef"), ("SHORT", "abc"), ("UNUSED", "fed")]⟩

theorem masking_covers_iff_nested :
    (∀ value ∈ nested.values.map Prod.snd, '*' ∉ value.toList) ∧
      '*' ∉ "token=abcdef, short=abc".toList ∧
      nested.MasksTo "token=abcdef, short=abc" (nested.mask "token=abcdef, short=abc") ∧
      Joined (nested.values.map Prod.snd) "token=abcdef, short=abc".toList ∧
      nested.HidesWhole "token=abcdef, short=abc" (nested.mask "token=abcdef, short=abc") := by
  have hs : ∀ value ∈ nested.values.map Prod.snd, '*' ∉ value.toList := by decide
  have ht : '*' ∉ "token=abcdef, short=abc".toList := by decide
  have hj : Joined (nested.values.map Prod.snd) "token=abcdef, short=abc".toList := by
    decide +kernel
  have hmask := nested.masksTo_mask "token=abcdef, short=abc"
  obtain ⟨_, _, _, _, _, _, hwhole⟩ := masking_covers_iff hs ht hmask
  exact ⟨hs, ht, hmask, hj, hwhole hj⟩

def bordered : ScopedSecrets := ⟨[("KEY", "aba")]⟩

/-- Where the secret stands twice with a character in common, its end is shown. -/
theorem masking_leaves_fragment :
    (∀ value ∈ bordered.values.map Prod.snd, '*' ∉ value.toList) ∧ '*' ∉ "ababa".toList ∧
      bordered.mask "ababa" = "***ba" ∧
      outside (bordered.values.map Prod.snd) "ababa".toList = [] ∧
      ¬ bordered.HidesWhole "ababa" (bordered.mask "ababa") := by
  have hmask : bordered.mask "ababa" = "***ba" :=
    (mask_eq_hideAll (by decide) "ababa").trans (by decide +kernel)
  refine ⟨by decide, by decide, hmask, by decide +kernel, ?_⟩
  rw [hmask]
  decide +kernel

end ScopedSecrets

end GatedPipeline
