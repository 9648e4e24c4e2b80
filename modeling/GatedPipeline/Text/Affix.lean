namespace GatedPipeline.Text

def stripStart? : List Char → List Char → Option (List Char)
  | [], s => some s
  | _ :: _, [] => none
  | p :: ps, c :: cs => if p == c then stripStart? ps cs else none

def stripEnd? (e s : List Char) : Option (List Char) :=
  (stripStart? e.reverse s.reverse).map List.reverse

theorem stripStart?_eq_some_iff {p s r : List Char} : stripStart? p s = some r ↔ s = p ++ r := by
  induction p generalizing s with
  | nil => simp [stripStart?]
  | cons x xs ih =>
    cases s with
    | nil => simp [stripStart?]
    | cons c cs =>
      by_cases h : x = c
      · simp [stripStart?, h, ih]
      · simp [stripStart?, h, Ne.symm h]

theorem stripEnd?_eq_some_iff {e s r : List Char} : stripEnd? e s = some r ↔ s = r ++ e := by
  simp only [stripEnd?, Option.map_eq_some_iff, stripStart?_eq_some_iff]
  constructor
  · rintro ⟨t, ht, rfl⟩
    rw [← List.reverse_reverse s, ht]; simp
  · rintro rfl
    exact ⟨r.reverse, by simp⟩

theorem stripStart?_eq_none_iff {p s : List Char} : stripStart? p s = none ↔ ¬ p <+: s := by
  rw [Option.eq_none_iff_forall_ne_some]
  constructor
  · rintro h ⟨r, hr⟩
    exact h r (stripStart?_eq_some_iff.mpr hr.symm)
  · intro h r hr
    exact h ⟨r, (stripStart?_eq_some_iff.mp hr).symm⟩

theorem stripEnd?_eq_none_iff {e s : List Char} : stripEnd? e s = none ↔ ¬ e <:+ s := by
  rw [stripEnd?, Option.map_eq_none_iff, stripStart?_eq_none_iff, List.reverse_prefix]

/-- What holds of the characters of some text holds of some characters, and the other way round. -/
theorem exists_toList_iff {p : List Char → Prop} : (∃ s : String, p s.toList) ↔ ∃ l, p l := by
  constructor
  · rintro ⟨s, hs⟩
    exact ⟨s.toList, hs⟩
  · rintro ⟨l, hl⟩
    exact ⟨String.ofList l, by rwa [String.toList_ofList]⟩

theorem stripStart?_toList_eq_some_iff {p s : String} {r : List Char} :
    stripStart? p.toList s.toList = some r ↔ s = p ++ String.ofList r := by
  rw [stripStart?_eq_some_iff, ← String.toList_inj, String.toList_append, String.toList_ofList]

theorem stripStart?_toList_eq_none_iff {p s : String} :
    stripStart? p.toList s.toList = none ↔ ∀ r, s ≠ p ++ r := by
  rw [Option.eq_none_iff_forall_ne_some]
  constructor
  · intro h r hr
    refine h r.toList (stripStart?_toList_eq_some_iff.mpr ?_)
    rw [String.ofList_toList, hr]
  · intro h r hr
    exact h _ (stripStart?_toList_eq_some_iff.mp hr)

/-- What is left of a text after a beginning, as a text. -/
theorem map_stripStart?_eq_some_iff {p s r : String} :
    (stripStart? p.toList s.toList).map String.ofList = some r ↔ s = p ++ r := by
  rw [Option.map_eq_some_iff]
  constructor
  · rintro ⟨rest, hrest, rfl⟩
    exact stripStart?_toList_eq_some_iff.mp hrest
  · rintro rfl
    refine ⟨r.toList, stripStart?_toList_eq_some_iff.mpr ?_, String.ofList_toList⟩
    rw [String.ofList_toList]

/-- Two lists that are cut at the first occurrence of an element are equal part by part. -/
theorem append_cons_inj {α : Type} {a : α} {front front' back back' : List α} (h : a ∉ front)
    (h' : a ∉ front') (he : front ++ a :: back = front' ++ a :: back') :
    front = front' ∧ back = back' := by
  rcases List.append_eq_append_iff.mp he with ⟨rest, hf, hb⟩ | ⟨rest, hf, hb⟩
  · cases rest with
    | nil => exact ⟨by simpa using hf.symm, (List.cons.inj hb).2⟩
    | cons x xs =>
      obtain ⟨rfl, _⟩ := List.cons.inj hb
      exact absurd (hf ▸ List.mem_append_right _ List.mem_cons_self) h'
  · cases rest with
    | nil => exact ⟨by simpa using hf, (List.cons.inj hb).2.symm⟩
    | cons x xs =>
      obtain ⟨rfl, _⟩ := List.cons.inj hb
      exact absurd (hf ▸ List.mem_append_right _ List.mem_cons_self) h

/-- The text without the given beginning, or the text itself where it does not begin so. -/
def withoutStart (p : String) (s : String) : String :=
  match stripStart? p.toList s.toList with
  | some r => String.ofList r
  | none => s

def isInfix (needle : List Char) : List Char → Bool
  | [] => needle.isEmpty
  | c :: cs => needle.isPrefixOf (c :: cs) || isInfix needle cs

theorem isInfix_iff {needle s : List Char} : isInfix needle s = true ↔ needle <:+: s := by
  induction s with
  | nil => simp [isInfix]
  | cons c cs ih => simp [isInfix, ih, List.infix_cons_iff]

/-- The pieces between separators; there is always one more than separators. -/
def splitAt (separator : Char) (text : String) : List String :=
  (text.toList.splitOn separator).map String.ofList

/-- Lines without their ends; a text that ends in a line break has no further line. -/
def lines (text : String) : List String :=
  let ls := splitAt '\n' text
  if ls.getLast? = some "" then ls.dropLast else ls

def replaced (old new : List Char) : List Char → List Char
  | [] => []
  | c :: cs =>
    -- Occurrences do not overlap: the search goes on behind one.
    if old.isPrefixOf (c :: cs) then new ++ replaced old new (cs.drop (old.length - 1))
    else c :: replaced old new cs
termination_by s => s.length
decreasing_by
  · simp only [List.length_drop, List.length_cons]; omega
  · simp

def replaceAll (old new text : String) : String :=
  String.ofList (replaced old.toList new.toList text.toList)

end GatedPipeline.Text
