import GatedPipeline.Glob

namespace GatedPipeline.Glob

variable {place front back pattern text : List Char}

theorem aroundStar?_eq_none (h : '*' ∉ pattern) : aroundStar? pattern = none := by
  rw [aroundStar?, List.splitOn_eq_singleton h]

theorem aroundStar?_append_cons (hfront : '*' ∉ front) (hback : '*' ∉ back) :
    aroundStar? (front ++ '*' :: back) = some (front, back) := by
  rw [aroundStar?, List.splitOn_append_cons_self_of_not_mem hfront,
    List.splitOn_eq_singleton hback]

/-- A pattern that ends below a slash is neither of the two that match everything. -/
theorem not_stars_of_slash (h : '/' ∈ pattern) : ¬ (pattern = ['*'] ∨ pattern = ['*', '*']) := by
  rintro (rfl | rfl)
  · simp at h
  · simp at h

theorem matchesChars_stars (h : pattern = ['*'] ∨ pattern = ['*', '*']) (text : List Char) :
    matchesChars pattern text = true := by
  rw [matchesChars, if_pos h]

/-- Whatever is before the slash and the two stars: a text matches as soon as it begins so. -/
theorem matchesChars_below :
    matchesChars (place ++ ['/', '*', '*']) text = true ↔ place <+: text := by
  have hslash : '/' ∈ place ++ ['/', '*', '*'] := by simp
  have hend : Text.stripEnd? ['/', '*', '*'] (place ++ ['/', '*', '*']) = some place :=
    Text.stripEnd?_eq_some_iff.mpr rfl
  simp only [matchesChars, if_neg (not_stars_of_slash hslash), hend]
  exact List.isPrefixOf_iff_prefix

/-- One star after a slash stands for a single name. -/
theorem matchesChars_level :
    matchesChars (place ++ ['/', '*']) text = true ↔
      ∃ name, text = place ++ ['/'] ++ name ∧ '/' ∉ name := by
  have hslash : '/' ∈ place ++ ['/', '*'] := by simp
  have hdeep : Text.stripEnd? ['/', '*', '*'] (place ++ ['/', '*']) = none := by
    refine Text.stripEnd?_eq_none_iff.mpr ?_
    rintro ⟨rest, hrest⟩
    have hlast := congrArg (fun s => s.reverse.take 2) hrest
    simp at hlast
  have hend : Text.stripEnd? ['/', '*'] (place ++ ['/', '*']) = some place :=
    Text.stripEnd?_eq_some_iff.mpr rfl
  simp only [matchesChars, if_neg (not_stars_of_slash hslash), hdeep, hend]
  cases hrest : Text.stripStart? (place ++ ['/']) text with
  | none =>
    have hno := Text.stripStart?_eq_none_iff.mp hrest
    simp only [Bool.false_eq_true, false_iff]
    rintro ⟨name, rfl, _⟩
    exact hno (List.prefix_append _ name)
  | some rest =>
    obtain rfl := Text.stripStart?_eq_some_iff.mp hrest
    simp

/-- Beginning and end are counted in bytes, which shows that they do not overlap: what is left in
the middle are whole characters. -/
theorem exists_middle_iff :
    (Text.byteSize front + Text.byteSize back ≤ Text.byteSize text ∧ front <+: text ∧
      back <:+ text) ↔ ∃ middle, text = front ++ middle ++ back := by
  constructor
  · rintro ⟨hsize, ⟨after, hafter⟩, ⟨before, rfl⟩⟩
    rcases List.append_eq_append_iff.mp hafter with ⟨middle, rfl, _⟩ | ⟨common, rfl, _⟩
    · exact ⟨middle, rfl⟩
    · have hnone : Text.byteSize common = 0 := by
        simp only [Text.byteSize_append] at hsize
        omega
      obtain rfl := Text.byteSize_eq_zero_iff.mp hnone
      exact ⟨[], by simp⟩
  · rintro ⟨middle, rfl⟩
    refine ⟨?_, ⟨middle ++ back, by simp⟩, List.suffix_append _ back⟩
    simp only [Text.byteSize_append]
    omega

theorem matchesChars_around (hfront : '*' ∉ front) (hback : '*' ∉ back)
    (hall : front ++ '*' :: back ≠ ['*']) (hlevel : ¬ ['/', '*'] <:+ front ++ '*' :: back) :
    matchesChars (front ++ '*' :: back) text = true ↔ ∃ middle, text = front ++ middle ++ back := by
  have hcount : (front ++ '*' :: back).count '*' = 1 := by
    simp [List.count_eq_zero.mpr hfront, List.count_eq_zero.mpr hback]
  have hstars : ¬ (front ++ '*' :: back = ['*'] ∨ front ++ '*' :: back = ['*', '*']) := by
    rintro (h | h)
    · exact hall h
    · rw [h] at hcount
      simp at hcount
  have hdeep : ¬ ['/', '*', '*'] <:+ front ++ '*' :: back := by
    intro h
    have hmore := h.sublist.count_le '*'
    rw [hcount] at hmore
    simp at hmore
  simp only [matchesChars, if_neg hstars, Text.stripEnd?_eq_none_iff.mpr hdeep,
    Text.stripEnd?_eq_none_iff.mpr hlevel, aroundStar?_append_cons hfront hback,
    Bool.and_eq_true, decide_eq_true_eq, List.isPrefixOf_iff_prefix, List.isSuffixOf_iff_suffix,
    and_assoc]
  exact exists_middle_iff

theorem matchesChars_exact (h : '*' ∉ pattern) :
    matchesChars pattern text = true ↔ text = pattern := by
  have hstars : ¬ (pattern = ['*'] ∨ pattern = ['*', '*']) := by
    rintro (rfl | rfl)
    · simp at h
    · simp at h
  have hdeep : ¬ ['/', '*', '*'] <:+ pattern := fun hend => h (hend.subset (by simp))
  have hlevel : ¬ ['/', '*'] <:+ pattern := fun hend => h (hend.subset (by simp))
  simp only [matchesChars, if_neg hstars, Text.stripEnd?_eq_none_iff.mpr hdeep,
    Text.stripEnd?_eq_none_iff.mpr hlevel, aroundStar?_eq_none h, beq_iff_eq]
  exact eq_comm

theorem isMatch_exact {pattern text : String} (h : '*' ∉ pattern.toList) :
    isMatch pattern text = true ↔ text = pattern := by
  rw [isMatch, matchesChars_exact h, String.toList_inj]

theorem isMatch_level {place text : String} :
    isMatch (place ++ "/*") text = true ↔
      ∃ name : String, text = place ++ "/" ++ name ∧ '/' ∉ name.toList := by
  have hform : (place ++ "/*").toList = place.toList ++ ['/', '*'] := String.toList_append
  rw [isMatch, hform, matchesChars_level, ← Text.exists_toList_iff]
  simp only [← String.toList_inj, String.toList_append]
  rfl

theorem isMatch_around {front back text : String} (hfront : '*' ∉ front.toList)
    (hback : '*' ∉ back.toList) (hall : front ++ "*" ++ back ≠ "*")
    (hlevel : ∀ place, front ++ "*" ++ back ≠ place ++ "/*") :
    isMatch (front ++ "*" ++ back) text = true ↔ ∃ middle, text = front ++ middle ++ back := by
  have hform : (front ++ "*" ++ back).toList = front.toList ++ '*' :: back.toList := by simp
  have hall' : front.toList ++ '*' :: back.toList ≠ ['*'] := by
    intro h
    exact hall (String.toList_inj.mp (hform.trans h))
  have hlevel' : ¬ ['/', '*'] <:+ front.toList ++ '*' :: back.toList := by
    rintro ⟨place, hplace⟩
    refine hlevel (String.ofList place) (String.toList_inj.mp ?_)
    rw [hform, ← hplace]
    simp
  rw [isMatch, hform, matchesChars_around hfront hback hall' hlevel', ← Text.exists_toList_iff]
  simp only [← String.toList_inj, String.toList_append]

/-- The forms of patterns, each with the texts that it matches. A pattern without a star matches
itself. One star behind a slash is a single name. A star elsewhere, the only one of its pattern,
stands for any text between a beginning and an end, which have no character in common. A star alone
matches everything, and so do two. -/
theorem forms_denote (text : String) :
    (∀ pattern : String, '*' ∉ pattern.toList →
      (isMatch pattern text = true ↔ text = pattern)) ∧
    (∀ place : String, isMatch (place ++ "/*") text = true ↔
      ∃ name : String, text = place ++ "/" ++ name ∧ '/' ∉ name.toList) ∧
    (∀ front back : String, '*' ∉ front.toList → '*' ∉ back.toList →
      front ++ "*" ++ back ≠ "*" → (∀ place, front ++ "*" ++ back ≠ place ++ "/*") →
        (isMatch (front ++ "*" ++ back) text = true ↔ ∃ middle, text = front ++ middle ++ back) ∧
        (text.length < front.length + back.length →
          isMatch (front ++ "*" ++ back) text = false)) ∧
    isMatch "*" text = true ∧ isMatch "**" text = true := by
  refine ⟨fun _ => isMatch_exact, fun _ => isMatch_level, ?_,
    matchesChars_stars (.inl rfl) text.toList, matchesChars_stars (.inr rfl) text.toList⟩
  intro front back hfront hback hall hlevel
  have hmatch : isMatch (front ++ "*" ++ back) text = true ↔ _ :=
    isMatch_around hfront hback hall hlevel
  refine ⟨hmatch, fun hshort => Bool.eq_false_iff.mpr fun h => ?_⟩
  obtain ⟨middle, rfl⟩ := hmatch.mp h
  simp only [String.length_append] at hshort
  omega

/-- Letters of two bytes each, one of which the beginning and the end of a pattern cannot share. -/
theorem forms_denote_accented :
    isMatch "gemüse" "gemüse" = true ∧ isMatch "gemüse" "gemüse/a" = false ∧
      isMatch ("grün" ++ "/*") "grün/über" = true ∧ isMatch ("grün" ++ "/*") "grün/a/b" = false ∧
      isMatch ("ü" ++ "*" ++ "ü") "ü/é/ü" = true ∧ isMatch ("ü" ++ "*" ++ "ü") "ü" = false ∧
      isMatch "*" "ü" = true ∧ isMatch "**" "ü" = true := by
  have hexact := fun text => (forms_denote text).1 "gemüse" (by decide)
  have hlevel := fun text => (forms_denote text).2.1 "grün"
  have hend : ∀ place, "ü" ++ "*" ++ "ü" ≠ place ++ "/*" := by
    intro place h
    have hlast := congrArg (fun s => s.toList.getLast?) h
    simp at hlast
  have haround := fun text =>
    (forms_denote text).2.2.1 "ü" "ü" (by decide) (by decide) (by decide) hend
  have hdeep : isMatch ("grün" ++ "/*") "grün/a/b" = false := by
    refine Bool.eq_false_iff.mpr fun h => ?_
    obtain ⟨name, hname, hslash⟩ := (hlevel _).mp h
    have hrest : ['a', '/', 'b'] = name.toList := by
      simpa using congrArg (fun s => s.toList.drop 5) hname
    rw [← hrest] at hslash
    simp at hslash
  refine ⟨(hexact _).mpr rfl, ?_, (hlevel _).mpr ⟨"über", by decide, by decide⟩, hdeep,
    (haround _).1.mpr ⟨"/é/", by decide⟩, (haround "ü").2 (by decide), (forms_denote "ü").2.2.2⟩
  exact Bool.eq_false_iff.mpr fun h => absurd ((hexact _).mp h) (by decide)

end GatedPipeline.Glob
