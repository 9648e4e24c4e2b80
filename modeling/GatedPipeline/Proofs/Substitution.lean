import GatedPipeline.Interpolation

namespace GatedPipeline.Interpolation

variable {x : Interpolation} {s before inside body after : List Char}

theorem not_mem_takeWhile_notClosing (s : List Char) : '}' ∉ s.takeWhile notClosing := by
  intro h
  have hclosing := List.all_eq_true.mp (List.all_takeWhile (p := notClosing)) _ h
  cases hclosing

theorem body?_eq_some_iff :
    body? s = some (body, after) ↔ s = body ++ '}' :: '}' :: after ∧ body ≠ [] ∧ '}' ∉ body := by
  constructor
  · intro h
    unfold body? at h
    split at h
    · rename_i c cs rest hbody hrest
      cases h
      refine ⟨?_, List.cons_ne_nil c cs, hbody ▸ not_mem_takeWhile_notClosing s⟩
      rw [← hbody, ← hrest, List.takeWhile_append_dropWhile]
    · cases h
  · rintro ⟨rfl, hne, hbody⟩
    have hgoes : ∀ c ∈ body, notClosing c = true := by
      intro c hc
      refine bne_iff_ne.mpr ?_
      rintro rfl
      exact hbody hc
    obtain ⟨c, cs, rfl⟩ := List.exists_cons_of_ne_nil hne
    unfold body?
    rw [List.takeWhile_append_of_pos hgoes, List.dropWhile_append_of_pos hgoes]
    simp [notClosing]

def opening : List Char := ['$', '{', '{']

def closing : List Char := ['}', '}']

theorem expression?_eq_some_iff :
    expression? s = some (body, after) ↔
      s = opening ++ body ++ closing ++ after ∧ body ≠ [] ∧ '}' ∉ body := by
  rw [expression?, Option.bind_eq_some_iff]
  simp only [Text.stripStart?_eq_some_iff, body?_eq_some_iff]
  constructor
  · rintro ⟨_, rfl, rfl, h⟩
    exact ⟨by simp [opening, closing], h⟩
  · rintro ⟨rfl, h⟩
    exact ⟨_, rfl, by simp [closing], h⟩

/-- What follows such a text may belong to an expression that the text begins. -/
def Unclosed (s : List Char) : Prop :=
  ∃ before inside, s = before ++ opening ++ inside ∧ '}' ∉ inside

theorem Unclosed.append (h : Unclosed s) (before : List Char) : Unclosed (before ++ s) := by
  obtain ⟨start, inside, rfl, hinside⟩ := h
  exact ⟨before ++ start, inside, by simp, hinside⟩

theorem not_unclosed_of_not_mem (h : '$' ∉ s) : ¬ Unclosed s := by
  rintro ⟨before, inside, rfl, _⟩
  simp [opening] at h

/-- An expression that is cut before a dollar sign: its beginning leaves it open. -/
theorem unclosed_of_cut {tail : List Char} (hne : before ≠ []) (hinside : '}' ∉ inside)
    (h : opening ++ inside ++ closing = before ++ '$' :: tail) : Unclosed before := by
  rw [List.append_assoc] at h
  rcases List.append_eq_append_iff.mp h with ⟨start, rfl, hstart⟩ | ⟨rest, hopening, hrest⟩
  · rcases List.append_eq_append_iff.mp hstart with ⟨late, _, hclosing⟩ | ⟨late, rfl, _⟩
    · have hmem : '$' ∈ closing := hclosing ▸ List.mem_append_right late List.mem_cons_self
      simp [closing] at hmem
    · exact ⟨[], start, rfl, fun hmem => hinside (List.mem_append_left late hmem)⟩
  · obtain ⟨c, cs, rfl⟩ := List.exists_cons_of_ne_nil hne
    cases rest with
    | nil => exact ⟨[], [], by rw [hopening]; simp, List.not_mem_nil⟩
    | cons d ds =>
      have hmem : '$' ∈ cs ++ d :: ds := by
        rw [(List.cons.inj hrest).1]
        exact List.mem_append_right cs List.mem_cons_self
      rw [show cs ++ d :: ds = ['{', '{'] from (List.cons.inj hopening).2.symm] at hmem
      simp at hmem

/-- No expression reaches from a text that leaves none open into the next one. -/
theorem closed_before_opening (h : ¬ Unclosed before) (hne : before ≠ []) {rest : List Char}
    (hinside : '}' ∉ inside)
    (he : before ++ opening ++ rest = opening ++ inside ++ closing ++ after) :
    ∃ after', before = opening ++ inside ++ closing ++ after' := by
  rw [List.append_assoc before] at he
  rcases List.append_eq_append_iff.mp he with ⟨tail, htext, hrest⟩ | ⟨after', hbefore, _⟩
  · cases tail with
    | nil =>
      exact ⟨[], by simpa using htext.symm⟩
    | cons c tail =>
      rw [← (List.cons.inj hrest).1] at htext
      exact absurd (unclosed_of_cut hne hinside htext) h
  · exact ⟨after', hbefore⟩

/-- What follows does not change where an expression ends. -/
theorem expression?_append (h : expression? s = some (body, after)) (more : List Char) :
    expression? (s ++ more) = some (body, after ++ more) := by
  obtain ⟨rfl, hbody⟩ := expression?_eq_some_iff.mp h
  exact expression?_eq_some_iff.mpr ⟨List.append_assoc _ after more, hbody⟩

/-- If none begins at a text that leaves none open, none begins there with another behind it. -/
theorem expression?_append_opening (h : ¬ Unclosed s) (hne : s ≠ []) (hnone : expression? s = none)
    (more : List Char) : expression? (s ++ opening ++ more) = none := by
  refine Option.eq_none_iff_forall_ne_some.mpr fun p hp => ?_
  obtain ⟨b, rest⟩ := p
  obtain ⟨he, hb, hinside⟩ := expression?_eq_some_iff.mp hp
  obtain ⟨rest', hs⟩ := closed_before_opening h hne hinside he
  have hearly : expression? s = some (b, rest') := expression?_eq_some_iff.mpr ⟨hs, hb, hinside⟩
  cases hnone.symm.trans hearly

theorem expandChars_nil (x : Interpolation) : x.expandChars [] = [] := by
  rw [expandChars]

theorem expandChars_of_some (x : Interpolation) (h : expression? s = some (body, after)) :
    x.expandChars s = x.value (Text.trimmed body) ++ x.expandChars after := by
  cases s with
  | nil => cases h
  | cons c cs =>
    rw [expandChars]
    split
    · rename_i hnone
      cases h.symm.trans hnone
    · rename_i b rest hsome
      cases h.symm.trans hsome
      rfl

theorem expandChars_of_none (x : Interpolation) {c : Char} (h : expression? (c :: s) = none) :
    x.expandChars (c :: s) = c :: x.expandChars s := by
  rw [expandChars]
  split
  · rfl
  · rename_i hsome
    cases h.symm.trans hsome

/-- The beginning of a text leaves no expression open, and an expression follows: it is replaced by
its value. -/
theorem expandChars_expression (x : Interpolation) (h : ¬ Unclosed before) (hne : body ≠ [])
    (hbody : '}' ∉ body) (after : List Char) :
    x.expandChars (before ++ opening ++ body ++ closing ++ after) =
      x.expandChars before ++ x.value (Text.trimmed body) ++ x.expandChars after := by
  -- on the length of what stands in front: an expression that begins there also ends there, so what
  -- is left after it is shorter and still leaves nothing open
  induction hn : before.length using Nat.strongRecOn generalizing before with
  | ind n ih =>
    cases before with
    | nil =>
      have hfirst : expression? (opening ++ body ++ closing ++ after) = some (body, after) :=
        expression?_eq_some_iff.mpr ⟨rfl, hne, hbody⟩
      rw [List.nil_append, expandChars_nil, List.nil_append]
      exact x.expandChars_of_some hfirst
    | cons c cs =>
      cases hfirst : expression? (c :: cs) with
      | some p =>
        obtain ⟨b, rest⟩ := p
        have hwhole : expression? (c :: cs ++ opening ++ body ++ closing ++ after) =
            some (b, rest ++ opening ++ body ++ closing ++ after) := by
          simpa using expression?_append hfirst (opening ++ body ++ closing ++ after)
        have hrest : ¬ Unclosed rest :=
          fun hopen => h ((expression?_eq_some_iff.mp hfirst).1 ▸ hopen.append _)
        rw [x.expandChars_of_some hwhole, x.expandChars_of_some hfirst,
          ih rest.length (hn ▸ length_of_expression? hfirst) hrest rfl]
        simp
      | none =>
        have hwhole : expression? (c :: (cs ++ opening ++ body ++ closing ++ after)) = none := by
          simpa using expression?_append_opening h (List.cons_ne_nil c cs) hfirst
            (body ++ closing ++ after)
        have hcs : ¬ Unclosed cs := fun hopen => h (hopen.append [c])
        rw [x.expandChars_of_none hfirst, List.cons_append, List.cons_append, List.cons_append,
          List.cons_append, x.expandChars_of_none hwhole,
          ih cs.length (hn ▸ Nat.lt_succ_self _) hcs rfl]
        simp

/-- The expression that is open at the end of a text begins where nothing was open. -/
theorem Unclosed.first (h : Unclosed s) :
    ∃ start inside, s = start ++ opening ++ inside ∧ ¬ Unclosed start ∧ '}' ∉ inside := by
  obtain ⟨before, inside, rfl, hinside⟩ := h
  induction hn : before.length using Nat.strongRecOn generalizing before inside with
  | ind n ih =>
    by_cases hopen : Unclosed before
    · obtain ⟨start, more, rfl, hmore⟩ := hopen
      have hboth : '}' ∉ more ++ opening ++ inside := by simp [opening, hmore, hinside]
      have hless : start.length < n := by
        simp only [opening, List.length_append, List.length_cons, List.length_nil] at hn
        omega
      have hfirst := ih start.length hless start (more ++ opening ++ inside) hboth rfl
      simpa using hfirst
    · exact ⟨before, inside, rfl, hopen, hinside⟩

/-- Expressions do not stand in one another: behind an open one, another is part of its text. -/
theorem expandChars_inside (x : Interpolation) (h : Unclosed before) (hbody : '}' ∉ body)
    (after : List Char) :
    ∃ start inside, before = start ++ opening ++ inside ∧
      x.expandChars (before ++ opening ++ body ++ closing ++ after) =
        x.expandChars start ++ x.value (Text.trimmed (inside ++ opening ++ body)) ++
          x.expandChars after := by
  obtain ⟨start, inside, rfl, hstart, hinside⟩ := h.first
  have hwhole : '}' ∉ inside ++ opening ++ body := by simp [opening, hinside, hbody]
  refine ⟨start, inside, rfl, ?_⟩
  have hexpands := x.expandChars_expression hstart (by simp [opening]) hwhole after
  simpa using hexpands

end GatedPipeline.Interpolation
