namespace GatedPipeline.Text

/-- The characters with the Unicode property White_Space. -/
def isBlank (c : Char) : Bool :=
  let n := c.toNat
  (0x9 ≤ n && n ≤ 0xD) || n == 0x20 || n == 0x85 || n == 0xA0 || n == 0x1680 ||
    (0x2000 ≤ n && n ≤ 0x200A) || n == 0x2028 || n == 0x2029 || n == 0x202F || n == 0x205F ||
    n == 0x3000

def trimStart (s : List Char) : List Char := s.dropWhile isBlank

def trimEnd (s : List Char) : List Char := (s.reverse.dropWhile isBlank).reverse

/-- The text between the first and the last character that is not blank. -/
def trimmed (s : List Char) : List Char := trimEnd (trimStart s)

def trim (s : String) : String := String.ofList (trimmed s.toList)

/-- Nothing is left of the text once it is trimmed. -/
def isBlankText (s : String) : Bool := s.toList.all isBlank

theorem dropWhile_eq_nil_iff (p : Char → Bool) (s : List Char) :
    s.dropWhile p = [] ↔ s.all p = true := by
  induction s with
  | nil => simp
  | cons c r ih => by_cases h : p c <;> simp [List.dropWhile, h, ih]

theorem dropWhile_all (p : Char → Bool) (s : List Char) :
    (s.dropWhile p).all p = s.all p := by
  induction s with
  | nil => rfl
  | cons c r ih => by_cases h : p c <;> simp [List.dropWhile, h, ih]

theorem trimmed_eq_nil_iff (s : List Char) : trimmed s = [] ↔ s.all isBlank = true := by
  simp only [trimmed, trimEnd, List.reverse_eq_nil_iff, dropWhile_eq_nil_iff, List.all_reverse,
    trimStart, dropWhile_all]

/-- There is something to see at both ends. -/
structure Solid (s : List Char) : Prop where
  first : ∃ c cs, s = c :: cs ∧ isBlank c = false
  last : ∃ cs c, s = cs ++ [c] ∧ isBlank c = false

theorem solid_of_any_eq_false {s : List Char} (hne : s ≠ []) (h : s.any isBlank = false) :
    Solid s := by
  have hinked : ∀ c ∈ s, isBlank c = false := by simpa using h
  refine ⟨?_, ?_⟩
  · obtain ⟨c, cs, rfl⟩ := List.exists_cons_of_ne_nil hne
    exact ⟨c, cs, rfl, hinked c (by simp)⟩
  · obtain ⟨cs, c, rfl⟩ := List.eq_nil_or_concat s |>.resolve_left hne
    exact ⟨cs, c, by simp, hinked c (by simp)⟩

theorem Solid.append {s u : List Char} (hs : Solid s) (hu : Solid u) (between : List Char) :
    Solid (s ++ between ++ u) where
  first := by
    obtain ⟨c, cs, rfl, hc⟩ := hs.first
    exact ⟨c, cs ++ between ++ u, by simp, hc⟩
  last := by
    obtain ⟨cs, c, rfl, hc⟩ := hu.last
    exact ⟨s ++ between ++ cs, c, by simp, hc⟩

/-- Trimming takes off what is blank around a text, and nothing else. -/
theorem Solid.trimmed {s before after : List Char} (h : Solid s)
    (hbefore : before.all isBlank = true) (hafter : after.all isBlank = true) :
    trimmed (before ++ s ++ after) = s := by
  have hstart : trimStart (before ++ s ++ after) = s ++ after := by
    obtain ⟨c, cs, rfl, hc⟩ := h.first
    rw [trimStart, List.append_assoc, List.dropWhile_append_of_pos (List.all_eq_true.mp hbefore),
      List.cons_append, List.dropWhile_cons_of_neg (by simp [hc])]
  have hend : trimEnd (s ++ after) = s := by
    obtain ⟨cs, c, rfl, hc⟩ := h.last
    rw [trimEnd, List.reverse_append, List.dropWhile_append_of_pos (by simpa using hafter),
      List.reverse_append, List.reverse_singleton, List.singleton_append,
      List.dropWhile_cons_of_neg (by simp [hc])]
    simp
  rw [Text.trimmed, hstart, hend]

variable {s name : List Char}

/-- The name is what is left of the text without the blanks around it. -/
structure TrimsTo (s name : List Char) : Prop where
  around : ∃ left right, s = left ++ name ++ right ∧ left.all isBlank = true ∧
    right.all isBlank = true
  first : ∀ c ∈ name.head?, isBlank c = false
  last : ∀ c ∈ name.getLast?, isBlank c = false

theorem TrimsTo.solid (h : TrimsTo s name) (hne : name ≠ []) : Solid name := by
  refine ⟨?_, ?_⟩
  · obtain ⟨c, cs, rfl⟩ := List.exists_cons_of_ne_nil hne
    exact ⟨c, cs, rfl, h.first c rfl⟩
  · rcases List.eq_nil_or_concat name with rfl | ⟨cs, c, rfl⟩
    · exact absurd rfl hne
    · refine ⟨cs, c, by simp, h.last c ?_⟩
      rw [List.concat_eq_append, List.getLast?_concat]
      rfl

theorem TrimsTo.eq_trimmed (h : TrimsTo s name) : name = trimmed s := by
  obtain ⟨left, right, rfl, hleft, hright⟩ := h.around
  by_cases hne : name = []
  · subst hne
    refine ((trimmed_eq_nil_iff _).mpr ?_).symm
    simp only [List.append_nil, List.all_append, hleft, hright, Bool.and_self]
  · exact ((h.solid hne).trimmed hleft hright).symm

theorem isBlank_of_head?_dropWhile {c : Char} (h : c ∈ (s.dropWhile isBlank).head?) :
    isBlank c = false := by
  have hstop := List.head?_dropWhile_not isBlank s
  rw [Option.mem_def.mp h] at hstop
  exact hstop

theorem trimEnd_append (s : List Char) :
    trimEnd s ++ (s.reverse.takeWhile isBlank).reverse = s := by
  rw [trimEnd, ← List.reverse_append, List.takeWhile_append_dropWhile, List.reverse_reverse]

theorem trimsTo_trimmed (s : List Char) : TrimsTo s (trimmed s) := by
  refine ⟨⟨s.takeWhile isBlank, ((trimStart s).reverse.takeWhile isBlank).reverse, ?_, ?_, ?_⟩,
    fun c hc => ?_, fun c hc => ?_⟩
  · rw [trimmed, List.append_assoc, trimEnd_append, trimStart, List.takeWhile_append_dropWhile]
  · exact List.all_takeWhile
  · rw [List.all_reverse]
    exact List.all_takeWhile
  · have hstart : c ∈ (trimStart s).head? := by
      rw [← trimEnd_append (trimStart s), List.head?_append,
        show (trimEnd (trimStart s)).head? = some c from hc]
      rfl
    exact isBlank_of_head?_dropWhile hstart
  · rw [trimmed, trimEnd, List.getLast?_reverse] at hc
    exact isBlank_of_head?_dropWhile hc

end GatedPipeline.Text
