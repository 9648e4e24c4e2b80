namespace GatedPipeline

variable {α : Type}

/-- The beginning of a list up to the first element that stops, and with it. -/
def throughFirst (stops : α → Bool) : List α → List α
  | [] => []
  | a :: rest => if stops a then [a] else a :: throughFirst stops rest

variable {stops : α → Bool} {as before after : List α} {a : α}

theorem throughFirst_begins (stops : α → Bool) (as : List α) : throughFirst stops as <+: as := by
  induction as with
  | nil => exact List.prefix_refl []
  | cons a rest ih =>
    unfold throughFirst
    split
    · exact ⟨rest, rfl⟩
    · exact List.cons_prefix_cons.mpr ⟨rfl, ih⟩

theorem throughFirst_eq_self (h : ∀ a ∈ as, stops a = false) : throughFirst stops as = as := by
  induction as with
  | nil => rfl
  | cons a rest ih =>
    obtain ⟨ha, hrest⟩ := List.forall_mem_cons.mp h
    rw [throughFirst, ha, if_neg Bool.false_ne_true, ih hrest]

theorem throughFirst_append_cons (h : ∀ b ∈ before, stops b = false) (ha : stops a = true) :
    throughFirst stops (before ++ a :: after) = before ++ [a] := by
  induction before with
  | nil => rw [List.nil_append, throughFirst, if_pos ha, List.nil_append]
  | cons b rest ih =>
    obtain ⟨hb, hrest⟩ := List.forall_mem_cons.mp h
    rw [List.cons_append, throughFirst, hb, if_neg Bool.false_ne_true, ih hrest, List.cons_append]

/-- Only the last element can stop. -/
theorem stops_dropLast_throughFirst (ha : a ∈ (throughFirst stops as).dropLast) :
    stops a = false := by
  induction as with
  | nil => cases ha
  | cons b rest ih =>
    unfold throughFirst at ha
    split at ha
    · cases ha
    · rename_i hb
      cases hrest : throughFirst stops rest with
      | nil =>
        rw [hrest] at ha
        cases ha
      | cons d ds =>
        rw [hrest, List.dropLast_cons_cons] at ha
        rcases List.mem_cons.mp ha with rfl | ha
        · exact Bool.not_eq_true _ ▸ hb
        · exact ih (hrest ▸ ha)

end GatedPipeline
