import GatedPipeline.Proofs.Acyclicity
import Mathlib.Data.List.Perm.Basic

namespace GatedPipeline.Digraph

/-- Whatever a number leads to stands before it. -/
def SuccessorsFirst (succ : Nat → List Nat) (order : List Nat) : Prop :=
  ∀ earlier i later, order = earlier ++ i :: later → ∀ j ∈ succ i, j ∈ earlier

variable {n fuel : Nat} {succ : Nat → List Nat} {settled waiting : List Nat}

theorem free_append_held (succ : Nat → List Nat) (settled waiting : List Nat) :
    (free succ settled waiting ++ held succ settled waiting).Perm waiting := by
  have hheld : held succ settled waiting =
      waiting.filter fun i => !(succ i).all settled.contains := by
    apply List.filter_congr
    intro i hi
    rw [Bool.eq_iff_iff, Bool.not_eq_true', Bool.not_eq_true', ← Bool.not_eq_true,
      ← Bool.not_eq_true, List.contains_iff_mem, free, List.mem_filter]
    exact not_congr (and_iff_right hi)
  rw [hheld]
  exact List.filter_append_perm _ waiting

/-- The numbers of one round may come in any order, since all they lead to has settled. -/
theorem SuccessorsFirst.append (h : SuccessorsFirst succ settled) {free : List Nat}
    (hfree : ∀ i ∈ free, ∀ j ∈ succ i, j ∈ settled) : SuccessorsFirst succ (settled ++ free) := by
  intro earlier i later horder j hj
  rcases List.append_eq_append_iff.mp horder with ⟨round, rfl, hround⟩ | ⟨rest, rfl, hrest⟩
  · have hi : i ∈ free := hround ▸ List.mem_append_right round List.mem_cons_self
    exact List.mem_append_left round (hfree i hi j hj)
  · cases rest with
    | nil =>
      have hi : i ∈ free := by
        rw [List.nil_append] at hrest
        exact hrest ▸ List.mem_cons_self
      rw [← List.append_nil earlier]
      exact hfree i hi j hj
    | cons k rest =>
      cases hrest
      exact h earlier i rest rfl j hj

/-- While numbers wait, one of them leads only to what has settled. -/
theorem free_ne_nil (hf : WellFounded fun j i => j ∈ succ i)
    (hc : ∀ i ∈ waiting, ∀ j ∈ succ i, j ∈ settled ∨ j ∈ waiting) (hne : waiting ≠ []) :
    free succ settled waiting ≠ [] := by
  obtain ⟨i, hi, hmin⟩ := hf.has_min { i | i ∈ waiting } (List.exists_mem_of_ne_nil waiting hne)
  apply List.ne_nil_of_mem (mem_free_iff.mpr ⟨hi, _⟩)
  intro j hj
  rcases hc i hi j hj with hsettled | hwaiting
  · exact hsettled
  · exact absurd hj (hmin j hwaiting)

/-- A round leads nobody who waits to a number that is neither settled nor waiting. -/
theorem closed_held (hc : ∀ i ∈ waiting, ∀ j ∈ succ i, j ∈ settled ∨ j ∈ waiting) :
    ∀ i ∈ held succ settled waiting, ∀ j ∈ succ i,
      j ∈ settled ++ free succ settled waiting ∨ j ∈ held succ settled waiting := by
  intro i hi j hj
  rcases hc i (mem_held_iff.mp hi).1 j hj with hsettled | hwaiting
  · exact .inl (List.mem_append_left _ hsettled)
  · have hround := (free_append_held succ settled waiting).mem_iff.mpr hwaiting
    rcases List.mem_append.mp hround with hfree | hheld
    · exact .inl (List.mem_append_right settled hfree)
    · exact .inr hheld

theorem settle_spec (hf : WellFounded fun j i => j ∈ succ i) (hl : waiting.length ≤ fuel)
    (hc : ∀ i ∈ waiting, ∀ j ∈ succ i, j ∈ settled ∨ j ∈ waiting)
    (ho : SuccessorsFirst succ settled) :
    ∃ order, settle succ fuel settled waiting = some order ∧ order.Perm (settled ++ waiting) ∧
      SuccessorsFirst succ order := by
  induction fuel generalizing settled waiting with
  | zero =>
    cases List.length_eq_zero_iff.mp (Nat.le_zero.mp hl)
    exact ⟨settled, rfl, by rw [List.append_nil], ho⟩
  | succ fuel ih =>
    by_cases hne : waiting = []
    · subst hne
      exact ⟨settled, rfl, by rw [List.append_nil], ho⟩
    · have hfree := free_ne_nil hf hc hne
      have hround := free_append_held succ settled waiting
      have hlength := hround.length_eq
      rw [List.length_append] at hlength
      have hpositive := List.length_pos_iff.mpr hfree
      have hnext : SuccessorsFirst succ (settled ++ free succ settled waiting) :=
        ho.append fun i hi => (mem_free_iff.mp hi).2
      obtain ⟨order, horder, hperm, hfirst⟩ := ih (by omega) (closed_held hc) hnext
      refine ⟨order, ?_, ?_, hfirst⟩
      · rw [settle_of_ne_nil hne, if_neg (by simpa using hfree), horder]
      · rw [List.append_assoc] at hperm
        exact hperm.trans (hround.append_left settled)

/-- The numbers can be gone through, each once and after its successors, where there is no infinite
descent. -/
theorem exists_order? (hb : ∀ i, ∀ j ∈ succ i, j < n) (hf : WellFounded fun j i => j ∈ succ i) :
    ∃ order, order? n succ = some order ∧ order.Perm (List.range n) ∧
      SuccessorsFirst succ order := by
  have hc : ∀ i ∈ List.range n, ∀ j ∈ succ i, j ∈ [] ∨ j ∈ List.range n :=
    fun i _ j hj => .inr (List.mem_range.mpr (hb i j hj))
  have hempty : SuccessorsFirst succ [] := fun _ _ _ h => absurd h.symm (by simp)
  obtain ⟨order, horder, hperm, hfirst⟩ :=
    settle_spec hf (List.length_range (n := n)).le hc hempty
  exact ⟨order, horder, hperm, hfirst⟩

end GatedPipeline.Digraph
