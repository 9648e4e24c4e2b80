import GatedPipeline.Digraph
import Mathlib.Data.Finset.Card
import Mathlib.Data.Finset.Range
import Mathlib.Logic.Relation
import Mathlib.Order.WellFounded

namespace GatedPipeline.Digraph

theorem mem_addNew (xs : List Nat) (x y : Nat) : y ∈ addNew xs x ↔ y ∈ xs ∨ y = x := by
  unfold addNew
  split
  · rename_i h
    have hx : x ∈ xs := by simpa using h
    constructor
    · exact Or.inl
    · rintro (hy | rfl)
      · exact hy
      · exact hx
  · simp

theorem nodup_addNew {xs : List Nat} (h : xs.Nodup) (x : Nat) : (addNew xs x).Nodup := by
  unfold addNew
  split
  · exact h
  · rename_i hx
    have hx : x ∉ xs := by simpa using hx
    refine List.Nodup.append h (List.nodup_singleton x) ?_
    intro y hy he
    rw [List.mem_singleton] at he
    exact hx (he ▸ hy)

theorem prefix_addNew (xs : List Nat) (x : Nat) : xs <+: addNew xs x := by
  unfold addNew
  split
  · exact List.prefix_refl xs
  · exact List.prefix_append xs [x]

theorem mem_foldl_addNew (ys xs : List Nat) (y : Nat) :
    y ∈ ys.foldl addNew xs ↔ y ∈ xs ∨ y ∈ ys := by
  induction ys generalizing xs with
  | nil => simp
  | cons z ys ih => rw [List.foldl_cons, ih, mem_addNew, List.mem_cons, or_assoc]

theorem nodup_foldl_addNew (ys : List Nat) {xs : List Nat} (h : xs.Nodup) :
    (ys.foldl addNew xs).Nodup := by
  induction ys generalizing xs with
  | nil => exact h
  | cons z ys ih => exact ih (nodup_addNew h z)

theorem prefix_foldl_addNew (ys xs : List Nat) : xs <+: ys.foldl addNew xs := by
  induction ys generalizing xs with
  | nil => exact List.prefix_refl xs
  | cons z ys ih => exact (prefix_addNew xs z).trans (ih (addNew xs z))

/-- Whatever is among `xs` keeps its successors among `xs`. -/
def Closed (succ : Nat → List Nat) (xs : List Nat) : Prop :=
  ∀ i ∈ xs, ∀ j ∈ succ i, j ∈ xs

/-- Spreading never leaves a set that is closed under successors. -/
theorem spread_subset {succ : Nat → List Nat} {S : Nat → Prop}
    (hS : ∀ i, S i → ∀ j ∈ succ i, S j) (steps : Nat) {xs : List Nat} (hx : ∀ i ∈ xs, S i) :
    ∀ i ∈ spread succ steps xs, S i := by
  induction steps generalizing xs with
  | zero => exact hx
  | succ steps ih =>
    have hy : ∀ i ∈ (xs.flatMap succ).foldl addNew xs, S i := by
      intro i hi
      rcases (mem_foldl_addNew _ _ i).mp hi with h | h
      · exact hx i h
      · obtain ⟨k, hk, hi⟩ := List.mem_flatMap.mp h
        exact hS k (hx k hk) i hi
    simp only [spread]
    split
    · exact hx
    · exact ih hy

theorem subset_spread (succ : Nat → List Nat) (steps : Nat) (xs : List Nat) :
    ∀ i ∈ xs, i ∈ spread succ steps xs := by
  induction steps generalizing xs with
  | zero => exact fun _ hi => hi
  | succ steps ih =>
    intro i hi
    simp only [spread]
    split
    · exact hi
    · exact ih _ i ((mem_foldl_addNew _ _ i).mpr (.inl hi))

/-- A list without repetitions that is as long as there are numbers has them all. -/
theorem closed_of_length_le {n : Nat} {succ : Nat → List Nat} (hb : ∀ i, ∀ j ∈ succ i, j < n)
    {xs : List Nat} (hd : xs.Nodup) (hx : ∀ i ∈ xs, i < n) (hl : n ≤ xs.length) :
    Closed succ xs := by
  have hs : xs.toFinset ⊆ Finset.range n := by
    intro i hi
    exact Finset.mem_range.mpr (hx i (List.mem_toFinset.mp hi))
  have he : xs.toFinset = Finset.range n := by
    apply Finset.eq_of_subset_of_card_le hs
    rw [Finset.card_range, List.toFinset_card_of_nodup hd]
    exact hl
  intro i _ j hj
  have hm : j ∈ Finset.range n := Finset.mem_range.mpr (hb i j hj)
  rw [← he] at hm
  exact List.mem_toFinset.mp hm

/-- Every step that adds nothing ends the search; a step that adds something brings the list
nearer to the length at which it holds all numbers. -/
theorem closed_spread {n : Nat} {succ : Nat → List Nat} (hb : ∀ i, ∀ j ∈ succ i, j < n)
    (steps : Nat) {xs : List Nat} (hd : xs.Nodup) (hx : ∀ i ∈ xs, i < n)
    (hl : n ≤ steps + xs.length) : Closed succ (spread succ steps xs) := by
  induction steps generalizing xs with
  | zero =>
    rw [Nat.zero_add] at hl
    exact closed_of_length_le hb hd hx hl
  | succ steps ih =>
    have hp := prefix_foldl_addNew (xs.flatMap succ) xs
    have hm : ∀ i, ∀ j ∈ succ i, i ∈ xs → j ∈ (xs.flatMap succ).foldl addNew xs := by
      intro i j hj hi
      exact (mem_foldl_addNew _ _ j).mpr (.inr (List.mem_flatMap.mpr ⟨i, hi, hj⟩))
    simp only [spread]
    split
    · rename_i he
      have he : xs = (xs.flatMap succ).foldl addNew xs :=
        hp.eq_of_length (beq_iff_eq.mp he).symm
      intro i hi j hj
      rw [he]
      exact hm i j hj hi
    · rename_i hne
      have hlen := hp.length_le
      have hne : ((xs.flatMap succ).foldl addNew xs).length ≠ xs.length := by simpa using hne
      apply ih (nodup_foldl_addNew _ hd)
      · intro j hj
        rcases (mem_foldl_addNew _ _ j).mp hj with h | h
        · exact hx j h
        · obtain ⟨i, _, hi⟩ := List.mem_flatMap.mp h
          exact hb i j hi
      · omega

section Reachable

variable {n : Nat} {succ : Nat → List Nat}

theorem mem_reachable_of_mem {i j : Nat} (h : j ∈ succ i) : j ∈ reachable n succ i :=
  subset_spread succ n _ j ((mem_foldl_addNew _ _ j).mpr (.inr h))

theorem closed_reachable (hb : ∀ i, ∀ j ∈ succ i, j < n) (i : Nat) :
    Closed succ (reachable n succ i) := by
  apply closed_spread hb n (nodup_foldl_addNew _ List.nodup_nil)
  · intro j hj
    rcases (mem_foldl_addNew _ _ j).mp hj with h | h
    · simp at h
    · exact hb i j h
  · omega

theorem reachable_subset (hb : ∀ i, ∀ j ∈ succ i, j < n) {i j : Nat} (h : j ∈ succ i) :
    ∀ k ∈ reachable n succ j, k ∈ reachable n succ i := by
  have hc := closed_reachable hb i
  apply spread_subset (S := fun k => k ∈ reachable n succ i) hc n
  intro k hk
  rcases (mem_foldl_addNew _ _ k).mp hk with h' | h'
  · simp at h'
  · exact hc j (mem_reachable_of_mem h) k h'

/-- Where no number reaches itself, a successor reaches fewer numbers. -/
theorem founded_of_irreflexive (hb : ∀ i, ∀ j ∈ succ i, j < n)
    (hi : ∀ i < n, i ∉ reachable n succ i) : WellFounded fun j i => j ∈ succ i := by
  apply Subrelation.wf (r := InvImage (· < ·) fun i => (reachable n succ i).toFinset.card) _
    (InvImage.wf _ Nat.lt_wfRel.wf)
  intro j i hj
  apply Finset.card_lt_card
  rw [Finset.ssubset_def]
  constructor
  · intro k hk
    exact List.mem_toFinset.mpr (reachable_subset hb hj k (List.mem_toFinset.mp hk))
  · intro hs
    have hm := hs (List.mem_toFinset.mpr (mem_reachable_of_mem hj))
    exact hi j (hb i j hj) (List.mem_toFinset.mp hm)

end Reachable

section Settle

def free (succ : Nat → List Nat) (settled waiting : List Nat) : List Nat :=
  waiting.filter fun i => (succ i).all settled.contains

def held (succ : Nat → List Nat) (settled waiting : List Nat) : List Nat :=
  waiting.filter (!(free succ settled waiting).contains ·)

variable {succ : Nat → List Nat} {fuel i : Nat} {settled waiting order : List Nat}

theorem settle_of_ne_nil (hne : waiting ≠ []) :
    settle succ (fuel + 1) settled waiting =
      if (free succ settled waiting).isEmpty then none
      else settle succ fuel (settled ++ free succ settled waiting) (held succ settled waiting) := by
  cases waiting with
  | nil => exact absurd rfl hne
  | cons w ws => rfl

theorem mem_free_iff :
    i ∈ free succ settled waiting ↔ i ∈ waiting ∧ ∀ j ∈ succ i, j ∈ settled := by
  simp only [free, List.mem_filter, List.all_eq_true, List.contains_iff_mem]

theorem mem_held_iff :
    i ∈ held succ settled waiting ↔ i ∈ waiting ∧ i ∉ free succ settled waiting := by
  simp only [held, List.mem_filter, Bool.not_eq_true', ← Bool.not_eq_true, List.contains_iff_mem]

/-- What settles can be gone through from its successors on. -/
theorem acc_of_settle (h : settle succ fuel settled waiting = some order)
    (ha : ∀ i ∈ settled, Acc (fun j i => j ∈ succ i) i) :
    ∀ i, i ∈ settled ∨ i ∈ waiting → Acc (fun j i => j ∈ succ i) i := by
  induction fuel generalizing settled waiting with
  | zero =>
    cases waiting with
    | nil => simpa using ha
    | cons w ws => simp [settle] at h
  | succ fuel ih =>
    by_cases hne : waiting = []
    · subst hne
      simpa using ha
    · rw [settle_of_ne_nil hne] at h
      split at h
      · cases h
      · have hfree : ∀ i ∈ free succ settled waiting, Acc (fun j i => j ∈ succ i) i :=
          fun i hi => Acc.intro i fun j hj => ha j ((mem_free_iff.mp hi).2 j hj)
        have hrest := ih h (List.forall_mem_append.mpr ⟨ha, hfree⟩)
        intro i hi
        rcases hi with hi | hi
        · exact ha i hi
        · by_cases hf : i ∈ free succ settled waiting
          · exact hfree i hf
          · exact hrest i (.inr (mem_held_iff.mpr ⟨hi, hf⟩))

end Settle

section Cycle

variable {n : Nat} {succ : Nat → List Nat}

theorem founded_of_order? (hb : ∀ i, ∀ j ∈ succ i, j < n) (h : (order? n succ).isSome = true) :
    WellFounded fun j i => j ∈ succ i := by
  obtain ⟨order, ho⟩ := Option.isSome_iff_exists.mp h
  have ha := acc_of_settle (by simpa [order?] using ho) (by simp)
  refine ⟨fun i => Acc.intro i fun j hj => ha j (.inr ?_)⟩
  exact List.mem_range.mpr (hb i j hj)

/-- A graph in which no cycle is found is well-founded. -/
theorem founded_of_cycle?_eq_none (hb : ∀ i, ∀ j ∈ succ i, j < n) (h : cycle? n succ = none) :
    WellFounded fun j i => j ∈ succ i := by
  unfold cycle? at h
  split at h
  · rename_i ho
    exact founded_of_order? hb ho
  · rw [Option.map_eq_none_iff, List.find?_eq_none] at h
    apply founded_of_irreflexive hb
    intro i hi
    simpa using h i (List.mem_range.mpr hi)

theorem transGen_of_mem_reachable {i j : Nat} (h : j ∈ reachable n succ i) :
    Relation.TransGen (fun i j => j ∈ succ i) i j := by
  refine spread_subset (S := fun j => Relation.TransGen (fun i j => j ∈ succ i) i j)
    (fun k hk l hl => hk.tail hl) n ?_ j h
  intro k hk
  rcases (mem_foldl_addNew _ _ k).mp hk with hk | hk
  · cases hk
  · exact .single hk

/-- No cycle is found exactly where no number is led back to itself. -/
theorem cycle?_eq_none_iff (hb : ∀ i, ∀ j ∈ succ i, j < n) :
    cycle? n succ = none ↔ ∀ i, ¬ Relation.TransGen (fun i j => j ∈ succ i) i i := by
  constructor
  · intro h i hi
    have hwf := (founded_of_cycle?_eq_none hb h).transGen
    exact hwf.irrefl.irrefl i (Relation.transGen_swap.mpr hi)
  · intro h
    unfold cycle?
    split
    · rfl
    · rw [Option.map_eq_none_iff, List.find?_eq_none]
      intro i _ hi
      exact h i (transGen_of_mem_reachable (List.contains_iff_mem.mp hi))

end Cycle

end GatedPipeline.Digraph
