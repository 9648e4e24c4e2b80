import GatedPipeline.Proofs.Acyclicity
import Mathlib.Data.List.Chain
import Mathlib.Data.List.Perm.Subperm
import Mathlib.Data.Nat.Find

namespace GatedPipeline.Digraph

/-- A path along the relation that ends where it starts and passes nothing else twice. -/
def IsCycle {α : Type} (R : α → α → Prop) (path : List α) : Prop :=
  ∃ a between, path = a :: (between ++ [a]) ∧ (a :: between).Nodup ∧ path.IsChain R

/-- The least successor among the members. -/
structure Follows (succ : Nat → List Nat) (members : List Nat) (current next : Nat) : Prop where
  successor : next ∈ succ current
  member : next ∈ members
  least : ∀ k ∈ succ current, k ∈ members → next ≤ k

/-- The walk from `current` on, where `path` is the walk so far in reverse, ends with `result`. -/
inductive Walked (succ : Nat → List Nat) (members : List Nat) :
    List Nat → Nat → List Nat → Prop where
  | stuck {path : List Nat} {current : Nat} (ends : ∀ k ∈ succ current, k ∉ members) :
      Walked succ members path current path.reverse
  | closed {path : List Nat} {current next : Nat} (follows : Follows succ members current next)
      (seen : next ∈ path) :
      Walked succ members path current (path.reverse.dropWhile (· != next) ++ [next])
  | onward {path result : List Nat} {current next : Nat}
      (follows : Follows succ members current next) (fresh : next ∉ path)
      (rest : Walked succ members (next :: path) next result) :
      Walked succ members path current result

/-- A walk so far that has led to `current`, through no number twice. -/
structure Trail (succ : Nat → List Nat) (path : List Nat) (current : Nat) : Prop where
  distinct : path.Nodup
  linked : path.reverse.IsChain fun i j => j ∈ succ i
  last : path.head? = some current

theorem least?_eq_min? (xs : List Nat) : least? xs = xs.min? := by cases xs <;> rfl

section Walk

variable {succ : Nat → List Nat} {members path result : List Nat} {current next start : Nat}

theorem least?_eq_none_iff :
    least? ((succ current).filter members.contains) = none ↔ ∀ k ∈ succ current, k ∉ members := by
  simp [least?_eq_min?]

theorem least?_eq_some_iff :
    least? ((succ current).filter members.contains) = some next ↔
      Follows succ members current next := by
  rw [least?_eq_min?, List.min?_eq_some_iff]
  simp only [List.mem_filter, List.contains_iff_mem]
  constructor
  · rintro ⟨⟨hsuccessor, hmember⟩, hleast⟩
    exact ⟨hsuccessor, hmember, fun k hk hm => hleast k ⟨hk, hm⟩⟩
  · intro h
    exact ⟨⟨h.successor, h.member⟩, fun k hk => h.least k hk.1 hk.2⟩

theorem Follows.unique {other : Nat} (h : Follows succ members current next)
    (h' : Follows succ members current other) : next = other :=
  Nat.le_antisymm (h.least other h'.successor h'.member) (h'.least next h.successor h.member)

/-- A walk has one end. -/
theorem Walked.unique {result' : List Nat} (h : Walked succ members path current result)
    (h' : Walked succ members path current result') : result = result' := by
  induction h with
  | stuck hnone =>
    cases h' with
    | stuck => rfl
    | closed hfollows => exact absurd hfollows.member (hnone _ hfollows.successor)
    | onward hfollows => exact absurd hfollows.member (hnone _ hfollows.successor)
  | closed hfollows hseen =>
    cases h' with
    | stuck hnone => exact absurd hfollows.member (hnone _ hfollows.successor)
    | closed hfollows' => rw [hfollows.unique hfollows']
    | onward hfollows' hfresh => exact absurd (hfollows.unique hfollows' ▸ hseen) hfresh
  | onward hfollows hfresh _ ih =>
    cases h' with
    | stuck hnone => exact absurd hfollows.member (hnone _ hfollows.successor)
    | closed hfollows' hseen => exact absurd hseen (hfollows.unique hfollows' ▸ hfresh)
    | onward hfollows' _ hrest =>
      cases hfollows.unique hfollows'
      exact ih hrest

/-- A walk passes at most as many numbers as there are, so the steps suffice. -/
theorem walked_walk {n : Nat} (hb : ∀ i, ∀ j ∈ succ i, j < n) (fuel : Nat) (hd : path.Nodup)
    (hx : ∀ i ∈ path, i < n) (hl : n < fuel + path.length) :
    Walked succ members path current (walk succ members fuel path current) := by
  induction fuel generalizing path current with
  | zero =>
    -- So long a path would repeat a number.
    have hsub : path ⊆ List.range n := fun i hi => List.mem_range.mpr (hx i hi)
    have hlen := (List.subperm_of_subset hd hsub).length_le
    rw [List.length_range] at hlen
    omega
  | succ fuel ih =>
    unfold walk
    split
    · rename_i hnone
      exact .stuck (least?_eq_none_iff.mp hnone)
    · rename_i next hnext
      have hfollows := least?_eq_some_iff.mp hnext
      split
      · rename_i hseen
        exact .closed hfollows (List.contains_iff_mem.mp hseen)
      · rename_i hfresh
        have hfresh : next ∉ path := fun h => hfresh (List.contains_iff_mem.mpr h)
        apply Walked.onward hfollows hfresh
        apply ih (List.nodup_cons.mpr ⟨hfresh, hd⟩)
        · intro i hi
          rcases List.mem_cons.mp hi with rfl | hi
          · exact hb current _ hfollows.successor
          · exact hx i hi
        · rw [List.length_cons]
          omega

/-- From any number the walk ends after at most as many steps as there are numbers. -/
theorem walked_iff {n : Nat} (hb : ∀ i, ∀ j ∈ succ i, j < n) (hstart : start < n) :
    Walked succ members [start] start result ↔ result = walk succ members n [start] start := by
  have hwalked : Walked succ members [start] start (walk succ members n [start] start) :=
    walked_walk hb n (List.nodup_singleton start) (List.forall_mem_singleton.mpr hstart)
      (Nat.lt_succ_self n)
  constructor
  · exact fun h => h.unique hwalked
  · rintro rfl
    exact hwalked

theorem trail_start (succ : Nat → List Nat) (start : Nat) : Trail succ [start] start where
  distinct := List.nodup_singleton start
  linked := List.isChain_singleton start
  last := rfl

theorem Trail.onward (h : Trail succ path current) (hnext : next ∈ succ current)
    (hfresh : next ∉ path) : Trail succ (next :: path) next where
  distinct := List.nodup_cons.mpr ⟨hfresh, h.distinct⟩
  linked := by
    rw [List.reverse_cons]
    apply h.linked.append (List.isChain_singleton next)
    intro x hx y hy
    rw [List.getLast?_reverse, h.last] at hx
    cases hx
    cases hy
    exact hnext
  last := rfl

/-- What is left of a walk once it is cut down to the number that comes again. -/
theorem Trail.closed (h : Trail succ path current) (hnext : next ∈ succ current)
    (hseen : next ∈ path) :
    IsCycle (fun i j => j ∈ succ i) (path.reverse.dropWhile (· != next) ++ [next]) := by
  -- The walk is `before`, then `next` for the first and only time, then `between`.
  obtain ⟨before, between, hpath⟩ := List.append_of_mem (List.mem_reverse.mpr hseen)
  have hdistinct : (before ++ next :: between).Nodup := hpath ▸ List.nodup_reverse.mpr h.distinct
  have hbefore : ∀ i ∈ before, (i != next) = true := by
    intro i hi
    apply bne_iff_ne.mpr
    exact (List.nodup_append.mp hdistinct).2.2 i hi next List.mem_cons_self
  have hcut : path.reverse.dropWhile (· != next) = next :: between := by
    rw [hpath, List.dropWhile_append_of_pos hbefore, List.dropWhile_cons_of_neg (by simp)]
  have hlast : path.reverse.getLast? = some current := by rw [List.getLast?_reverse, h.last]
  rw [hcut]
  refine ⟨next, between, rfl, (List.nodup_append.mp hdistinct).2.1, ?_⟩
  have hlinked : (next :: between).IsChain fun i j => j ∈ succ i :=
    (hpath ▸ h.linked).right_of_append
  apply hlinked.append (List.isChain_singleton next)
  intro x hx y hy
  rw [hpath, List.getLast?_append_of_ne_nil _ (List.cons_ne_nil next between)] at hlast
  cases hx.symm.trans hlast
  cases hy
  exact hnext

/-- A walk among members of which each has a successor among them comes round. -/
theorem Walked.isCycle (h : Walked succ members path current result)
    (hon : ∀ i ∈ members, ∃ k ∈ succ i, k ∈ members) (hcurrent : current ∈ members)
    (htrail : Trail succ path current) : IsCycle (fun i j => j ∈ succ i) result := by
  induction h with
  | stuck hnone =>
    obtain ⟨k, hk, hmember⟩ := hon _ hcurrent
    exact absurd hmember (hnone k hk)
  | closed hfollows hseen => exact htrail.closed hfollows.successor hseen
  | onward hfollows hfresh _ ih =>
    exact ih hfollows.member (htrail.onward hfollows.successor hfresh)

end Walk

section Mates

variable {n : Nat} {succ : Nat → List Nat} {i j : Nat}

theorem mem_reachable_iff (hb : ∀ i, ∀ j ∈ succ i, j < n) :
    j ∈ reachable n succ i ↔ Relation.TransGen (fun i j => j ∈ succ i) i j := by
  constructor
  · exact transGen_of_mem_reachable
  · intro h
    induction h with
    | single hj => exact mem_reachable_of_mem hj
    | tail _ hj ih => exact closed_reachable hb i _ ih _ hj

/-- The mates are the strongly connected component of a number that lies on a cycle. -/
theorem mem_cycleMates_iff (hb : ∀ i, ∀ j ∈ succ i, j < n) :
    j ∈ cycleMates n succ i ↔
      Relation.TransGen (fun i j => j ∈ succ i) i j ∧
        Relation.TransGen (fun i j => j ∈ succ i) j i := by
  rw [cycleMates, List.mem_filter, List.contains_iff_mem, mem_reachable_iff hb,
    mem_reachable_iff hb]

theorem exists_succ_mem_cycleMates (hb : ∀ i, ∀ j ∈ succ i, j < n) (h : j ∈ cycleMates n succ i) :
    ∃ k ∈ succ j, k ∈ cycleMates n succ i := by
  obtain ⟨hto, hback⟩ := (mem_cycleMates_iff hb).mp h
  rcases Relation.TransGen.head'_iff.mp hback with ⟨k, hk, hrest⟩
  refine ⟨k, hk, (mem_cycleMates_iff hb).mpr ⟨hto.tail hk, ?_⟩⟩
  rcases Relation.reflTransGen_iff_eq_or_transGen.mp hrest with rfl | hrest
  · exact hto.tail hk
  · exact hrest

theorem isCycle_walk (hb : ∀ i, ∀ j ∈ succ i, j < n)
    (h : Relation.TransGen (fun i j => j ∈ succ i) i i) :
    IsCycle (fun i j => j ∈ succ i) (walk succ (cycleMates n succ i) n [i] i) := by
  have hstart : i < n := by
    obtain ⟨k, _, hi⟩ := Relation.TransGen.tail'_iff.mp h
    exact hb k i hi
  apply ((walked_iff hb hstart).mpr rfl).isCycle
  · exact fun k hk => exists_succ_mem_cycleMates hb hk
  · exact (mem_cycleMates_iff hb).mpr ⟨h, h⟩
  · exact trail_start succ i

/-- The walk starts at the least number that lies on a cycle. -/
theorem cycle?_eq_some_walk (hb : ∀ i, ∀ j ∈ succ i, j < n)
    (h : Relation.TransGen (fun i j => j ∈ succ i) i i)
    (hleast : ∀ k < i, ¬ Relation.TransGen (fun i j => j ∈ succ i) k k) :
    cycle? n succ = some (walk succ (cycleMates n succ i) n [i] i) := by
  have horder : (order? n succ).isSome = false := by
    apply Bool.eq_false_iff.mpr
    intro ho
    exact (founded_of_order? hb ho).transGen.irrefl.irrefl i (Relation.transGen_swap.mpr h)
  have hfind : (List.range n).find? (fun i => (reachable n succ i).contains i) = some i := by
    rw [List.find?_range_eq_some]
    simp only [List.contains_iff_mem, mem_reachable_iff hb, Bool.not_eq_true', Bool.eq_false_iff,
      ne_eq]
    obtain ⟨k, _, hi⟩ := Relation.TransGen.tail'_iff.mp h
    exact ⟨h, List.mem_range.mpr (hb k i hi), hleast⟩
  rw [cycle?, if_neg (Bool.eq_false_iff.mp horder), hfind]
  rfl

theorem exists_least_of_transGen (h : ∃ i, Relation.TransGen (fun i j => j ∈ succ i) i i) :
    ∃ i, Relation.TransGen (fun i j => j ∈ succ i) i i ∧
      ∀ k < i, ¬ Relation.TransGen (fun i j => j ∈ succ i) k k := by
  classical
  exact ⟨Nat.find h, Nat.find_spec h, fun k hk => Nat.find_min h hk⟩

/-- Where there is a cycle, what is found is one. -/
theorem exists_isCycle_of_transGen (hb : ∀ i, ∀ j ∈ succ i, j < n)
    (h : ∃ i, Relation.TransGen (fun i j => j ∈ succ i) i i) :
    ∃ path, cycle? n succ = some path ∧ IsCycle (fun i j => j ∈ succ i) path := by
  obtain ⟨i, hi, hleast⟩ := exists_least_of_transGen h
  exact ⟨_, cycle?_eq_some_walk hb hi hleast, isCycle_walk hb hi⟩

/-- A number that is its own successor is the whole cycle if no lesser number lies on one. -/
theorem cycle?_of_self (hb : ∀ i, ∀ j ∈ succ i, j < n) (h : i ∈ succ i)
    (hleast : ∀ k < i, ¬ Relation.TransGen (fun i j => j ∈ succ i) k k) :
    cycle? n succ = some [i, i] := by
  have hself : Relation.TransGen (fun i j => j ∈ succ i) i i := .single h
  -- A lesser mate would lie on a cycle.
  have hfollows : Follows succ (cycleMates n succ i) i i := by
    refine ⟨h, (mem_cycleMates_iff hb).mpr ⟨hself, hself⟩, ?_⟩
    intro k _ hk
    obtain ⟨hto, hback⟩ := (mem_cycleMates_iff hb).mp hk
    by_contra hlt
    exact hleast k (Nat.lt_of_not_le hlt) (hback.trans hto)
  obtain ⟨m, rfl⟩ : ∃ m, n = m + 1 := Nat.exists_eq_add_one.mpr (Nat.zero_lt_of_lt (hb i i h))
  rw [cycle?_eq_some_walk hb hself hleast, walk, least?_eq_some_iff.mpr hfollows]
  simp

end Mates

section Map

variable {α β : Type} {R : α → α → Prop} {S : β → β → Prop} {path : List α}

theorem exists_rel_of_mem {a b : α} {rest : List α} (h : (a :: rest).IsChain R) (hb : b ∈ rest) :
    ∃ c, R c b := by
  induction rest generalizing a with
  | nil => cases hb
  | cons c rest ih =>
    obtain ⟨hac, hrest⟩ := List.isChain_cons_cons.mp h
    rcases List.mem_cons.mp hb with rfl | hb
    · exact ⟨a, hac⟩
    · exact ih hrest hb

/-- Whatever lies on a cycle comes after something. -/
theorem IsCycle.exists_rel (h : IsCycle R path) {b : α} (hb : b ∈ path) : ∃ c, R c b := by
  obtain ⟨a, between, rfl, _, hchain⟩ := h
  apply exists_rel_of_mem hchain
  rcases List.mem_cons.mp hb with rfl | hb
  · exact List.mem_append_right between List.mem_cons_self
  · exact hb

theorem IsCycle.map (h : IsCycle R path) {f : α → β} (hf : ∀ a b, R a b → S (f a) (f b))
    (hinj : ∀ a ∈ path, ∀ b ∈ path, f a = f b → a = b) : IsCycle S (path.map f) := by
  obtain ⟨a, between, rfl, hdistinct, hchain⟩ := h
  refine ⟨f a, between.map f, ?_, ?_, ?_⟩
  · rw [List.map_cons, List.map_append, List.map_singleton]
  · rw [← List.map_cons]
    apply hdistinct.map_on
    have hsub : a :: between ⊆ a :: (between ++ [a]) :=
      List.cons_subset_cons a (List.subset_append_left between [a])
    exact fun x hx y hy => hinj x (hsub hx) y (hsub hy)
  · exact (List.isChain_map f).mpr (hchain.imp hf)

end Map

end GatedPipeline.Digraph
