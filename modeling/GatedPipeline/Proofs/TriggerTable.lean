import GatedPipeline.Trigger

namespace GatedPipeline

namespace Trigger

variable {t : Trigger} {e : Event} {triggers more : List Trigger}

/-- The rows of the table. -/
inductive Takes (t : Trigger) : Event → Prop where
  /-- A pull request is taken by the branch patterns, or by the lack of any. -/
  | pullRequest {ref : String} (kind : t.kind = .pullRequest)
      (filter : t.branches = [] ∨
        ∃ p ∈ t.branches, Glob.isMatch p (Event.refName ⟨.pullRequest, ref⟩) = true) :
      Takes t ⟨.pullRequest, ref⟩
  /-- A tag is taken by the tag patterns, and by a trigger without any patterns. How it was pushed
  makes no difference. -/
  | tag {pushed : EventKind} {name : String} (push : pushed = .push ∨ pushed = .tagPush)
      (kind : t.kind = .push)
      (filter : (t.branches = [] ∧ t.tags = []) ∨ ∃ p ∈ t.tags, Glob.isMatch p name = true) :
      Takes t ⟨pushed, "refs/tags/" ++ name⟩
  /-- A tag push of what is no tag is taken only without patterns. -/
  | untagged {ref : String} (untagged : ∀ name, ref ≠ "refs/tags/" ++ name)
      (kind : t.kind = .push) (filter : t.branches = [] ∧ t.tags = []) :
      Takes t ⟨.tagPush, ref⟩
  /-- Any other push is taken by the branch patterns, and by a trigger without any patterns. -/
  | branch {ref : String} (untagged : ∀ name, ref ≠ "refs/tags/" ++ name) (kind : t.kind = .push)
      (filter : (t.branches = [] ∧ t.tags = []) ∨
        ∃ p ∈ t.branches, Glob.isMatch p (Event.refName ⟨.push, ref⟩) = true) :
      Takes t ⟨.push, ref⟩

theorem accepts_pullRequest (ref : String) : t.accepts ⟨.pullRequest, ref⟩ = true ↔
    t.kind = .pullRequest ∧ (t.branches = [] ∨
      ∃ p ∈ t.branches, Glob.isMatch p (Event.refName ⟨.pullRequest, ref⟩) = true) := by
  simp only [accepts, Bool.and_eq_true, beq_iff_eq, acceptsBranch_iff]

theorem accepts_push (h : e.kind ≠ .pullRequest) :
    t.accepts e = true ↔ t.kind = .push ∧ t.acceptsPush e = true := by
  obtain ⟨kind, ref⟩ := e
  cases kind with
  | pullRequest => exact absurd rfl h
  | push => simp only [accepts, Bool.and_eq_true, beq_iff_eq]
  | tagPush => simp only [accepts, Bool.and_eq_true, beq_iff_eq]

theorem accepts_tag {pushed : EventKind} (h : pushed = .push ∨ pushed = .tagPush) (name : String) :
    t.accepts ⟨pushed, "refs/tags/" ++ name⟩ = true ↔ t.kind = .push ∧
      ((t.branches = [] ∧ t.tags = []) ∨ ∃ p ∈ t.tags, Glob.isMatch p name = true) := by
  have hpush : pushed ≠ .pullRequest := by
    rcases h with rfl | rfl
    · simp
    · simp
  have htag : Event.tag? ⟨pushed, "refs/tags/" ++ name⟩ = some name :=
    Event.tag?_eq_some_iff.mpr rfl
  rw [accepts_push hpush]
  simp only [acceptsPush, htag]
  rw [Bool.or_eq_true, unfiltered_iff, Glob.anyMatch_iff]

theorem accepts_untagged {ref : String} (h : ∀ name, ref ≠ "refs/tags/" ++ name) :
    t.accepts ⟨.tagPush, ref⟩ = true ↔ t.kind = .push ∧ t.branches = [] ∧ t.tags = [] := by
  have htag : Event.tag? ⟨.tagPush, ref⟩ = none := Event.tag?_eq_none_iff.mpr h
  rw [accepts_push (by simp)]
  simp only [acceptsPush, htag]
  rw [unfiltered_iff]

/-- Without branch patterns the trigger must be without tag patterns as well. -/
theorem accepts_branch {ref : String} (h : ∀ name, ref ≠ "refs/tags/" ++ name) :
    t.accepts ⟨.push, ref⟩ = true ↔ t.kind = .push ∧ ((t.branches = [] ∧ t.tags = []) ∨
      ∃ p ∈ t.branches, Glob.isMatch p (Event.refName ⟨.push, ref⟩) = true) := by
  have htag : Event.tag? ⟨.push, ref⟩ = none := Event.tag?_eq_none_iff.mpr h
  rw [accepts_push (by simp)]
  simp only [acceptsPush, htag]
  rw [Bool.and_eq_true, acceptsBranch_iff]
  cases hbranches : t.branches with
  | nil => simp
  | cons p ps => simp

theorem accepts_iff : t.accepts e = true ↔ t.Takes e := by
  obtain ⟨kind, ref⟩ := e
  constructor
  · intro h
    by_cases hpull : kind = .pullRequest
    · subst hpull
      obtain ⟨hkind, hfilter⟩ := (accepts_pullRequest ref).mp h
      exact .pullRequest hkind hfilter
    · have hpush : kind = .push ∨ kind = .tagPush := by
        cases kind with
        | pullRequest => exact absurd rfl hpull
        | push => exact .inl rfl
        | tagPush => exact .inr rfl
      by_cases href : ∃ name, ref = "refs/tags/" ++ name
      · obtain ⟨name, rfl⟩ := href
        obtain ⟨hkind, hfilter⟩ := (accepts_tag hpush name).mp h
        exact .tag hpush hkind hfilter
      · have hnone := not_exists.mp href
        rcases hpush with rfl | rfl
        · obtain ⟨hkind, hfilter⟩ := (accepts_branch hnone).mp h
          exact .branch hnone hkind hfilter
        · obtain ⟨hkind, hfilter⟩ := (accepts_untagged hnone).mp h
          exact .untagged hnone hkind hfilter
  · intro h
    cases h with
    | pullRequest hkind hfilter => exact (accepts_pullRequest _).mpr ⟨hkind, hfilter⟩
    | tag hpush hkind hfilter => exact (accepts_tag hpush _).mpr ⟨hkind, hfilter⟩
    | untagged href hkind hfilter => exact (accepts_untagged href).mpr ⟨hkind, hfilter⟩
    | branch href hkind hfilter => exact (accepts_branch href).mpr ⟨hkind, hfilter⟩

theorem anyAccepts_iff :
    anyAccepts triggers e = true ↔ triggers = [] ∨ ∃ t ∈ triggers, t.Takes e := by
  rw [anyAccepts, Bool.or_eq_true, List.isEmpty_iff, List.any_eq_true]
  simp only [accepts_iff]

/-- How a tag is pushed is not told apart, by any row. -/
theorem takes_tagPush_iff {name : String} :
    t.Takes ⟨.tagPush, "refs/tags/" ++ name⟩ ↔ t.Takes ⟨.push, "refs/tags/" ++ name⟩ := by
  rw [← accepts_iff, ← accepts_iff, accepts_tag (.inl rfl), accepts_tag (.inr rfl)]

theorem anyAccepts_of_subset (hne : triggers ≠ []) (hsub : triggers ⊆ more)
    (h : anyAccepts triggers e = true) : anyAccepts more e = true := by
  rcases anyAccepts_iff.mp h with hnil | ⟨t, ht, htakes⟩
  · exact absurd hnil hne
  · exact anyAccepts_iff.mpr (.inr ⟨t, hsub ht, htakes⟩)

/-- An event starts a run just if there are no triggers or one of them takes it, by the table. A tag
is accepted or not however it is pushed, the triggers may be in any order, and an event that some
trigger takes is accepted beside any further ones. -/
theorem anyAccepts_table (triggers : List Trigger) (e : Event) :
    (anyAccepts triggers e = true ↔ triggers = [] ∨ ∃ t ∈ triggers, t.Takes e) ∧
    (∀ name, anyAccepts triggers ⟨.tagPush, "refs/tags/" ++ name⟩ =
      anyAccepts triggers ⟨.push, "refs/tags/" ++ name⟩) ∧
    (∀ other, other.Perm triggers → anyAccepts other e = anyAccepts triggers e) ∧
    (triggers ≠ [] → ∀ more, triggers ⊆ more → anyAccepts triggers e = true →
      anyAccepts more e = true) := by
  refine ⟨anyAccepts_iff, fun name => ?_, fun other hperm => ?_,
    fun hne more hsub => anyAccepts_of_subset hne hsub⟩
  · rw [Bool.eq_iff_iff, anyAccepts_iff, anyAccepts_iff]
    simp only [takes_tagPush_iff]
  · rw [Bool.eq_iff_iff, anyAccepts_iff, anyAccepts_iff]
    have hnil : other = [] ↔ triggers = [] := by
      constructor
      · rintro rfl
        exact hperm.nil_eq.symm
      · rintro rfl
        exact hperm.eq_nil
    simp only [hnil, hperm.mem_iff]

/-- Two branches and the branches right below one are built, and tags with a version. -/
def releaseTriggers : List Trigger :=
  [⟨.push, ["main", "release/*"], []⟩, ⟨.push, [], ["v*"]⟩]

/-- A version is taken by the second trigger, however it is pushed and wherever the trigger stands;
a branch that is pushed as a tag is taken by neither. -/
theorem anyAccepts_table_releases :
    releaseTriggers ≠ [] ∧ releaseTriggers.reverse.Perm releaseTriggers ∧
      releaseTriggers ⊆ ⟨.pullRequest, [], []⟩ :: releaseTriggers ∧
      anyAccepts releaseTriggers.reverse ⟨.push, "refs/tags/" ++ "v1"⟩ = true ∧
      anyAccepts releaseTriggers ⟨.tagPush, "refs/tags/" ++ "v1"⟩ = true ∧
      anyAccepts (⟨.pullRequest, [], []⟩ :: releaseTriggers) ⟨.push, "refs/tags/" ++ "v1"⟩ = true ∧
      anyAccepts releaseTriggers ⟨.tagPush, "refs/heads/" ++ "main"⟩ = false := by
  have hne : releaseTriggers ≠ [] := by simp [releaseTriggers]
  have hperm := releaseTriggers.reverse_perm
  have hsub : releaseTriggers ⊆ ⟨.pullRequest, [], []⟩ :: releaseTriggers :=
    List.subset_cons_self _ _
  obtain ⟨htable, htag, horder, hmore⟩ :=
    anyAccepts_table releaseTriggers ⟨.push, "refs/tags/" ++ "v1"⟩
  have htakes : Takes ⟨.push, [], ["v*"]⟩ ⟨.push, "refs/tags/" ++ "v1"⟩ :=
    .tag (.inl rfl) rfl (.inr ⟨"v*", by simp, by decide⟩)
  have haccepts := htable.mpr (.inr ⟨_, by simp [releaseTriggers], htakes⟩)
  refine ⟨hne, hperm, hsub, (horder _ hperm).trans haccepts, (htag "v1").trans haccepts,
    hmore hne _ hsub haccepts, ?_⟩
  refine Bool.eq_false_iff.mpr fun h => ?_
  rcases (anyAccepts_table releaseTriggers ⟨.tagPush, "refs/heads/" ++ "main"⟩).1.mp h with
    hnil | ⟨t, ht, htakes⟩
  · exact hne hnil
  · have hrow := accepts_iff.mpr htakes
    rw [accepts_untagged (Event.branch_ne_tag "main")] at hrow
    simp only [releaseTriggers, List.mem_cons, List.not_mem_nil, or_false] at ht
    rcases ht with rfl | rfl
    · simp at hrow
    · simp at hrow

end Trigger

end GatedPipeline
