import GatedPipeline.Proofs.PatternForms
import GatedPipeline.Proofs.TriggerTable

namespace GatedPipeline

namespace Glob

variable {place text : String}

/-- The place itself, or something below it. -/
def AtOrBelow (place text : String) : Prop := text = place ∨ ∃ rest, text = place ++ "/" ++ rest

/-- A name beside the place that begins with all its characters and goes on. -/
def Sibling (place text : String) : Prop :=
  ∃ c rest, c ≠ '/' ∧ text.toList = place.toList ++ c :: rest

theorem prefix_of_atOrBelow (h : AtOrBelow place text) : place.toList <+: text.toList := by
  rcases h with rfl | ⟨rest, rfl⟩
  · exact List.prefix_rfl
  · rw [String.append_assoc, String.toList_append]
    exact List.prefix_append _ _

/-- A text that begins with the place ends there, or goes on with a slash or another character. -/
theorem prefix_iff :
    place.toList <+: text.toList ↔ AtOrBelow place text ∨ Sibling place text := by
  constructor
  · rintro ⟨after, hafter⟩
    cases after with
    | nil => exact .inl (.inl (String.toList_inj.mp (by simpa using hafter.symm)))
    | cons c rest =>
      by_cases hslash : c = '/'
      · subst hslash
        refine .inl (.inr ⟨String.ofList rest, String.toList_inj.mp ?_⟩)
        rw [← hafter]
        simp
      · exact .inr ⟨c, rest, hslash, hafter.symm⟩
  · rintro (h | ⟨c, rest, _, h⟩)
    · exact prefix_of_atOrBelow h
    · exact ⟨c :: rest, h.symm⟩

theorem not_sibling_of_atOrBelow (h : AtOrBelow place text) : ¬ Sibling place text := by
  rintro ⟨c, rest, hslash, htext⟩
  rcases h with rfl | ⟨below, rfl⟩
  · simp at htext
  · have hsame : '/' :: below.toList = c :: rest := by
      rw [String.append_assoc, String.toList_append] at htext
      simpa using List.append_cancel_left htext
    exact hslash (List.cons.inj hsame).1.symm

theorem isMatch_recursive :
    isMatch (place ++ "/**") text = true ↔ AtOrBelow place text ∨ Sibling place text := by
  have hform : (place ++ "/**").toList = place.toList ++ ['/', '*', '*'] := String.toList_append
  rw [isMatch, hform, matchesChars_below, prefix_iff]

theorem exists_recursive_iff {places : List String} {name : String} :
    (∃ p ∈ places.map (· ++ "/**"), isMatch p name = true) ↔
      ∃ place ∈ places, AtOrBelow place name ∨ Sibling place name := by
  constructor
  · rintro ⟨p, hp, hmatch⟩
    obtain ⟨place, hplace, rfl⟩ := List.mem_map.mp hp
    exact ⟨place, hplace, isMatch_recursive.mp hmatch⟩
  · rintro ⟨place, hplace, h⟩
    exact ⟨place ++ "/**", List.mem_map.mpr ⟨place, hplace, rfl⟩, isMatch_recursive.mpr h⟩

end Glob

namespace Trigger

open Glob (AtOrBelow Sibling isMatch_recursive exists_recursive_iff)

variable {t : Trigger} {places : List String}

theorem accepts_recursive_branch (hne : places ≠ []) (hkind : t.kind = .push)
    (h : t.branches = places.map (· ++ "/**")) (name : String) :
    t.accepts ⟨.push, "refs/heads/" ++ name⟩ = true ↔
      ∃ place ∈ places, AtOrBelow place name ∨ Sibling place name := by
  rw [accepts_branch (Event.branch_ne_tag name), Event.refName_branch, h, exists_recursive_iff]
  simp only [hkind, List.map_eq_nil_iff, hne, true_and, false_and, false_or]

theorem accepts_recursive_pullRequest (hne : places ≠ []) (hkind : t.kind = .pullRequest)
    (h : t.branches = places.map (· ++ "/**")) (name : String) :
    t.accepts ⟨.pullRequest, "refs/heads/" ++ name⟩ = true ↔
      ∃ place ∈ places, AtOrBelow place name ∨ Sibling place name := by
  rw [accepts_pullRequest, Event.refName_branch, h, exists_recursive_iff]
  simp only [hkind, List.map_eq_nil_iff, hne, true_and, false_or]

theorem accepts_recursive_tag {pushed : EventKind} (hpushed : pushed = .push ∨ pushed = .tagPush)
    (hne : places ≠ []) (hkind : t.kind = .push) (h : t.tags = places.map (· ++ "/**"))
    (name : String) :
    t.accepts ⟨pushed, "refs/tags/" ++ name⟩ = true ↔
      ∃ place ∈ places, AtOrBelow place name ∨ Sibling place name := by
  rw [accepts_tag hpushed, h, exists_recursive_iff]
  simp only [hkind, List.map_eq_nil_iff, hne, true_and, and_false, false_or]

/-- A pattern for a place and what is below it keeps to the boundary of the place exactly for the
texts that are no siblings of the place; it matches every sibling that begins with the place. So a
filter with such patterns lets these siblings through, on branches, pull requests and tags, and
nothing else that is not at one of its places or below. -/
theorem recursive_patterns_reach (place name : String) :
    (Glob.isMatch (place ++ "/**") name = true ↔ AtOrBelow place name ∨ Sibling place name) ∧
    ((Glob.isMatch (place ++ "/**") name = true → AtOrBelow place name) ↔ ¬ Sibling place name) ∧
    ∀ (t : Trigger) (places : List String), places ≠ [] →
      (t.branches = places.map (· ++ "/**") → t.kind = .push →
        (t.accepts ⟨.push, "refs/heads/" ++ name⟩ = true ↔
          ∃ place ∈ places, AtOrBelow place name ∨ Sibling place name)) ∧
      (t.branches = places.map (· ++ "/**") → t.kind = .pullRequest →
        (t.accepts ⟨.pullRequest, "refs/heads/" ++ name⟩ = true ↔
          ∃ place ∈ places, AtOrBelow place name ∨ Sibling place name)) ∧
      (t.tags = places.map (· ++ "/**") → t.kind = .push →
        ∀ pushed, pushed = .push ∨ pushed = .tagPush →
          (t.accepts ⟨pushed, "refs/tags/" ++ name⟩ = true ↔
            ∃ place ∈ places, AtOrBelow place name ∨ Sibling place name)) := by
  refine ⟨isMatch_recursive, ?_, fun t places hne => ⟨?_, ?_, ?_⟩⟩
  · rw [isMatch_recursive]
    constructor
    · intro hkept hsibling
      exact Glob.not_sibling_of_atOrBelow (hkept (.inr hsibling)) hsibling
    · rintro hno (h | h)
      · exact h
      · exact absurd h hno
  · exact fun h hkind => accepts_recursive_branch hne hkind h name
  · exact fun h hkind => accepts_recursive_pullRequest hne hkind h name
  · exact fun h hkind _ hpushed => accepts_recursive_tag hpushed hne hkind h name

/-- The hotfixes of a release pass its filter, and its candidates pass it as well. -/
theorem recursive_patterns_reach_hotfix :
    accepts ⟨.push, ["release" ++ "/**"], []⟩ ⟨.push, "refs/heads/" ++ "release/v1/hotfix"⟩ = true ∧
      accepts ⟨.push, [], ["release" ++ "/**"]⟩ ⟨.tagPush, "refs/tags/" ++ "release-1"⟩ = true ∧
      accepts ⟨.push, ["release" ++ "/**"], []⟩ ⟨.push, "refs/heads/" ++ "rel/v1"⟩ = false := by
  have hbranch := fun name => ((recursive_patterns_reach "release" name).2.2
    ⟨.push, ["release" ++ "/**"], []⟩ ["release"] (by simp)).1 rfl rfl
  have htag := ((recursive_patterns_reach "release" "release-1").2.2
    ⟨.push, [], ["release" ++ "/**"]⟩ ["release"] (by simp)).2.2 rfl rfl .tagPush (.inr rfl)
  refine ⟨(hbranch _).mpr ⟨_, List.mem_singleton_self _, .inl (.inr ⟨"v1/hotfix", by decide⟩)⟩,
    htag.mpr ⟨_, List.mem_singleton_self _, .inr ⟨'-', ['1'], by decide, by decide⟩⟩, ?_⟩
  refine Bool.eq_false_iff.mpr fun h => ?_
  obtain ⟨place, hplace, hname⟩ := (hbranch "rel/v1").mp h
  obtain rfl := List.mem_singleton.mp hplace
  exact absurd (Glob.prefix_iff.mpr hname) (by decide)

/-- A release candidate is neither the release nor below it, but the filter for what is at or below
the release lets it through. -/
theorem recursive_pattern_reaches_candidate :
    '*' ∉ "release".toList ∧ "release" ≠ "" ∧
      Glob.isMatch ("release" ++ "/**") "release-candidate" = true ∧
      "release-candidate" ≠ "release" ∧ ¬ "release/".toList <+: "release-candidate".toList ∧
      anyAccepts [⟨.push, ["release" ++ "/**"], []⟩]
        ⟨.push, "refs/heads/" ++ "release-candidate"⟩ = true ∧
      anyAccepts [⟨.push, [], ["release" ++ "/**"]⟩]
        ⟨.tagPush, "refs/tags/" ++ "release-candidate"⟩ = true := by
  decide

end Trigger

end GatedPipeline
