import GatedPipeline.Text.Affix

namespace GatedPipeline

inductive EventKind where
  | push
  | pullRequest
  | tagPush
deriving DecidableEq, Repr

namespace EventKind

def text : EventKind → String
  | .push => "push"
  | .pullRequest => "pull_request"
  | .tagPush => "tag_push"

/-- A kind is written by its own text or by a shorter or dashed name. -/
def ofText? (s : String) : Option EventKind :=
  if s = "push" then some .push
  else if s = "pull_request" ∨ s = "pull-request" ∨ s = "pr" then some .pullRequest
  else if s = "tag_push" ∨ s = "tag-push" ∨ s = "tag" then some .tagPush
  else none

def unknownMessage (s : String) : String := "unknown event kind: " ++ s

theorem ofText?_text (k : EventKind) : ofText? k.text = some k := by
  cases k <;> decide

end EventKind

structure Event where
  kind : EventKind
  gitRef : String
deriving DecidableEq, Repr

namespace Event

/-- The branch name of a ref `refs/heads/<branch>`. -/
def branch? (e : Event) : Option String :=
  (Text.stripStart? "refs/heads/".toList e.gitRef.toList).map String.ofList

/-- The tag name of a ref `refs/tags/<tag>`. -/
def tag? (e : Event) : Option String :=
  (Text.stripStart? "refs/tags/".toList e.gitRef.toList).map String.ofList

/-- The branch or tag name, or the whole ref where it is neither. -/
def refName (e : Event) : String :=
  (e.branch?.or e.tag?).getD e.gitRef

variable {e : Event} {name : String}

theorem branch?_eq_some_iff : e.branch? = some name ↔ e.gitRef = "refs/heads/" ++ name :=
  Text.map_stripStart?_eq_some_iff

theorem tag?_eq_some_iff : e.tag? = some name ↔ e.gitRef = "refs/tags/" ++ name :=
  Text.map_stripStart?_eq_some_iff

theorem tag?_eq_none_iff : e.tag? = none ↔ ∀ name, e.gitRef ≠ "refs/tags/" ++ name := by
  rw [Option.eq_none_iff_forall_ne_some]
  exact forall_congr' fun _ => not_congr tag?_eq_some_iff

/-- A branch goes by its own name. -/
theorem refName_branch (kind : EventKind) (name : String) :
    refName ⟨kind, "refs/heads/" ++ name⟩ = name := by
  rw [refName, branch?_eq_some_iff.mpr rfl]
  rfl

/-- The ref of a branch is not the ref of a tag. -/
theorem branch_ne_tag (branch name : String) : "refs/heads/" ++ branch ≠ "refs/tags/" ++ name := by
  intro h
  have hsame := congrArg (fun s => s.toList[5]?) h
  simp at hsame

end Event

end GatedPipeline
