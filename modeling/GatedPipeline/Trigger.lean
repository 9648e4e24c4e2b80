import GatedPipeline.Event
import GatedPipeline.Glob

namespace GatedPipeline

inductive TriggerKind where
  | push
  | pullRequest
deriving DecidableEq, Repr

def TriggerKind.text : TriggerKind → String
  | .push => "push"
  | .pullRequest => "pull_request"

structure Trigger where
  kind : TriggerKind
  branches : List String
  tags : List String
deriving DecidableEq, Repr

namespace Trigger

variable {t : Trigger} {name : String}

def unfiltered (t : Trigger) : Bool := t.branches.isEmpty && t.tags.isEmpty

theorem unfiltered_iff : t.unfiltered = true ↔ t.branches = [] ∧ t.tags = [] := by
  simp only [unfiltered, Bool.and_eq_true, List.isEmpty_iff]

/-- A trigger without branch patterns takes every branch. -/
def acceptsBranch (t : Trigger) (name : String) : Bool :=
  t.branches.isEmpty || Glob.anyMatch t.branches name

theorem acceptsBranch_iff : t.acceptsBranch name = true ↔
    t.branches = [] ∨ ∃ p ∈ t.branches, Glob.isMatch p name = true := by
  rw [acceptsBranch, Bool.or_eq_true, List.isEmpty_iff, Glob.anyMatch_iff]

/-- A pushed tag passes the tag patterns, any other push the branch patterns. -/
def acceptsPush (t : Trigger) (e : Event) : Bool :=
  match e.tag? with
  | some tag => t.unfiltered || Glob.anyMatch t.tags tag
  | none =>
    match e.kind with
    -- Something that is no tag, pushed as one, has no pattern that it could pass.
    | .tagPush => t.unfiltered
    -- A trigger with tag patterns alone takes no branch.
    | _ => !(t.branches.isEmpty && !t.tags.isEmpty) && t.acceptsBranch e.refName

def accepts (t : Trigger) (e : Event) : Bool :=
  match e.kind with
  | .pullRequest => t.kind == .pullRequest && t.acceptsBranch e.refName
  | _ => t.kind == .push && t.acceptsPush e

/-- Without triggers every event starts a run. -/
def anyAccepts (triggers : List Trigger) (e : Event) : Bool :=
  triggers.isEmpty || triggers.any (·.accepts e)

end Trigger

end GatedPipeline
