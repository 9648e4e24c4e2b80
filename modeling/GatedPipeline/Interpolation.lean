import GatedPipeline.Bindings
import GatedPipeline.Text.Blank
import GatedPipeline.Text.Affix

namespace GatedPipeline

structure Interpolation where
  env : Bindings String
  matrix : Bindings String
  gitRef : String
  event : String

namespace Interpolation

/-- The value of an expression; unknown names have the empty value. -/
def value (x : Interpolation) (expression : List Char) : List Char :=
  let found : Option String :=
    match Text.stripStart? "matrix.".toList expression with
    | some key => x.matrix.get? (String.ofList key)
    | none =>
      match Text.stripStart? "env.".toList expression with
      | some name => x.env.get? (String.ofList name)
      | none =>
        if expression = "ref".toList then some x.gitRef
        else if expression = "event".toList then some x.event
        else x.env.get? (String.ofList expression)
  (found.getD "").toList

def notClosing (c : Char) : Bool := c != '}'

/-- The text of an expression that follows its opening braces, and what comes after it: an
expression has at least one character, no closing brace inside and two of them behind. -/
def body? (s : List Char) : Option (List Char × List Char) :=
  match s.takeWhile notClosing, s.dropWhile notClosing with
  | c :: cs, '}' :: '}' :: rest => some (c :: cs, rest)
  | _, _ => none

theorem length_dropWhile_le (p : Char → Bool) (s : List Char) :
    (s.dropWhile p).length ≤ s.length :=
  (List.dropWhile_sublist p).length_le

theorem length_of_body? {s body rest : List Char} (h : body? s = some (body, rest)) :
    rest.length < s.length := by
  unfold body? at h
  split at h
  · next hd =>
    have hl := length_dropWhile_le notClosing s
    rw [hd] at hl
    simp only [Option.some.injEq, Prod.mk.injEq] at h
    obtain ⟨_, rfl⟩ := h
    simp only [List.length_cons] at hl
    omega
  · simp at h

def expression? (s : List Char) : Option (List Char × List Char) :=
  (Text.stripStart? ['$', '{', '{'] s).bind body?

theorem length_of_expression? {s body rest : List Char}
    (h : expression? s = some (body, rest)) : rest.length < s.length := by
  obtain ⟨inner, hs, hb⟩ := Option.bind_eq_some_iff.mp h
  have := length_of_body? hb
  rw [Text.stripStart?_eq_some_iff.mp hs, List.length_append]
  omega

/-- Replaces the expressions from left to right. -/
def expandChars (x : Interpolation) : List Char → List Char
  | [] => []
  | c :: cs =>
    match _h : expression? (c :: cs) with
    | none => c :: expandChars x cs
    -- A value that is put in is not looked at again.
    | some (body, rest) => x.value (Text.trimmed body) ++ expandChars x rest
termination_by s => s.length
decreasing_by
  · simp
  · exact length_of_expression? (by assumption)

def expand (x : Interpolation) (text : String) : String :=
  String.ofList (x.expandChars text.toList)

end Interpolation

end GatedPipeline
