import GatedPipeline.Text.Affix
import GatedPipeline.Text.Bytes

namespace GatedPipeline.Glob

/-- The parts of a pattern around its star, if it has exactly one. -/
def aroundStar? (pattern : List Char) : Option (List Char × List Char) :=
  match pattern.splitOn '*' with
  | [a, b] => some (a, b)
  | _ => none

/-- `*` and `**` match everything, `P/**` every text that starts with `P`, `P/*` the texts one
level below `P`, `A*B` the texts that start with `A` and end with `B` without overlap. Every other
pattern matches itself alone. -/
def matchesChars (pattern text : List Char) : Bool :=
  if pattern = ['*'] ∨ pattern = ['*', '*'] then true
  else
    match Text.stripEnd? ['/', '*', '*'] pattern with
    | some start => start.isPrefixOf text
    | none =>
      match Text.stripEnd? ['/', '*'] pattern with
      | some start =>
        match Text.stripStart? (start ++ ['/']) text with
        | some rest => !rest.contains '/'
        | none => false
      | none =>
        match aroundStar? pattern with
        | some (a, b) =>
          Text.byteSize a + Text.byteSize b ≤ Text.byteSize text && a.isPrefixOf text &&
            b.isSuffixOf text
        | none => pattern == text

def isMatch (pattern text : String) : Bool := matchesChars pattern.toList text.toList

def anyMatch (patterns : List String) (text : String) : Bool :=
  patterns.any (isMatch · text)

theorem anyMatch_iff {patterns : List String} {text : String} :
    anyMatch patterns text = true ↔ ∃ p ∈ patterns, isMatch p text = true :=
  List.any_eq_true

end GatedPipeline.Glob
