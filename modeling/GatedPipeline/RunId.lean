import GatedPipeline.Text.Affix
import GatedPipeline.Text.Bytes

namespace GatedPipeline

structure RunId where
  bits : BitVec 128
deriving DecidableEq, Repr

namespace RunId

/-- The identity of a run that starts at some time, in milliseconds: later runs have greater ones.
Its kind is the seventh, which has the time in front and chance behind it. -/
def fresh (millis chance : Nat) : RunId :=
  ⟨BitVec.ofNat 48 millis ++ 7#4 ++ BitVec.ofNat 12 chance ++ 2#2 ++
    BitVec.ofNat 62 (chance / Nat.pow 2 12)⟩

def groups : List Nat := [8, 4, 4, 4, 12]

def hyphenated : List Nat → List Char → List Char
  | [], _ => []
  | [n], s => s.take n
  | n :: ns, s => s.take n ++ '-' :: hyphenated ns (s.drop n)

def bareText (id : RunId) : String :=
  String.ofList (hyphenated groups (Text.hexDigits id.bits.toNat 32))

def text (id : RunId) : String := "run_" ++ id.bareText

def ofDigits? (s : List Char) : Option RunId :=
  if s.length = 32 then (Text.hexNumber? s).map fun n => ⟨BitVec.ofNat 128 n⟩ else none

/-- Takes the hyphens out of a text that has them in the right places. -/
def withoutHyphens? : List Nat → List Char → Option (List Char)
  | [], _ => none
  | [n], s => if s.length = n then some s else none
  | n :: ns, s =>
    match s.drop n with
    | '-' :: rest => (withoutHyphens? ns rest).map (s.take n ++ ·)
    | _ => none

def ofHyphenated? (s : List Char) : Option RunId := (withoutHyphens? groups s).bind ofDigits?

/-- Thirty-two digits, or the groups with hyphens, which may stand in braces or behind
`urn:uuid:`. -/
def ofBareText? (s : List Char) : Option RunId :=
  if s.length = 32 then ofDigits? s
  else if s.length = 36 then ofHyphenated? s
  else if s.length = 38 then
    if s.head? = some '{' ∧ s.getLast? = some '}' then ofHyphenated? (s.drop 1).dropLast else none
  else if s.length = 45 then
    if (s.take 9).map Char.toLower = "urn:uuid:".toList then ofHyphenated? (s.drop 9) else none
  else none

/-- One `run_` in front is left out. -/
def ofText? (s : String) : Option RunId :=
  ofBareText? ((Text.stripStart? "run_".toList s.toList).getD s.toList)

end RunId

end GatedPipeline
