import GatedPipeline.Text.Quoted
import GatedPipeline.Yaml.Plain

namespace GatedPipeline.Yaml

inductive PathStep where
  | item (index : Nat)
  | member (name : String)
  | unnamed
deriving DecidableEq, Repr

abbrev Path := List PathStep

def Path.text : Path → String
  | [] => "."
  | .item index :: outer => Path.text outer ++ "[" ++ toString index ++ "]"
  | [.member name] => name
  | .member name :: outer => Path.text outer ++ "." ++ name
  | [.unnamed] => "?"
  | .unnamed :: outer => Path.text outer ++ ".?"

inductive Found where
  | value (r : Resolved)
  | list
  | mapping
  | tagged

/-- A floating number without an exponent and with at least one decimal. -/
def plainDecimals (x : Double) : String := x.write ⟨-400, 400⟩

def Found.text : Found → String
  | .value .nothing => "unit value"
  | .value (.truth b) => "boolean " ++ Text.ticked (toString b)
  | .value (.natural n) => "integer " ++ Text.ticked (toString n)
  | .value (.negative n) => "integer " ++ Text.ticked (toString n)
  | .value (.wide minus n) =>
    "integer " ++ Text.ticked (toString n) ++ (if minus then " as i128" else " as u128")
  | .value (.float x) => "floating point " ++ Text.ticked (plainDecimals x)
  | .value (.infinite minus) => "floating point " ++ Text.ticked (if minus then "-inf.0" else "inf.0")
  | .value .notNumber => "floating point " ++ Text.ticked "NaN.0"
  | .value (.text s) => "string " ++ Text.quoted s
  | .list => "sequence"
  | .mapping => "map"
  | .tagged => "enum"

inductive Mismatch where
  | wrongKind (found : Found) (expected : String)
  | wrongValue (found : Found) (expected : String)
  | missingField (name : String)
  | repeatedField (name : String)
  | repeatedAxis (name : String)
  | unknownChoice (name : String) (names : List String)
  | noAlternative (kind : String)
  | taggedAlternative
  | tooLarge

/-- Two names are joined by a word, more are listed. -/
def choiceText (names : List String) : String :=
  match names.map Text.ticked with
  | [] => "there are no variants"
  | [a] => "expected " ++ a
  | [a, b] => "expected " ++ a ++ " or " ++ b
  | names => "expected one of " ++ ", ".intercalate names

def Mismatch.text : Mismatch → String
  | .wrongKind found expected => "invalid type: " ++ found.text ++ ", expected " ++ expected
  | .wrongValue found expected => "invalid value: " ++ found.text ++ ", expected " ++ expected
  | .missingField name => "missing field " ++ Text.ticked name
  | .repeatedField name => "duplicate field " ++ Text.ticked name
  | .repeatedAxis name => "duplicate matrix axis " ++ Text.ticked name
  | .unknownChoice name names => "unknown variant " ++ Text.ticked name ++ ", " ++ choiceText names
  | .noAlternative kind => "data did not match any variant of untagged enum " ++ kind
  | .taggedAlternative => "untagged and internally tagged enums do not support enum input"
  | .tooLarge => "JSON number out of range"

inductive Fault where
  | broken (fault : StreamFault)
  | differs (path : Path) (mismatch : Mismatch) (place : Place)
  | tooDeep (place : Place)
  | tooManyJumps
  | severalDocuments
  | endOfDocument

def Fault.text : Fault → String
  | .broken fault => fault.text
  | .differs path mismatch place =>
    (if path.text = "." then "" else path.text ++ ": ") ++ mismatch.text ++ place.suffix
  | .tooDeep place => "recursion limit exceeded" ++ place.suffix
  | .tooManyJumps => "repetition limit exceeded"
  | .severalDocuments =>
    "deserializing from YAML containing more than one document is not supported"
  | .endOfDocument => "EOF while parsing a value"

end GatedPipeline.Yaml
