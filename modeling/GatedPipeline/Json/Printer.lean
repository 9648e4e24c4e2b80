import GatedPipeline.Json.Basic
import GatedPipeline.Text.Bytes

namespace GatedPipeline.Json

/-- Escapes quotes, backslashes and control characters, and nothing else. -/
def escapeChar (c : Char) : List Char :=
  if c == '"' then ['\\', '"']
  else if c == '\\' then ['\\', '\\']
  else if c == '\n' then ['\\', 'n']
  else if c == '\r' then ['\\', 'r']
  else if c == '\t' then ['\\', 't']
  else if c.toNat == 8 then ['\\', 'b']
  else if c.toNat == 12 then ['\\', 'f']
  else if c.toNat < 32 then ['\\', 'u'] ++ Text.hexDigits c.toNat 4
  else [c]

def writeString (s : String) : String :=
  String.ofList ('"' :: s.toList.flatMap escapeChar ++ ['"'])

mutual

def compact : Json → String
  | .null => "null"
  | .bool b => if b then "true" else "false"
  | .num n => n.text
  | .str s => writeString s
  | .arr items => "[" ++ compactItems items ++ "]"
  | .obj members => "\x7b" ++ compactMembers members ++ "\x7d"

def compactItems : List Json → String
  | [] => ""
  | [x] => compact x
  | x :: xs => compact x ++ "," ++ compactItems xs

def compactMembers : List (String × Json) → String
  | [] => ""
  | [(k, x)] => writeString k ++ ":" ++ compact x
  | (k, x) :: xs => writeString k ++ ":" ++ compact x ++ "," ++ compactMembers xs

end

def newline (depth : Nat) : String := String.ofList ('\n' :: List.replicate (2 * depth) ' ')

mutual

/-- The value at nesting `depth`; an empty list or object stays on one line. -/
def prettyAt (depth : Nat) : Json → String
  | .arr [] => "[]"
  | .arr items => "[" ++ prettyItems (depth + 1) items ++ newline depth ++ "]"
  | .obj [] => "\x7b\x7d"
  | .obj members => "\x7b" ++ prettyMembers (depth + 1) members ++ newline depth ++ "\x7d"
  | .null => "null"
  | .bool b => if b then "true" else "false"
  | .num n => n.text
  | .str s => writeString s

def prettyItems (depth : Nat) : List Json → String
  | [] => ""
  | [x] => newline depth ++ prettyAt depth x
  | x :: xs => newline depth ++ prettyAt depth x ++ "," ++ prettyItems depth xs

def prettyMembers (depth : Nat) : List (String × Json) → String
  | [] => ""
  | [(k, x)] => newline depth ++ writeString k ++ ": " ++ prettyAt depth x
  | (k, x) :: xs =>
    newline depth ++ writeString k ++ ": " ++ prettyAt depth x ++ "," ++ prettyMembers depth xs

end

def pretty (j : Json) : String := prettyAt 0 j

end GatedPipeline.Json
