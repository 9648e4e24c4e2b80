import GatedPipeline.Shell.Quoting

namespace GatedPipeline.Shell.Mention

def letter? : Char → Option Char
  | '\x07' => some 'a'
  | '\x08' => some 'b'
  | '\x0b' => some 'v'
  | '\x0c' => some 'f'
  | '\n' => some 'n'
  | '\r' => some 'r'
  | '\t' => some 't'
  | _ => none

variable (k : Charset)

/-- What follows the backslashes of a character that cannot be seen; none if it can. -/
def escapes? (c : Char) : Option String :=
  match letter? c with
  | some l => some ("\\" ++ String.singleton l)
  | none =>
    if k.isVisible c then none
    else some (String.join ((k.text [c]).map fun b => "\\" ++ octalText b.toNat))

/-- With escapes for what cannot be seen, and a backslash before some characters. -/
def escaped (others : List Char) (s : String) : String :=
  String.join ((k.units s.toList).map fun c =>
    match escapes? k c with
    | some t => t
    | none =>
      (if c == '\\' || others.contains c then "\\" else "") ++ String.ofList (k.text [c]))

def double (others : List Char) (s : String) : String :=
  "\"" ++ escaped k ('"' :: others) s ++ "\""

def argument (s : String) : String :=
  match k with
  | .bytes => "'" ++ escaped k ['\''] s ++ "'"
  | .unicode => Text.encoded "‘" ++ escaped k ['’'] s ++ Text.encoded "’"

def singleFrom : Bool → List Char → String
  | _, [] => "'"
  | isOpen, c :: cs =>
    if c == '\'' then "'\\''" ++ singleFrom false cs
    else
      match escapes? k c with
      | some t => (if isOpen then "" else "'$'") ++ t ++ singleFrom true cs
      | none =>
        (if isOpen then "''" else "") ++ String.ofList (k.text [c]) ++ singleFrom false cs

def simplePath (s : String) : String :=
  let inside := String.join ((k.units s.toList).map fun c =>
    if c == '\'' then "'\\''" else String.ofList (k.text [c]))
  let isSimple := s.contains '\'' && (k.units s.toList).all fun c =>
    !"#~\x7b\x7d?\\!\"$&()*;<=>[^\x60|".toList.contains c && k.isVisible c
  if isSimple then "\"" ++ s ++ "\"" else "'" ++ inside ++ "'"

def isHarmless (c : Char) : Bool :=
  k.isVisible c && !"#~\x7b\x7d?\\!\"$&()*;<=>[^\x60|".toList.contains c

/-- A path so that a shell reads it back, always in quotes. -/
def path (s : String) : String :=
  let cs := k.units s.toList
  let isSimple :=
    match cs with
    | [] => true
    | c :: rest => (c == '#' || c == '~' || isHarmless k c) && rest.all (isHarmless k)
  if cs.contains '\'' && isSimple then double k [] s else "'" ++ singleFrom k false cs

/-- A shell would not read the text as one word as it is, or not all of it can be shown. -/
def isDelicate (isShown : Char → Bool) (s : List Char) : Bool :=
  match s with
  | [] => true
  | ['\x7b'] => true
  | ['\x7d'] => true
  | c :: _ =>
    c == '#' || c == '~' ||
      s.any fun c => !isShown c || "'?\\ !\"$&()*;<=>[^\x60|".toList.contains c

/-- An operand in front of a colon, in quotes only where it needs them. -/
def operand (s : String) : String :=
  if isDelicate k.isVisible (k.units s.toList) || s.contains ':' then path k s else s

end GatedPipeline.Shell.Mention
