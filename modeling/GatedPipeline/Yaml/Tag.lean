import GatedPipeline.Text.Bytes
import GatedPipeline.Yaml.Fault

namespace GatedPipeline.Yaml

/-- Characters of a tag; inside angle brackets the flow indicators of lists are among them. -/
def isTagChar (verbatim : Bool) (c : Char) : Bool :=
  isWord c || ";/?:@&=+$.!~*'()%".toList.contains c || (verbatim && ",[]".toList.contains c)

/-- An octet behind a percent sign: two hexadecimal digits. -/
def percentOctet? (c : Cursor) : Option Nat :=
  match c.rest with
  | '%' :: a :: b :: _ => Text.hexNumber? [a, b]
  | _ => none

/-- How many further octets follow the first one of a character, and the bits that it holds. -/
def leadingOctet? (o : Nat) : Option (Nat × Nat) :=
  if o < 0x80 then some (0, o)
  else if 0xC0 ≤ o ∧ o < 0xE0 then some (1, o % 32)
  else if 0xE0 ≤ o ∧ o < 0xF0 then some (2, o % 16)
  else if 0xF0 ≤ o ∧ o < 0xF8 then some (3, o % 8)
  else none

/-- Further octets of a character, each with its own percent sign. -/
def percentTail (activity : Activity) (start : Place) : Nat → Nat → Cursor → Scan (Nat × Cursor)
  | 0, n, c => .ok (n, c)
  | k + 1, n, c =>
    match percentOctet? c with
    | none => .fails .noOctet c.place activity start
    | some o =>
      if o / 64 = 2 then percentTail activity start k (n * 64 + o % 64) (c.skip 3)
      else .fails .trailingOctet c.place activity start

def percentChar (activity : Activity) (start : Place) (c : Cursor) : Scan (Char × Cursor) :=
  match percentOctet? c with
  | none => .fails .noOctet c.place activity start
  | some o =>
    match leadingOctet? o with
    | none => .fails .leadingOctet c.place activity start
    | some (k, n) =>
      (percentTail activity start k n (c.skip 3)).map fun (m, c) => (Char.ofNat m, c)

def readTagText (verbatim : Bool) (activity : Activity) (start : Place) :
    Nat → List Char → Cursor → Scan (List Char × Cursor)
  | 0, acc, c => .ok (acc.reverse, c)
  | fuel + 1, acc, c =>
    match c.rest with
    | [] => .ok (acc.reverse, c)
    | x :: _ =>
      if x == '%' then
        (percentChar activity start c).bind fun (y, c) =>
          readTagText verbatim activity start fuel (y :: acc) c
      else if isTagChar verbatim x then
        readTagText verbatim activity start fuel (x :: acc) (c.skip 1)
      else .ok (acc.reverse, c)

/-- The text of a tag or of a directive for tags. It must not be empty where it stands alone. -/
def tagText (verbatim alone : Bool) (activity : Activity) (start : Place) (c : Cursor) :
    Scan (List Char × Cursor) :=
  (readTagText verbatim activity start (c.rest.length + 1) [] c).bind fun (text, c) =>
    if alone && text.isEmpty then Scan.fails .noTagText c.place activity start else .ok (text, c)

/-- A handle: an exclamation mark, perhaps a word and a second mark. -/
def readHandle (activity : Activity) (start : Place) (c : Cursor) : Scan (List Char × Cursor) :=
  if c.looksAt '!' then
    let word := (c.skip 1).span isWord
    if word.2.looksAt '!' then .ok ('!' :: word.1 ++ ['!'], word.2.skip 1)
    else .ok ('!' :: word.1, word.2)
  else .fails .noTagMark c.place activity start

def readTag (inFlow : Bool) (c : Cursor) : Scan (Token × Cursor) := do
  let start := c.place
  let (token, c') ←
    if c.peekAt? 1 == some '<' then do
      let (suffix, c') ← tagText true true .tagText start (c.skip 2)
      if c'.looksAt '>' then .ok (Token.tag "" (String.ofList suffix), c'.skip 1)
      else .fails .noTagClose c'.place .tag start
    else do
      let (handle, c') ← readHandle .tag start c
      if 2 ≤ handle.length ∧ handle.getLast? = some '!' then do
        let (suffix, c') ← tagText false true .tagText start c'
        .ok (Token.tag (String.ofList handle) (String.ofList suffix), c')
      else do
        let (suffix, c') ← tagText false false .tagText start c'
        let whole := handle.drop 1 ++ suffix
        if whole.isEmpty then .ok (Token.tag "" "!", c')
        else .ok (Token.tag "!" (String.ofList whole), c')
  if c'.gapAt 0 || (inFlow && c'.looksAt ',') then .ok (token, c')
  else .fails .noBlankOrBreak c'.place .tag start

def readName (activity : Activity) (c : Cursor) : Scan (String × Cursor) :=
  let name := (c.skip 1).span isWord
  let closed := name.2.gapAt 0 || name.2.peek?.any "?:,]\x7d%@\x60".toList.contains
  if name.1.isEmpty || !closed then .fails .noNameCharacter name.2.place activity c.place
  else .ok (String.ofList name.1, name.2)

def readVersionNumber (start : Place) (c : Cursor) : Scan (Nat × Cursor) :=
  let digits := c.span Char.isDigit
  if digits.1.isEmpty then .fails .noVersionNumber c.place .versionDirective start
  else if 9 < digits.1.length then
    .fails .longVersionNumber (c.skip 9).place .versionDirective start
  else .ok (digits.1.foldl (fun n x => n * 10 + (x.toNat - 48)) 0, digits.2)

def readVersion (start : Place) (c : Cursor) : Scan (Token × Cursor) := do
  let (major, c) ← readVersionNumber start c
  if !c.looksAt '.' then .fails .noVersionPoint c.place .versionDirective start
  else do
    let (minor, c) ← readVersionNumber start (c.skip 1)
    .ok (Token.versionDirective major minor, c)

def readHandleDirective (start : Place) (c : Cursor) : Scan (Token × Cursor) := do
  let (handle, c) ← readHandle .directiveHandle start c
  if handle.getLast? != some '!' then .fails .noTagMark c.place .directiveHandleEnd start
  else if !c.atBlank then .fails .noBlank c.place .tagDirective start
  else do
    let (text, c) ← tagText true true .directiveTagText start c.skipBlanks
    if c.gapAt 0 then .ok (Token.tagDirective (String.ofList handle) (String.ofList text), c)
    else .fails .noBlankOrBreak c.place .tagDirective start

/-- A directive line, whose percent sign stands at the cursor. -/
def readDirective (c : Cursor) : Scan (Token × Cursor) := do
  let start := c.place
  let (name, c) := (c.skip 1).span isWord
  if name.isEmpty then .fails .noDirectiveName c.place .directive start
  else if !c.gapAt 0 then .fails .directiveNameCharacter c.place .directive start
  else do
    let (token, c) ←
      if name == "YAML".toList then readVersion start c.skipBlanks
      else if name == "TAG".toList then readHandleDirective start c.skipBlanks
      else .fails .unknownDirective c.place .directive start
    let c := c.skipBlanks.skipComment
    if c.atBreakOrEnd then .ok (token, c.skipBreak)
    else .fails .noCommentOrBreak c.place .directive start

end GatedPipeline.Yaml
