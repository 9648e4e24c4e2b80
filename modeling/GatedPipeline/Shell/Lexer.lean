import GatedPipeline.Shell.Cursor
import GatedPipeline.Shell.Quoting

namespace GatedPipeline.Shell

def isBlank (c : Char) : Bool := c == ' ' || c == '\t'

/-- Characters that end a word unless they are quoted. -/
def endsWord (c : Char) : Bool := isBlank c || "\n;&|<>()".toList.contains c

def startsName (c : Char) : Bool := c.isAlpha || c == '_'

def inName (c : Char) : Bool := c.isAlphanum || c == '_'

def isName (s : List Char) : Bool := s.head?.any startsName && s.all inName

/-- Parameters that are named by one character which is no letter. -/
def isSpecial (c : Char) : Bool := c.isDigit || "?$#@*!-".toList.contains c

/-- The name and the subscript, if any, to which a word assigns; whether it appends; and the
value. -/
structure Assignment where
  name : String
  subscript : Option String
  appends : Bool
  value : Word
deriving DecidableEq, Repr

namespace Assignment

def subscript? : Nat → List Char → Option (List Char × List Char)
  | _, [] => none
  | depth, '\\' :: c :: cs => (subscript? depth cs).map fun r => ('\\' :: c :: r.1, r.2)
  | depth, ']' :: cs =>
    match depth with
    | 0 => some ([], cs)
    | d + 1 => (subscript? d cs).map fun r => (']' :: r.1, r.2)
  | depth, c :: cs =>
    (subscript? (if c == '[' then depth + 1 else depth) cs).map fun r => (c :: r.1, r.2)

def ofWord? (w : Word) : Option Assignment :=
  let cs := w.toList
  let name := cs.takeWhile inName
  let finish (subscript : Option String) (rest : List Char) : Option Assignment :=
    match rest with
    | '=' :: value => some ⟨String.ofList name, subscript, false, String.ofList value⟩
    | '+' :: '=' :: value => some ⟨String.ofList name, subscript, true, String.ofList value⟩
    | _ => none
  if !isName name then none
  else
    match cs.drop name.length with
    | '[' :: rest =>
      match subscript? 0 rest with
      | some (inside, rest) => finish (some (String.ofList inside)) rest
      | none => none
    | rest => finish none rest

/-- A word as an assignment where a shell has none of the others in its language: a plain one sets
whole variables. -/
def inDialect? (isStrict : Bool) (w : Word) : Option Assignment :=
  (ofWord? w).filter fun a => !isStrict || (a.subscript.isNone && !a.appends)

end Assignment

inductive Enclosure where
  | single
  | ansi
  | double
  | back
  | brace (quoted : Bool) (operator : Option Bool)
  | round
  | square
deriving DecidableEq, Repr

namespace Enclosure

def closing : Enclosure → Char
  | .single => '\''
  | .ansi => '\''
  | .double => '"'
  | .back => '\x60'
  | .brace .. => '\x7d'
  | .round => ')'
  | .square => ']'

/-- Dollar signs and quotes are read inside. -/
def isQuoted : Enclosure → Bool
  | .double => true
  | .brace quoted _ => quoted
  | _ => false

def after (c : Char) : Enclosure → Enclosure
  | .brace quoted none =>
    if inName c || c == '!' || c == '@' || c == '*' || c == '[' || c == ']' then
      .brace quoted none
    else .brace quoted (some ("#%/^,".toList.contains c))
  | e => e

end Enclosure

/-- What reads a list of commands that comes after the current token. -/
abbrev Inner := Parse (Option Command)

namespace Lexer

open Parse

/-- The kind of word that is expected: one that may assign, a pattern, or a regular expression. -/
inductive WordKind where
  | plain
  | assignment
  | pattern
  | expression
deriving DecidableEq, Repr

/-- Takes a character, whatever it is, and puts it in front of others. -/
def takeOnto (acc : List Char) : Parse (List Char) := do
  match ← take with
  | some c => return c :: acc
  | none => return acc

/-- Commands up to a closing parenthesis. What they are is found out when they are evaluated, so
nothing is kept of them but their text, which is put in front of what was read before. -/
def commands (inner : Inner) (acc : List Char) : Parse (List Char) := do
  let before ← get
  set { before with pending := [], isInWord := true }
  let closed ← do
    try
      let _ ← inner
      let c ← get
      if c.token == .operator ")" then pure true
      else if c.token == .finish then pure false
      else unexpected (if c.dialect.isStrict then some ")" else none)
    catch f =>
      match f.cause with
      | .unexpected .finish _ => if ← isStrict then throw f else pure false
      | _ => throw f
  if closed then
    let after ← get
    set { after with
      pending := before.pending
      documents := before.documents
      documentCount := before.documentCount
      isInWord := before.isInWord }
    return (before.rest.take (before.rest.length - after.rest.length)).reverse ++ acc
  else if ← isStrict then unexpected (some ")")
  else unclosed ')' (← get).line

/-- What follows a dollar sign. The rest of what is open is read by `scan`. -/
def dollar (inner : Inner) (scan : List (Enclosure × Nat) → List Char → Parse (List Char))
    (isQuoted : Bool) (open' : List (Enclosure × Nat)) (acc : List Char) :
    Parse (List Char) := do
  let c ← get
  match c.rest with
  | '{' :: _ =>
    drop 1
    let length :=
      match (← get).rest with
      | '#' :: _ => 1
      | _ => 0
    drop length
    scan ((.brace isQuoted none, c.line) :: open')
      ((['#'].take length) ++ '{' :: acc)
  | '(' :: '(' :: _ =>
    drop 2
    let inside ← scan [(.round, c.line)] ('(' :: '(' :: acc)
    match ← peek with
    | some ')' =>
      drop 1
      scan open' (')' :: inside)
    | _ =>
      if c.dialect.isStrict then unclosed ')' c.line
      else
        set { c with rest := c.rest.drop 1 }
        let inside ←
          try commands inner ('(' :: acc)
          catch f => if f.cause == .unclosed ')' then unclosed ')' c.line else throw f
        scan open' inside
  | '(' :: _ =>
    drop 1
    scan open' (← commands inner ('(' :: acc))
  | '[' :: _ =>
    if c.dialect.isStrict then scan open' acc
    else
      drop 1
      scan ((.square, c.line) :: open') ('[' :: acc)
  | '\'' :: _ =>
    let inBraces : Option Bool :=
      match open'.head? with
      | some (.brace true operator, _) => some (operator == some true)
      | _ => none
    if c.dialect.isStrict || (isQuoted && inBraces.isNone) then scan open' acc
    else
      /- What the escapes stand for is put into single quotes, unless they would not count. -/
      drop 1
      let inside ← scan [(.ansi, c.line)] []
      let text := (Quoting.ansiText c.dialect.charset (inside.drop 1).reverse).takeWhile (· != '\x00')
      let word := if inBraces == some false then text
        else (Quoting.single (String.ofList text)).toList
      scan open' (word.reverse ++ acc.drop 1)
  | '"' :: _ => scan open' (if c.dialect.isStrict || isQuoted then acc else acc.drop 1)
  | x :: _ =>
    if x == '$' || x == '#' then
      drop 1
      scan open' (x :: acc)
    else scan open' acc
  | [] => scan open' acc

def scan (inner : Inner) : Nat → List (Enclosure × Nat) → List Char → Parse (List Char)
  | 0, _, _ => unexpected none
  | _ + 1, [], acc => return acc
  | n + 1, (top, line) :: below, acc => do
    let opening (e : Enclosure) (acc : List Char) : Parse (List Char) := do
      scan inner n ((e, (← get).line) :: (top, line) :: below) acc
    let same (acc : List Char) : Parse (List Char) := scan inner n ((top, line) :: below) acc
    match ← take with
    | none => unclosed top.closing line
    | some c =>
      let acc := c :: acc
      match top with
      | .single => if c == '\'' then scan inner n below acc else same acc
      | .ansi =>
        if c == '\\' then same (← takeOnto acc)
        else if c == '\'' then scan inner n below acc
        else same acc
      | .back =>
        if c == '\\' then same (← takeOnto acc)
        else if c == top.closing then scan inner n below acc
        else same acc
      | _ =>
        if c == '\\' then same (← takeOnto acc)
        else if c == top.closing then scan inner n below acc
        else
          let open' := (top.after c, line) :: below
          if c == '$' then
            dollar inner (scan inner n) top.isQuoted open' acc
          else if c == '\x60' then opening .back acc
          else if c == '"' then
            if top == .double then scan inner n below acc else opening .double acc
          else if c == '\'' then
            match top with
            | .double => same acc
            | .brace true (some true) => scan inner n ((.single, (← get).line) :: open') acc
            | .brace true _ => scan inner n open' acc
            | _ => scan inner n ((.single, (← get).line) :: open') acc
          else if c == '(' && top == .round then opening .round acc
          else if c == '[' && top == .square then opening .square acc
          else scan inner n open' acc

/-- What has been read of a word is the target of an assignment, up to its equals sign. -/
def isAssignmentHead (acc : List Char) : Bool :=
  match acc with
  | '=' :: rest =>
    (Assignment.ofWord? (String.ofList ('=' :: rest).reverse)).any fun a => a.value.isEmpty
  | _ => false

def operators : List String :=
  [";;&", "<<-", "<<<", "&>>", "&&", "||", ";;", ";&", "|&", "<<", ">>", "<&", ">&", "<>", ">|",
    "&>", ";", "&", "|", "<", ">", "(", ")"]

/-- Operators that a plain shell does not have. -/
def conveniences : List String := [";;&", "<<<", "&>>", ";&", "|&", "&>"]

def operator? (isStrict : Bool) (s : List Char) : Option String :=
  operators.find? fun o => o.toList.isPrefixOf s && !(isStrict && conveniences.contains o)

def isSubstituted : List Char → Bool
  | '<' :: '(' :: _ => true
  | '>' :: '(' :: _ => true
  | _ => false

/-- Reads the elements of an array up to the closing parenthesis; the array begins on a line.
Comments between the elements are left out. -/
def elements (scan : List (Enclosure × Nat) → List Char → Parse (List Char))
    (word : List Char → Parse (List Char)) (line : Nat) : Nat → List Char → Parse (List Char)
  | 0, _ => unexpected none
  | n + 1, acc => do
    let c ← get
    match c.rest with
    | [] => unclosed ')' line
    | ')' :: _ =>
      drop 1
      return ')' :: acc
    | '#' :: _ =>
      drop (c.rest.takeWhile (· != '\n')).length
      elements scan word line n acc
    | '\\' :: '\n' :: _ =>
      let _ ← take
      let _ ← take
      elements scan word line n acc
    | '[' :: _ =>
      drop 1
      let subscript ← scan [(.square, c.line)] ('[' :: acc)
      elements scan word line n (← word subscript)
    | x :: _ =>
      if isBlank x || x == '\n' then elements scan word line n (← takeOnto acc)
      else
        match (if isSubstituted c.rest then none else operator? false c.rest) with
        | some o =>
          drop o.length
          failAt (.unexpected (.operator o) none) c.line
        | none => elements scan word line n (← word acc)

/-- Reads a word; its characters are put in reverse in front of others. -/
def word (inner : Inner) (kind : WordKind) : Nat → List Char → Parse (List Char)
  | 0, acc => return acc
  | n + 1, acc => do
    let c ← get
    let enter (e : Enclosure) (x : Char) : Parse (List Char) := do
      drop 1
      word inner kind n (← scan inner (c.rest.length + 1) [(e, c.line)] (x :: acc))
    let strict := c.dialect.isStrict
    match c.rest with
    | [] => return acc
    | '\\' :: '\n' :: _ =>
      let _ ← take
      let _ ← take
      word inner kind n acc
    | '\\' :: _ =>
      drop 1
      word inner kind n (← takeOnto ('\\' :: acc))
    | '\'' :: _ => enter .single '\''
    | '"' :: _ => enter .double '"'
    | '\x60' :: _ => enter .back '\x60'
    | '$' :: _ =>
      drop 1
      word inner kind n
        (← dollar inner (scan inner (c.rest.length + 1)) false [] ('$' :: acc))
    | x :: y :: _ =>
      if (x == '<' || x == '>') && y == '(' && !strict && kind != .expression then
        drop 2
        word inner kind n (← commands inner ('(' :: x :: acc))
      else if x == '(' && kind == .expression then enter .round x
      else if x == '|' && kind == .expression then
        drop 1
        word inner kind n (x :: acc)
      else if x == '(' && (kind == .pattern || c.dialect.hasExtendedPatterns) &&
          acc.head?.any "?*+@!".toList.contains then enter .round x
      else if x == '(' && kind == .assignment && !strict && isAssignmentHead acc then
        drop 1
        let text ←
          try
            elements (scan inner (c.rest.length + 1)) (word inner .plain n) c.line
              (c.rest.length + 1) (x :: acc)
          catch f => throw { f with isInArray := true }
        word inner kind n text
      else if x == '[' && kind == .assignment && !strict && isName acc.reverse then
        enter .square x
      else if endsWord x then return acc
      else
        drop 1
        word inner kind n (x :: acc)
    | [x] =>
      if endsWord x then return acc
      else
        drop 1
        return x :: acc

def skipBlanks : Nat → Parse Unit
  | 0 => return ()
  | n + 1 => do
    match (← get).rest with
    | '\\' :: '\n' :: _ =>
      let _ ← take
      let _ ← take
      skipBlanks n
    | '#' :: cs => drop ((cs.takeWhile (· != '\n')).length + 1)
    | c :: _ =>
      if isBlank c then
        drop 1
        skipBlanks n
      else return ()
    | [] => return ()

/-- A line of a document and whether a line break ends it. Where the document is expanded, a
backslash joins a line to the next one. -/
def documentLine (joins : Bool) : Nat → List Char → Parse (List Char × Bool)
  | 0, acc => return (acc.reverse, false)
  | n + 1, acc => do
    match (← get).rest with
    | [] => return (acc.reverse, false)
    | '\n' :: _ =>
      let _ ← take
      return (acc.reverse, true)
    | '\\' :: '\n' :: _ =>
      if joins then
        let _ ← take
        let _ ← take
        documentLine joins n acc
      else
        drop 1
        documentLine joins n ('\\' :: acc)
    | '\\' :: c :: _ =>
      drop 2
      documentLine joins n (c :: '\\' :: acc)
    | c :: _ =>
      drop 1
      documentLine joins n (c :: acc)

/-- Notes that no delimiter of its own line ends a document that begins after a line. -/
def noteOpen (d : Document) (start line : Nat) : Parse Unit :=
  modify fun c => { c with openEnded := c.openEnded ++ [(line, start, d.delimiter)] }

/-- Reads a document up to its delimiter, or to the end of the text. In a word a parenthesis may
follow the delimiter. -/
def document (d : Document) (start : Nat) : Nat → List Char → Parse String
  | 0, acc => return String.ofList acc.reverse
  | n + 1, acc => do
    let c ← get
    let (text, isEnded) ← documentLine d.expands (c.rest.length + 1) []
    let text := if d.stripsTabs then text.dropWhile (· == '\t') else text
    let delimiter := d.delimiter.toList
    if text == delimiter && (isEnded || !text.isEmpty) then return String.ofList acc.reverse
    else if c.isInWord && !c.dialect.isStrict && (delimiter ++ [')']).isPrefixOf text then
      let front := if d.stripsTabs then c.rest.takeWhile (· == '\t') else []
      set { c with rest := c.rest.drop (front.length + delimiter.length) }
      noteOpen d start c.line
      return String.ofList acc.reverse
    else if isEnded then document d start n ('\n' :: text.reverse ++ acc)
    else
      noteOpen d start ((← get).line - 1)
      let full :=
        if text.isEmpty || c.dialect.isStrict then text.reverse ++ acc
        else '\n' :: text.reverse ++ acc
      return String.ofList full.reverse

def documents : List Document → Parse Unit
  | [] => return ()
  | d :: ds => do
    let c ← get
    let body ← document d (c.line - 1) (c.rest.length + 1) []
    modify fun c => { c with documents := { d with body := body } :: c.documents }
    documents ds

def isReference (s : List Char) : Bool :=
  let name := s.takeWhile (· != '[')
  let rest := s.drop name.length
  isName name && (rest.isEmpty || (2 < rest.length && rest.getLast? == some ']'))

def token (inner : Inner) (kind : WordKind) : Parse Token := do
  skipBlanks ((← get).rest.length + 1)
  let c ← get
  match c.rest with
  | [] => return .finish
  | '\n' :: _ =>
    let _ ← take
    modify fun c => { c with pending := [] }
    documents c.pending
    return .newline
  | x :: y :: _ =>
    let isWord := (x == '<' || x == '>') && y == '(' && !c.dialect.isStrict ||
      (kind == .expression && x == '(')
    match (if isWord then none else operator? c.dialect.isStrict c.rest) with
    | some o =>
      drop o.length
      return .operator o
    | none => wordToken
  | [x] =>
    match operator? c.dialect.isStrict [x] with
    | some o =>
      drop 1
      return .operator o
    | none => wordToken
where
  wordToken : Parse Token := do
    let c ← get
    let w := (← word inner kind (c.rest.length + 1) []).reverse
    let beforeRedirection := (← get).rest.head?.any fun x => x == '<' || x == '>'
    match w with
    | '{' :: cs =>
      let name := cs.dropLast
      if beforeRedirection && !c.dialect.isStrict && cs.getLast? == some '\x7d' && isReference name then
        return .descriptor (.named (String.ofList name))
      else return .word (String.ofList w)
    | _ =>
      if beforeRedirection && w.all Char.isDigit then
        return .descriptor (.number ((String.ofList w).toNat?.getD 0))
      else return .word (String.ofList w)

def advanceTo (inner : Inner) (kind : WordKind) : Parse Unit := do
  let before ← get
  let t ← token inner kind
  modify fun c =>
    let isLineEnd := t == .newline
    { c with
      token := t
      /- The documents that begin after a line count for its end. -/
      tokenLine :=
        if !isLineEnd || c.dialect.isStrict then c.line
        else if before.pending.isEmpty then before.line
        else c.line - 1
      tokenLeft := if isLineEnd then c.rest.length + 1 else c.rest.length }

end Lexer

end GatedPipeline.Shell
