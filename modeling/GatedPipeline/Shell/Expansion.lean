import GatedPipeline.Shell.Braces
import GatedPipeline.Shell.Parameter
import GatedPipeline.Shell.Parser
import GatedPipeline.Shell.Pathname
import GatedPipeline.Shell.Prompt

namespace GatedPipeline.Shell

inductive Piece where
  | fixed (c : Char) (isQuoted : Bool)
  | loose (c : Char)
  /-- Something is quoted here, even if it is empty. -/
  | mark
  | absent
  | gap (isStar : Bool)
deriving DecidableEq, Repr

namespace Piece

structure Fields where
  done : List (List Marked)
  current : Option (List Marked)
  isAfterBlank : Bool

namespace Fields

def put (f : Fields) (m : List Marked) : Fields :=
  { f with current := some (m ++ f.current.getD []), isAfterBlank := false }

def close (f : Fields) : Fields :=
  match f.current with
  | some m => { f with done := m.reverse :: f.done, current := none }
  | none => f

/-- A blank ends a field; any other separator ends one even if there is none. -/
def separate (f : Fields) (isBlank : Bool) : Fields :=
  if isBlank then
    if f.current.isSome then { f.close with isAfterBlank := true } else f
  else if f.isAfterBlank then { f with isAfterBlank := false }
  else { f with done := (f.current.getD []).reverse :: f.done, current := none }

end Fields

def fields (k : Charset) (separators : List Char) (ps : List Piece) : List (List Marked) :=
  let byte? : Piece → Option Char
    | .fixed c _ => some c
    | .loose c => some c
    | _ => none
  let make (c : Char) : Piece → Piece
    | .fixed _ q => .fixed c q
    | _ => .loose c
  let ps := if k == .bytes then ps else Charset.join byte? make ps
  let step (f : Fields) : Piece → Fields
    | .fixed c q => f.put [(c, q)]
    | .mark => f.put []
    | .absent => f
    | .gap _ => f.close
    | .loose c =>
      if separators.contains c then f.separate (isBlank c || c == '\n') else f.put [(c, false)]
  let made := (ps.foldl step ⟨[], none, false⟩).close.done.reverse
  if k == .bytes then made
  else made.map fun m => m.flatMap fun x => (k.text [x.1]).map (·, x.2)

/-- All pieces as one text; a separator stands between texts that a star puts together. -/
def whole (separator : String) (ps : List Piece) : List Marked :=
  ps.flatMap fun
    | .fixed c q => [(c, q)]
    | .loose c => [(c, false)]
    | .mark => []
    | .absent => []
    | .gap true => separator.toList.map (·, false)
    | .gap false => [(' ', false)]

def quoted (s : String) : List Piece := s.toList.map (.fixed · true)

/-- What stands between quotes. Lists without texts make a field disappear that would be empty. -/
def between (ps : List Piece) : List Piece :=
  let others := ps.filter (· != .absent)
  if others.length < ps.length && others.all (· == .mark) then [] else .mark :: others

end Piece

/-- How a word is read: as it is, perhaps as the operand of a parameter; in double quotes; as a
document; or as a prompt. -/
inductive Quotation where
  | bare (isOperand : Bool)
  | double (isOperand : Bool)
  | document
  | prompt
deriving DecidableEq, Repr

def Quotation.isBare : Quotation → Bool
  | .bare _ => true
  | _ => false

/-- What has to be run for a word. -/
inductive Substitution where
  | output (commands : String)
  | rawOutput (commands : String)
  | source (commands : String)
  | sink (commands : String)
deriving DecidableEq, Repr

namespace Expansion

def dialect (s : State) : Dialect :=
  ⟨s.isStrict, s.hasExtra "extglob", s.charset,
    if s.isStrict || s.hasExtra "expand_aliases" then s.aliases else []⟩

/-- What a reader of tokens goes over at the beginning of a text, and the rest. -/
def extent? (d : Dialect) (s : List Char)
    (reader : Inner → Nat → Parse (List Char)) : Option (List Char × List Char) :=
  let fuel := s.length + 1
  match (reader (Parser.nested fuel) fuel).run (Cursor.start d 1 0 s) with
  | .ok _ c => some (s.take (s.length - c.rest.length), c.rest)
  | .error .. => none

def dollarExtent? (d : Dialect) (isQuoted : Bool) (s : List Char) :
    Option (List Char × List Char) :=
  extent? d s fun inner fuel => Lexer.dollar inner (Lexer.scan inner fuel) isQuoted [] []

/-- What stands up to the end of something that is open. -/
def enclosed? (d : Dialect) (e : Enclosure) (s : List Char) : Option (List Char × List Char) :=
  (extent? d s fun inner fuel => Lexer.scan inner fuel [(e, 1)] []).map fun r =>
    (r.1.dropLast, r.2)

def backquoted (isQuoted : Bool) : List Char → List Char
  | '\\' :: c :: cs =>
    if c == '$' || c == '\\' || c == '\x60' || (isQuoted && c == '"') then
      c :: backquoted isQuoted cs
    else '\\' :: c :: backquoted isQuoted cs
  | c :: cs => c :: backquoted isQuoted cs
  | [] => []

/-- The home or another well-known directory that a tilde stands for, and the rest of the word. -/
def tilde? (s : State) (cs : List Char) : Option (String × List Char) :=
  let name := cs.takeWhile fun c => c != '/' && c != ':'
  let rest := cs.drop name.length
  let found :=
    match String.ofList name with
    | "" => some ((s.value? "HOME").getD "/root")
    | "+" => if s.isStrict then none else s.value? "PWD"
    | "-" => if s.isStrict then none else s.value? "OLDPWD"
    | "root" => some "/root"
    | _ => none
  found.map (·, rest)

def emitted (s : State) (mode : Quotation) : Fetched → List Piece
  | .one v =>
    let cs := (v.getD "").toList
    if mode.isBare then cs.map .loose else .mark :: cs.map (.fixed · true)
  | .many isStar items =>
    if mode.isBare then
      (items.map fun t => t.toList.map Piece.loose).intersperse [.gap isStar] |>.flatten
    else if isStar then
      .mark :: Piece.quoted (s.separator.intercalate items)
    else if items.isEmpty then (if s.isStrict then [] else [.absent])
    else
      (items.map fun t => .mark :: Piece.quoted t).intersperse [.gap false] |>.flatten

/-- Cuts the operand of a replacement at its first slash that is not quoted. -/
def atSlash (d : Dialect) : Nat → List Char → List Char → List Char × Option (List Char)
  | 0, acc, s => (acc.reverse ++ s, none)
  | _ + 1, acc, [] => (acc.reverse, none)
  | n + 1, acc, '\\' :: c :: cs => atSlash d n (c :: '\\' :: acc) cs
  | n + 1, acc, c :: cs =>
    let skip (r : Option (List Char × List Char)) (closing : List Char) :
        List Char × Option (List Char) :=
      match r with
      | some (inside, rest) => atSlash d n (closing ++ inside.reverse ++ c :: acc) rest
      | none => atSlash d n (c :: acc) cs
    if c == '/' then (acc.reverse, some cs)
    else if c == '\'' then skip (enclosed? d .single cs) ['\'']
    else if c == '"' then skip (enclosed? d .double cs) ['"']
    else if c == '$' then skip (dollarExtent? d false cs) []
    else atSlash d n (c :: acc) cs

/-- Cuts the operand of a substring at the colon between its two expressions. -/
def atColon : Nat → List Char → List Char → List Char × Option (List Char)
  | _, acc, [] => (acc.reverse, none)
  | depth, acc, '\\' :: c :: cs => atColon depth (c :: '\\' :: acc) cs
  | depth, acc, c :: cs =>
    if c == ':' && depth == 0 then (acc.reverse, some cs)
    else if "([\x7b?".toList.contains c then atColon (depth + 1) (c :: acc) cs
    else if ")]\x7d:".toList.contains c then atColon (depth - 1) (c :: acc) cs
    else atColon depth (c :: acc) cs

/-- Changes the case of the first character, or of all, that a pattern fits. -/
def recased (k : Charset) (operator : String) (p : Option Pattern) : String → String :=
  let change (c : Char) : Char :=
    if p.all (·.isMatch (k.text [c])) then
      if operator.startsWith "^" then k.toUpper c
      else if operator.startsWith "," || k.isUpper c then k.toLower c
      else k.toUpper c
    else c
  k.onUnits fun cs =>
    if operator.length = 2 then cs.map change else (cs.take 1).map change ++ cs.drop 1

/-- A part of a text; counting from the end where numbers are negative. Nothing is taken from
beyond the text. -/
def slice (items : List α) (offset : Int) (length : Option Int) : Except Int (List α) :=
  let size : Int := items.length
  let start := if offset < 0 then size + offset else offset
  if start < 0 || start > size then .ok []
  else
    let rest := items.drop start.toNat
    match length with
    | none => .ok rest
    | some n =>
      if n < 0 then
        if size + n < start then .error n else .ok (rest.take (size + n - start).toNat)
      else .ok (rest.take n.toNat)

section

/- Runs what has to be run for a word, and gives its text. -/
variable (substitute : Substitution → Act String)

def badSubstitution (text : List Char) : Act α := do
  if (← get).isStrict then Act.abandon "Bad substitution"
  else Act.abandonFirmly (String.ofList text ++ ": bad substitution")

def missing (name reason : String) : Act α := do
  let s ← get
  Act.fault (name ++ ": " ++ reason)
    (if s.isStrict then 2 else s.givenUpStatus)
  throw .leaving

mutual

/-- The pieces of a text, in reverse, put in front of others. The whole text is known for the sake
of messages. -/
def scan (whole : List Char) : Nat → Quotation → List Piece → List Char → Act (List Piece)
  | 0, _, acc, _ => return acc
  | _ + 1, _, acc, [] => return acc
  | n + 1, mode, acc, c :: cs => do
    let s ← get
    let plain : Act (List Piece) := do
      let p :=
        match mode with
        | .bare true => Piece.loose c
        | .bare false => .fixed c false
        | _ => .fixed c true
      scan whole n mode (p :: acc) cs
    match c with
    | '\\' =>
      match cs with
      | [] => scan whole n mode (.fixed '\\' true :: acc) []
      | x :: rest =>
        if x == '\n' then scan whole n mode acc rest
        else if mode.isBare then scan whole n mode (.fixed x true :: acc) rest
        else if "$\\\x60".toList.contains x || (x == '"' && mode != .document) ||
            (x == '}' && mode == .double true) then
          scan whole n mode (.fixed x true :: acc) rest
        else scan whole n mode (.fixed x true :: .fixed '\\' true :: acc) rest
    | '\'' =>
      if mode.isBare then
        let inside := cs.takeWhile (· != '\'')
        scan whole n mode ((inside.map (Piece.fixed · true)).reverse ++ .mark :: acc)
          (cs.drop (inside.length + 1))
      else plain
    | '"' =>
      match mode with
      | .document => plain
      | .prompt => plain
      | .double _ => scan whole n mode acc cs
      | .bare _ =>
        match enclosed? (dialect s) .double cs with
        | some (inside, rest) =>
          let ps ← scan inside n (.double false) [] inside
          let ps :=
            if !s.isStrict then (Piece.between ps.reverse).reverse
            else if inside.isEmpty then [.mark]
            else ps
          scan whole n mode (ps ++ acc) rest
        | none => plain
    | '\x60' =>
      match enclosed? (dialect s) .back cs with
      | some (inside, rest) =>
        let text := backquoted (!mode.isBare && mode != .document) inside
        let t ← substitute (.rawOutput (String.ofList text))
        scan whole n mode ((emitted s mode (.one (some t))).reverse ++ acc) rest
      | none =>
        if cs.isEmpty then plain
        else
          Act.abandonFirmly ("bad substitution: no closing \"\x60\" in " ++
            String.ofList (c :: cs))
    | '$' =>
      match dollarExtent? (dialect s) (!mode.isBare) cs with
      | none => badSubstitution whole
      | some ([], rest) =>
        match rest with
        | '"' :: _ =>
          if mode.isBare && !s.isStrict then scan whole n mode acc rest else plain
        | x :: more =>
          if startsName x then
            let name := rest.takeWhile inName
            let f ← simple (String.ofList name)
            scan whole n mode ((emitted s mode f).reverse ++ acc) (rest.drop name.length)
          else if isSpecial x then
            let f ← simple (String.singleton x)
            scan whole n mode ((emitted s mode f).reverse ++ acc) more
          else plain
        | [] => plain
      | some ('(' :: '(' :: inside, rest) =>
        if inside.getLast? == some ')' && inside.dropLast.getLast? == some ')' &&
            (enclosed? (dialect s) .round inside).any fun r => r.2 == [')'] then
          let text ← arithmeticText whole n (inside.take (inside.length - 2))
          let v ← evaluateArithmetic "" text
          scan whole n mode ((emitted s mode (.one (some (toString v)))).reverse ++ acc) rest
        else
          let t ← substitute (.output (String.ofList ('(' :: inside.dropLast)))
          scan whole n mode ((emitted s mode (.one (some t))).reverse ++ acc) rest
      | some ('(' :: inside, rest) =>
        let text := String.ofList inside.dropLast
        let t ← substitute (if mode == .document then .rawOutput text else .output text)
        scan whole n mode ((emitted s mode (.one (some t))).reverse ++ acc) rest
      | some ('[' :: inside, rest) =>
        let text ← arithmeticText whole n inside.dropLast
        let v ← evaluateArithmetic "" text
        scan whole n mode ((emitted s mode (.one (some (toString v)))).reverse ++ acc) rest
      | some ('{' :: inside, rest) =>
        let ps ← braced whole n mode inside.dropLast
        scan whole n mode (ps.reverse ++ acc) rest
      | some (name, rest) =>
        let f ← simple (String.ofList name)
        scan whole n mode ((emitted s mode f).reverse ++ acc) rest
    | _ =>
      if (c == '<' || c == '>') && mode == .bare false && !s.isStrict && cs.head? == some '(' then
        match extent? (dialect s) (cs.drop 1) fun inner _ => Lexer.commands inner [] with
        | some (inside, rest) =>
          let text := String.ofList inside.dropLast
          let path ← substitute (if c == '<' then .source text else .sink text)
          scan whole n mode ((Piece.quoted path).reverse ++ .mark :: acc) rest
        | none => plain
      else plain

def simple (name : String) : Act Fetched := do
  let f ← Act.fetch name none
  checked name none f

/-- Where that is asked for, parameters must not be missing. -/
def checked (name : String) (subscript : Option String) (f : Fetched) : Act Fetched := do
  let s ← get
  match f with
  | .one none =>
    if s.hasOption "nounset" then
      let shown :=
        if s.isStrict then name
        else if name.all Char.isDigit then "$" ++ name
        else name ++ (subscript.map fun k => "[" ++ k ++ "]").getD ""
      Assigning.unbound shown
    else return f
  | _ => return f

def arithmeticText (whole : List Char) : Nat → List Char → Act String
  | 0, _ => return ""
  | n + 1, s => do
    let ps ← scan whole n (if ← Act.isStrict then .document else .double true) [] s
    return textOf (Piece.whole (← get).separator ps.reverse)

def operandText (whole : List Char) : Nat → Quotation → List Char → Act String
  | 0, _, _ => return ""
  | n + 1, mode, s => do
    let ps ← scan whole n mode [] s
    return textOf (Piece.whole (← get).separator ps.reverse)

def operandPattern (whole : List Char) : Nat → List Char → Act (List Marked)
  | 0, _ => return []
  | n + 1, s => do
    let ps ← scan whole n (.bare false) [] s
    return Piece.whole (← get).separator ps.reverse

def braced (whole : List Char) : Nat → Quotation → List Char → Act (List Piece)
  | 0, _, _ => return []
  | n + 1, mode, inside => do
    let s ← get
    match Parameter.read? s.isStrict inside with
    | none => badSubstitution whole
    | some p =>
      let subscript ← do
        match p.subscript with
        | none => pure none
        | some "@" => pure (some "@")
        | some "*" => pure (some "*")
        | some k => pure (some (← operandText whole n (.bare false) k.toList))
      match p.question with
      | .length =>
        let f ← Act.fetch p.name subscript
        let size ← do
          match ← checked p.name p.subscript f with
          | .one v => pure (s.charset.length (v.getD ""))
          | .many _ items => pure (if s.isStrict
              then (s.separator.intercalate items).length
              else items.length)
        return emitted s mode (.one (some (toString size)))
      | .names =>
        let items ← do
          if subscript.isSome then pure (((← Assigning.value? p.name).map Value.keys).getD [])
          else pure ((s.visible.map (·.1)).filter (·.startsWith p.name))
        return emitted s mode (.many (p.operator == "*") items)
      | .indirect =>
        if (s.lookup? p.name).any (·.attributes.isReference) && p.operator = "" then
          let target := ((s.lookup? p.name).bind fun v => v.value.plain?).getD ""
          return emitted s mode (.one (some target))
        else
          match ← Act.fetch p.name subscript with
          | .one (some t) =>
            match Parameter.named? false t.toList with
            | some (name, k, []) =>
              let f ← Act.fetch name k
              operated whole n mode { p with name := name, subscript := k } f
            | _ => Act.abandonFirmly (t ++ ": invalid variable name")
          | .one none =>
            if p.operator = "" then Act.abandonFirmly (p.name ++ ": invalid indirect expansion")
            else operated whole n mode p (.one none)
          | .many _ items =>
            let f ← Act.fetch (items.headD "") none
            operated whole n mode p f
      | .value =>
        let f ← Act.fetch p.name subscript
        operated whole n mode { p with subscript := subscript } f

def operated (whole : List Char) : Nat → Quotation → Parameter → Fetched → Act (List Piece)
  | 0, _, _, _ => return []
  | n + 1, mode, p, f => do
    let s ← get
    let operandMode : Quotation := if mode.isBare then .bare true else .double true
    /- The operand in place of the value. -/
    let instead : Act (List Piece) := do
      let cs := p.operand
      match (if mode.isBare then (match cs with
          | '~' :: rest => tilde? s rest
          | _ => none) else none) with
      | some (home, rest) =>
        return Piece.quoted home ++ (← scan whole n operandMode [] rest).reverse
      | none =>
        let ps ← scan whole n operandMode [] cs
        return if mode.isBare then ps.reverse else .mark :: ps.reverse.filter (· != .absent)
    let isNull := if p.operator.startsWith ":" then f.isNull else f.isMissing
    let value : Act (List Piece) := return emitted s mode f
    let nothing : Act (List Piece) := return (
      if mode.isBare then []
      else
        match f with
        | .many false [] => emitted s mode f ++ if s.isStrict then [.mark] else []
        | _ => [.mark])
    let assigned : Act (List Piece) := do
      if !isName p.name.toList then
        Act.abandonFirmly ((if s.isStrict then "" else "$") ++ p.name ++
          if s.isStrict then ": bad variable name" else ": cannot assign in this way")
      let text ← operandText whole n operandMode p.operand
      Assigning.assignElement (evaluateArithmetic "") p.name p.subscript false text
      return emitted s mode (.one (some text))
    let refused : Act (List Piece) := do
      let text ←
        if s.isStrict then operandText whole n operandMode p.operand
        else do
          /- What comes from values is cut into fields, and these are put together. -/
          let ps ← scan whole n (.bare false) [] p.operand
          pure (" ".intercalate ((Piece.fields s.charset (← get).separators ps.reverse).map textOf))
      let reason :=
        if !p.operand.isEmpty then text
        else if p.operator = "?" then "parameter not set"
        else if s.isStrict then "parameter not set or null"
        else "parameter null or not set"
      missing p.name reason
    match p.operator with
    | "" => return emitted s mode (← checked p.name p.subscript f)
    | ":-" => if isNull then instead else value
    | "-" => if isNull then instead else value
    | ":+" => if isNull then nothing else instead
    | "+" => if isNull then nothing else instead
    | ":=" => if isNull then assigned else value
    | "=" => if isNull then assigned else value
    | ":?" => if isNull then refused else value
    | "?" => if isNull then refused else value
    | ":" =>
      if (← checked p.name p.subscript f) == .one none then return emitted s mode f
      let (first, second) := atColon 0 [] p.operand
      let offset ← evaluateArithmetic "" (← arithmeticText whole n first)
      let length ← do
        match second with
        | none => pure none
        | some t => pure (some (← evaluateArithmetic "" (← arithmeticText whole n t)))
      let tooShort (m : Int) : Act (List Piece) :=
        Act.abandon (toString m ++ ": substring expression < 0")
      match f with
      | .one v =>
        let v := v.getD ""
        match slice (s.charset.units v.toList) offset length with
        | .ok cs => return emitted s mode (.one (some (String.ofList (s.charset.text cs))))
        | .error m => tooShort m
      | .many isStar items =>
        let isAll := p.name = "@" || p.name = "*"
        let all := if isAll && offset ≤ 0 then some (s.name :: items) else none
        let offset := if isAll && offset > 0 then offset - 1 else offset
        if length.any (· < 0) then tooShort (length.getD 0)
        else
          let elements := ((← Assigning.value? p.name).map Value.elements).getD []
          let isSparse := elements.mapIdx (fun i e => e.1 == i) |>.any (!·)
          if isSparse then
            let last : Int := (((elements.getLast?.map (·.1 + 1)).getD 0 : Nat) : Int)
            let start := if offset < 0 then last + offset else offset
            let rest := (elements.filter fun e => start ≤ (e.1 : Int)).map (·.2)
            return emitted s mode (.many isStar (match length with
              | some m => rest.take m.toNat
              | none => rest))
          else
            match slice (all.getD items) offset length with
            | .ok items => return emitted s mode (.many isStar items)
            | .error m => tooShort m
    | "@" =>
      let _ ← checked p.name p.subscript f
      if !(p.operand.length == 1 && p.operand.all "QEPAaKkUuL".toList.contains) then
        if f.isMissing then return emitted s mode f
        Act.fault (String.ofList whole ++ ": bad substitution") s.givenUpStatus
        throw .leaving
      else if p.operand == ['P'] then
        let shown (t : String) : Act String := promptText n t
        match f with
        | .one none => return emitted s mode f
        | .one (some t) => return emitted s mode (.one (some (← shown t)))
        | .many isStar items => return emitted s mode (.many isStar (← items.mapM shown))
      else transformed mode p f
    | o =>
      let _ ← checked p.name p.subscript f
      if o.startsWith "/" then
        let (first, second) := atSlash (dialect s) (p.operand.length + 1) [] p.operand
        let pattern := (← get).pattern (← operandPattern whole n first)
        let replacement ← operandPattern whole n (second.getD [])
        let marks := s.hasExtra "patsub_replacement"
        let replaced (found : List Char) : List Char :=
          replacement.flatMap fun m => if marks && m == ('&', false) then found else [m.1]
        return emitted s mode (f.map fun t =>
          let cs := t.toList
          String.ofList (
            match o with
            | "/#" =>
              if p.operand.isEmpty then cs
              else
                match pattern.withoutStart? true cs with
                | some rest => replaced (cs.take (cs.length - rest.length)) ++ rest
                | none => cs
            | "/%" =>
              if p.operand.isEmpty then cs
              else
                match pattern.withoutEnd? true cs with
                | some front => front ++ replaced (cs.drop front.length)
                | none => cs
            | _ => pattern.replaced (o == "//") replaced cs))
      else
        let marked ← operandPattern whole n p.operand
        let pattern := (← get).pattern marked
        return emitted s mode (f.map fun t =>
          let cs := t.toList
          match o with
          | "#" => String.ofList ((pattern.withoutStart? false cs).getD cs)
          | "##" => String.ofList ((pattern.withoutStart? true cs).getD cs)
          | "%" => String.ofList ((pattern.withoutEnd? false cs).getD cs)
          | "%%" => String.ofList ((pattern.withoutEnd? true cs).getD cs)
          | _ => recased s.charset o (if p.operand.isEmpty then none else some pattern) t)

/-- A prompt as it is shown. If it cannot be expanded, it is only decoded. -/
def promptText : Nat → String → Act String
  | 0, t => return t
  | n + 1, t => do
    let s ← get
    let decoded := Prompt.decoded s t.toList
    if !s.hasExtra "promptvars" then return String.ofList decoded
    try
      let ps ← scan decoded n .prompt [] decoded
      let s' ← get
      Act.setStatus s.status
      return textOf (Piece.whole s'.separator ps.reverse)
    catch e =>
      match e with
      | .leaving => Act.setStatus s.status; return String.ofList decoded
      | .discarding => Act.setStatus s.status; return String.ofList decoded
      | e => throw e

/-- Values in another form, as an operator with an at sign asks for it. -/
def transformed (mode : Quotation) (p : Parameter) (f : Fetched) : Act (List Piece) := do
  let s ← get
  let k := s.charset
  let v := s.lookup? p.name
  let letters := (v.map Variable.letters).getD ""
  let entries : List (String × String) :=
    match v.map Variable.value with
    | some (Value.list es) => es.map fun e => (toString e.1, e.2)
    | some (Value.table es) => Value.listed es
    | _ => []
  let pairs (quotes : Bool) : List String :=
    entries.flatMap fun e => [e.1, if quotes then Quoting.declared k e.2 else e.2]
  match p.operand with
  | ['Q'] => return emitted s mode (f.map (Quoting.reusable k))
  | ['E'] => return emitted s mode (f.map fun t => String.ofList (Quoting.ansiText k t.toList))
  | ['U'] => return emitted s mode (f.map (recased k "^^" none))
  | ['u'] => return emitted s mode (f.map (recased k "^" none))
  | ['L'] => return emitted s mode (f.map (recased k ",," none))
  | ['a'] => return emitted s mode (f.map fun _ => letters)
  | ['A'] =>
    match f, v with
    | .many .., some v => return emitted s mode (.one (some (v.declaration k p.name)))
    | .one (some t), _ =>
      let head := if letters.isEmpty then "" else "declare -" ++ letters ++ " "
      return emitted s mode (.one (some (head ++ p.name ++ "=" ++ Quoting.reusable k t)))
    | f, _ => return emitted s mode f
  | ['K'] =>
    match f with
    | .many isStar _ =>
      return emitted s mode (if isStar || !mode.isBare then
        .one (some (" ".intercalate (pairs true))) else .many isStar (pairs true))
    | f => return emitted s mode (f.map (Quoting.reusable k))
  | ['k'] =>
    match f with
    | .many isStar _ => return emitted s mode (.many isStar (pairs false))
    | f => return emitted s mode (f.map (Quoting.reusable k))
  | _ => return emitted s mode f

end

/-- The pieces of a word; where it assigns, tildes after an equals sign or a colon count. -/
def pieces (afterColons : Bool) (w : List Char) : Act (List Piece) := do
  let s ← get
  let fuel := 2 * w.length + 10
  let rec go : Nat → List Piece → List Char → Act (List Piece)
    | 0, acc, cs => return (← scan substitute w fuel (.bare false) acc cs)
    | n + 1, acc, cs => do
      let (acc, cs) :=
        match cs with
        | '~' :: rest =>
          match tilde? s rest with
          | some (home, rest) =>
            if afterColons || rest.head? != some ':' then
              ((Piece.quoted home).reverse ++ .mark :: acc, rest)
            else (acc, cs)
          | none => (acc, cs)
        | _ => (acc, cs)
      if afterColons then
        let front := plainFront cs
        match cs.drop front.length with
        | ':' :: '~' :: rest =>
          let acc ← scan substitute w fuel (.bare false) acc (front ++ [':'])
          go n acc ('~' :: rest)
        | _ => scan substitute w fuel (.bare false) acc cs
      else scan substitute w fuel (.bare false) acc cs
  return (← go (w.length + 1) [] w).reverse
where
  /-- What stands before a colon that is followed by a tilde, as long as nothing is quoted. -/
  plainFront : List Char → List Char
    | ':' :: '~' :: _ => []
    | c :: cs => if "'\"\\$\x60".toList.contains c then [] else c :: plainFront cs
    | [] => []

end

section

variable (substitute : Substitution → Act String)

/-- A word looks like an assignment, in which more tildes count. -/
def isAssigning (w : Word) : Bool := (Assignment.ofWord? w).isSome

/-- The fields for one word, which may be what is left of one with braces. -/
def wordFields (w : Word) (isSpread : Bool) : Act (List String) := do
  let s ← get
  let isPlain := isSpread || s.isStrict || s.hasOption "posix"
  let ps ← do
    match (if isPlain then none else Assignment.ofWord? w) with
    | some a =>
      let front := w.toList.take (w.length - a.value.length)
      let head ← pieces substitute false front
      pure (head ++ (← pieces substitute true a.value.toList))
    | none => pieces substitute false w.toList
  let fs := Piece.fields s.charset (← get).separators ps
  return (← fs.mapM Pathname.described).flatten

def fields (ws : List Word) : Act (List String) := do
  let s ← get
  let spread (w : Word) : List (Word × Bool) := (Braces.expand w).map fun x => (x, x != w)
  let words := if s.hasOption "braceexpand" then ws.flatMap spread else ws.map (·, false)
  return (← words.mapM fun w => wordFields substitute w.1 w.2).flatten

def text (w : Word) : Act String := do
  let ps ← pieces substitute false w.toList
  return textOf (Piece.whole (← get).separator ps)

def value (w : Word) : Act String := do
  let ps ← pieces substitute true w.toList
  return textOf (Piece.whole (← get).separator ps)

def pattern (w : Word) : Act (List Marked) := do
  let ps ← pieces substitute false w.toList
  return Piece.whole (← get).separator ps

def document (body : String) : Act String := do
  let cs := body.toList
  let ps ← scan substitute cs (2 * cs.length + 10) .document [] cs
  return textOf (Piece.whole (← get).separator ps.reverse)

def prompt (t : String) : Act String := promptText substitute (2 * t.length + 100) t

def arithmetic (t : String) : Act String :=
  arithmeticText substitute t.toList (2 * t.length + 10) t.toList

end

end Expansion

end GatedPipeline.Shell
