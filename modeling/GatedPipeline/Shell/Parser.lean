import GatedPipeline.Shell.Lexer
import GatedPipeline.Shell.Quoting

namespace GatedPipeline.Shell

namespace Parser

open Parse Lexer

def keywords : List String :=
  ["!", "\x7b", "\x7d", "case", "do", "done", "elif", "else", "esac", "fi", "for", "function", "if",
    "in", "select", "then", "time", "until", "while", "[[", "]]", "coproc"]

def plainKeywords : List String :=
  ["!", "\x7b", "\x7d", "case", "do", "done", "elif", "else", "esac", "fi", "for", "if", "in",
    "then", "until", "while"]

def closers : List String := ["then", "elif", "else", "fi", "do", "done", "esac", "\x7d", "]]"]

def declarations : List String :=
  ["alias", "declare", "typeset", "export", "readonly", "local", "eval", "let"]

def redirectors : List String :=
  ["<", ">", "<<", ">>", "<<-", "<<<", "<&", ">&", "<>", ">|", "&>", "&>>"]

section

variable (inner : Inner)

def advance : Parse Unit := advanceTo inner .assignment

/-- Goes on where words do not assign. -/
def advancePlain : Parse Unit := advanceTo inner .plain

def isWord (w : Word) : Parse Bool := do return (← get).token == .word w

def isOperator (o : String) : Parse Bool := do return (← get).token == .operator o

/-- Goes over a keyword that has to stand here. -/
def expectWord (w : Word) : Parse Unit := do
  if ← isWord w then advance inner else unexpected (some w)

def expectOperator (o : String) : Parse Unit := do
  if ← isOperator o then advance inner else unexpected (some o)

/-- The current token must not stand here, where a plain shell takes no word for a keyword. -/
def unexpectedWord (o : String) : Parse α := do
  let c ← get
  match c.token with
  | .word _ =>
    if c.dialect.isStrict then
      throw ⟨.unexpected (.word "") (some o), c.tokenLine, c.tokenLeft, false⟩
    else unexpected (some o)
  | _ => unexpected (some o)

def skipNewlinesN : Nat → Parse Unit
  | 0 => return ()
  | n + 1 => do
    if (← get).token == .newline then
      advance inner
      skipNewlinesN n

def skipNewlines : Parse Unit := do skipNewlinesN inner ((← get).rest.length + 1)

/-- The commands after the current token, of which there has to be one. -/
def body : Parse Command := do
  match ← inner with
  | some c => return c
  | none =>
    /- A plain shell misses the keyword rather than the command at the end of a text. -/
    let c ← get
    if c.dialect.isStrict && c.token == .finish then return .sequence [] else unexpected none

/-- A redirection; the operator, and perhaps a descriptor, stand here. -/
def redirection : Parse Redirection := do
  let descriptor ← do
    match (← get).token with
    | .descriptor d =>
      advancePlain inner
      pure d
    | _ => pure .usual
  match (← get).token with
  | .operator o =>
    advancePlain inner
    let c ← get
    match c.token with
    | .word w =>
      let finish (kind : RedirectionKind) : Parse Redirection := return ⟨descriptor, kind, w⟩
      match o with
      | "<" => finish .input
      | ">" => finish .output
      | ">>" => finish .append
      | ">|" => finish .clobber
      | "<>" => finish .inputOutput
      | "<&" => finish .copyInput
      | ">&" => finish .copyOutput
      | "&>" => finish .outputAndError
      | "&>>" => finish .appendAndError
      | "<<<" => finish .text
      | _ =>
        let d := Document.mk (Quoting.removed w) (!Quoting.isQuoted w) (o == "<<-") ""
        let number := c.documentCount
        set { c with
          pending := c.pending ++ [d], documentCount := number + 1 }
        finish (.document number)
    | _ => unexpected none
  | _ => unexpected none

def isRedirection : Token → Bool
  | .descriptor _ => true
  | .operator o => redirectors.contains o
  | _ => false

def redirectionsN : Nat → List Redirection → Parse (List Redirection)
  | 0, acc => return acc
  | n + 1, acc => do
    if isRedirection (← get).token then
      let r ← redirection inner
      advance inner
      redirectionsN n (acc ++ [r])
    else return acc

/-- A compound command from the current token on, with redirections after it. -/
def redirected (compound : Parse Command) : Parse Command := do
  let line := (← get).tokenLine
  let c ← compound
  let rs ← redirectionsN inner ((← get).rest.length + 1) []
  return if rs.isEmpty then c else .redirected line c rs

/-- The words of a simple command from the current token on. The line of the command is the one on
which an assignment or a redirection at its beginning ends, unless it is known. -/
def words : Nat → Option Nat → List Word → List Word → List Redirection → Parse Command
  | 0, line, assignments, ws, rs => return .simple (line.getD 0) assignments ws rs
  | n + 1, line, assignments, ws, rs => do
    let c ← get
    let t := c.token
    let declares := ws.head?.any declarations.contains
    let lineNow : Option Nat := some (line.getD c.tokenLine)
    match t with
    | .word w =>
      if ws.isEmpty && (Assignment.inDialect? c.dialect.isStrict w).isSome then
        advance inner
        words n lineNow (assignments ++ [w]) ws rs
      else
        if declares || (ws.isEmpty && declarations.contains w) then advance inner
        else advancePlain inner
        words n lineNow assignments (ws ++ [w]) rs
    | _ =>
      if isRedirection t then
        let r ← redirection inner
        let lineNow : Option Nat := some (line.getD (← get).tokenLine)
        if ws.isEmpty || declares then advance inner else advancePlain inner
        words n lineNow assignments ws (rs ++ [r])
      else return .simple (line.getD 0) assignments ws rs

def definition (line : Nat) (name : String) (compound : Parse Command) : Parse Command := do
  skipNewlines inner
  return .function line name (← compound)

/-- A simple command, or the definition of a function if parentheses follow a first word. What
follows a first word has been read before the line of the command is noted. -/
def simpleOrDefinition (compound : Parse Command) : Parse Command := do
  let c ← get
  let line := if c.dialect.isStrict then some c.line else none
  let fuel := c.rest.length + 1
  match c.token with
  | .word w =>
    if (Assignment.inDialect? c.dialect.isStrict w).isSome then words inner fuel line [] [] []
    else
      if declarations.contains w then advance inner else advancePlain inner
      if ← isOperator "(" then
        advance inner
        if ← isOperator ")" then advance inner else unexpectedWord ")"
        if c.dialect.isStrict && !isName w.toList then failAt .badFunctionName (← get).line
        definition inner c.line w compound
      else words inner fuel (some (line.getD (← get).tokenLine)) [] [w] []
  | _ => words inner fuel line [] [] []

/-- Words up to the end of a line or to a semicolon. -/
def items : Nat → List Word → Parse (List Word)
  | 0, acc => return acc
  | n + 1, acc => do
    match (← get).token with
    | .word w =>
      advancePlain inner
      items n (acc ++ [w])
    | _ => return acc

/-- What is repeated: commands between `do` and `done`, or in braces where that is allowed. -/
def repeated (allowsBraces : Bool) : Parse Command := do
  if allowsBraces && (← isWord "\x7b") && !(← isStrict) then
    let b ← body inner
    expectWord inner "\x7d"
    return .group b
  else if ← isWord "do" then
    let b ← body inner
    expectWord inner "done"
    return b
  else unexpected (some "do")

/-- The three expressions of a counting loop, from its opening parentheses on. -/
def countHead : Parse (String × String × String) := do
  let c ← get
  drop 1
  let inside ← scan inner (c.rest.length + 1) [(.round, c.line)] []
  match ← peek with
  | some ')' =>
    drop 1
    let text := (inside.drop 1).reverse
    /- What is left out counts as true. -/
    let part (s : List Char) : String :=
      let s := s.dropWhile fun x => isBlank x || x == '\n'
      if s.isEmpty then "1" else String.ofList s
    match text.splitOn ';' with
    | [a, b, s] => return (part a, part b, part s)
    | _ => failAt (.badCount ("((" ++ String.ofList text ++ "))")) c.line
  | _ =>
    advance inner
    unexpected none

/-- A loop over words, or one that counts; its keyword stands here. -/
def eachLoop (isMenu : Bool) : Parse Command := do
  let line := (← get).line
  advancePlain inner
  let c ← get
  match c.token with
  | .word name =>
    if c.dialect.isStrict && !isName name.toList then failAt .badVariable c.line
    advancePlain inner
    if ← isOperator ";" then
      advance inner
      skipNewlines inner
      finish line name none
    else
      skipNewlines inner
      if ← isWord "in" then
        advancePlain inner
        let ws ← items inner ((← get).rest.length + 1) []
        let t := (← get).token
        if t == .newline || t == .operator ";" then
          advance inner
          skipNewlines inner
          finish line name (some ws)
        else unexpected none
      else finish line name none
  | t =>
    if c.dialect.isStrict then failAt .badVariable c.line
    else if t == .operator "(" && c.rest.head? == some '(' && !isMenu then
      let (a, b, s) ← countHead inner
      advance inner
      if ← isOperator ";" then advance inner
      skipNewlines inner
      return .count line a b s (← repeated inner true)
    else unexpected none
where
  finish (line : Nat) (name : String) (ws : Option (List Word)) : Parse Command := do
    let b ← repeated inner true
    return if isMenu then .menu line name ws b else .each line name ws b

/-- Patterns with bars between them, up to a closing parenthesis. -/
def patterns : Nat → List Word → Parse (List Word)
  | 0, acc => return acc
  | n + 1, acc => do
    match (← get).token with
    | .word w =>
      advancePlain inner
      if ← isOperator "|" then
        advancePlain inner
        patterns n (acc ++ [w])
      else if ← isOperator ")" then return acc ++ [w]
      else unexpectedWord ")"
    | _ => if ← isStrict then unexpectedPattern else unexpected none
where
  unexpectedPattern : Parse (List Word) := do
    let t := (← get).token
    if t != .finish then advancePlain inner
    unexpectedWord ")"

/-- Branches up to the keyword that ends them. -/
def branches : Nat → List (List Word × Option Command × BranchEnd) →
    Parse (List (List Word × Option Command × BranchEnd))
  | 0, acc => return acc
  | n + 1, acc => do
    skipNewlines inner
    if ← isWord "esac" then return acc
    else
      if ← isOperator "(" then advancePlain inner
      let ps ← patterns inner n []
      let b ← inner
      let ended (e : BranchEnd) : Parse (List (List Word × Option Command × BranchEnd)) := do
        advancePlain inner
        branches n (acc ++ [(ps, b, e)])
      match (← get).token with
      | .operator ";;" => ended .done
      | .operator ";&" => ended .fall
      | .operator ";;&" => ended .resume
      | _ => if ← isWord "esac" then return acc ++ [(ps, b, .done)] else unexpected (some ";;")

def choice : Parse Command := do
  let line := (← get).line
  advancePlain inner
  match (← get).token with
  | .word w =>
    let c ← get
    let line := if c.dialect.isStrict then line else c.tokenLine
    advancePlain inner
    skipNewlines inner
    if ← isWord "in" then
      advancePlain inner
      let bs ← branches inner ((← get).rest.length + 1) []
      advance inner
      return .choice line w bs
    else unexpected (some "in")
  | _ => unexpected (some "word")

def conditional : Nat → Parse Command
  | 0 => unexpected none
  | n + 1 => do
    let test ← body inner
    if !(← isWord "then") then unexpected (some "then")
    let yes ← body inner
    if ← isWord "elif" then return .conditional test yes (some (← conditional n))
    else if ← isWord "else" then
      let no ← body inner
      expectWord inner "fi"
      return .conditional test yes (some no)
    else
      expectWord inner "fi"
      return .conditional test yes none

/-- An expression between double parentheses, or nested subshells where none is meant. -/
def parenthesized : Parse Command := do
  let c ← get
  if c.rest.head? == some '(' && !c.dialect.isStrict then
    drop 1
    let inside ← scan inner (c.rest.length + 1) [(.round, c.line)] []
    match ← peek with
    | some ')' =>
      drop 1
      let line := (← get).line
      advance inner
      return .arithmetic line (String.ofList (inside.drop 1).reverse)
    | _ =>
      set c
      subshell c.line
  else subshell c.line
where
  subshell (line : Nat) : Parse Command := do
    let b ← body inner
    let c ← get
    expectOperator inner ")"
    return .subshell (if c.dialect.isStrict then line else c.tokenLine) b

end

section

variable (inner : Inner)

def unaryTests : List String :=
  (("abcdefghknoprstuvwxzGLNORS".toList.map fun c => String.ofList ['-', c]))

def binaryTests : List String :=
  ["=", "==", "!=", "-eq", "-ne", "-lt", "-le", "-gt", "-ge", "-nt", "-ot", "-ef"]

def badTest (message : Option String) : Parse α := do
  let c ← get
  throw ⟨.badTest message, c.tokenLine, c.tokenLeft, false⟩

/-- How a message names the current token where a word would be fitting. -/
def oddToken : Parse (Option String) := do
  match (← get).token with
  | .word "]]" => return some "]]"
  | .word _ => return none
  | t => return some t.shown

def told (before after bare : String) : Parse α := do
  match ← oddToken with
  | some t => badTest (some (before ++ "\x60" ++ t ++ "'" ++ after))
  | none => badTest (some bare)

def testTerm (or : Parse Test) : Nat → Parse Test
  | 0 => badTest none
  | n + 1 => do
    skipNewlines inner
    match (← get).token with
    | .word "]]" => badTest none
    | .operator "(" =>
      advancePlain inner
      let t ← or
      if ← isOperator ")" then
        advancePlain inner
        skipNewlines inner
        return .enclosed t
      else told "unexpected token " ", expected \x60)'" "expected \x60)'"
    | .word "!" =>
      advancePlain inner
      return .not (← testTerm or n)
    | .word w =>
      advancePlain inner
      if unaryTests.contains w then
        match (← get).token with
        | .word a =>
          if a = "]]" then noOperand "unary" else
          advancePlain inner
          skipNewlines inner
          return .unary w a
        | _ => noOperand "unary"
      else
        match (← get).token with
        | .word "=~" =>
          advanceTo inner .expression
          operand w "=~"
        | .word "]]" => return .unary "-n" w
        | .word o =>
          if binaryTests.contains o then
            if o = "=" || o = "==" || o = "!=" then advanceTo inner .pattern
            else advancePlain inner
            operand w o
          else badTest (some "conditional binary operator expected")
        | .operator "<" =>
          advancePlain inner
          operand w "<"
        | .operator ">" =>
          advancePlain inner
          operand w ">"
        | .operator o =>
          if o = "&&" || o = "||" || o = ")" then return .unary "-n" w
          else noOperator
        | _ => noOperator
    | .operator o =>
      badTest (some ("unexpected token \x60" ++ o ++ "' in conditional command"))
    | t => badTest (some ("unexpected token \x60" ++ t.shown ++ "' in conditional command"))
where
  noOperator : Parse Test :=
    told "unexpected token " ", conditional binary operator expected"
      "conditional binary operator expected"
  noOperand (arity : String) : Parse Test :=
    told "unexpected argument " (" to conditional " ++ arity ++ " operator")
      ("unexpected argument to conditional " ++ arity ++ " operator")
  operand (left : Word) (o : String) : Parse Test := do
    match (← get).token with
    | .word "]]" => noOperand "binary"
    | .word right =>
      advancePlain inner
      skipNewlines inner
      return .binary left o right
    | _ => noOperand "binary"

def testAnd (or : Parse Test) : Nat → Parse Test
  | 0 => badTest none
  | n + 1 => do
    let a ← testTerm inner or (n + 1)
    if ← isOperator "&&" then
      advancePlain inner
      return .and a (← testAnd or n)
    else return a

/-- A test in which the connectives of lower rank have been read to a given depth. -/
def testOr : Nat → Parse Test
  | 0 => badTest none
  | n + 1 => do
    let a ← testAnd inner (testOr n) (n + 1)
    if ← isOperator "||" then
      advancePlain inner
      return .or a (← testOr n)
    else return a

def bracketed : Parse Command := do
  let line := (← get).line
  advancePlain inner
  let t ← testOr inner ((← get).rest.length + 2)
  if ← isWord "]]" then
    advance inner
    return .test line t
  else
    match ← oddToken with
    | some t =>
      if t = "newline" then badTest (some "syntax error in conditional expression")
      else
        badTest (some ("syntax error in conditional expression: unexpected token \x60" ++ t ++ "'"))
    | none => badTest (some "syntax error in conditional expression")

end

section

variable (inner : Inner)

/-- A compound command, from its first token on; none if none begins here. -/
def compound? : Parse (Option Command) := do
  let strict ← isStrict
  let whole (compound : Parse Command) : Parse (Option Command) :=
    some <$> redirected inner compound
  match (← get).token with
  | .operator "(" => whole (parenthesized inner)
  | .word "\x7b" => whole group
  | .word "if" => whole (do conditional inner ((← get).rest.length + 1))
  | .word "while" => whole (loop false)
  | .word "until" => whole (loop true)
  | .word "for" => whole (eachLoop inner false)
  | .word "case" => whole (choice inner)
  | .word "select" => if strict then return none else whole (eachLoop inner true)
  | .word "[[" => if strict then return none else whole (bracketed inner)
  | _ => return none
where
  group : Parse Command := do
    let b ← body inner
    expectWord inner "\x7d"
    return .group b
  loop (isUntil : Bool) : Parse Command := do
    let test ← body inner
    let b ← repeated inner false
    return .loop isUntil test b

def functionBody : Parse Command := do
  match ← compound? inner with
  | some c => return c
  | none =>
    let c ← get
    if c.dialect.isStrict then
      match c.token with
      | .word w =>
        if plainKeywords.contains w then unexpected none
        else words inner (c.rest.length + 1) (some c.line) [] [] []
      | _ => unexpected none
    else unexpected none

/-- Puts what an alias stands for in its place, as often as there is one. -/
def replaceAliases : Nat → Parse Unit
  | 0 => return ()
  | n + 1 => do
    let c ← get
    match c.token with
    | .word w =>
      let active := c.replaced.filter fun r => c.rest.length < r.2
      match c.dialect.aliases.get? w with
      | some text =>
        if active.any (·.1 == w) then return ()
        else
          set { c with
            rest := text.toList ++ ' ' :: c.rest
            replaced := (w, text.length + 2 + c.rest.length) :: active }
          advance inner
          replaceAliases n
      | none => return ()
    | _ => return ()

/-- A command that runs beside the shell, behind the word for that. A name can only stand in front
of a compound command. -/
def coprocess (line : Nat) : Parse Command := do
  advance inner
  match ← compound? inner with
  | some body => return .coprocess line "COPROC" body
  | none =>
    let c ← get
    let simple : Parse Command := do
      set c
      return .coprocess line "COPROC" (← words inner (c.rest.length + 1) (some c.line) [] [] [])
    match c.token with
    | .word name =>
      if closers.contains name then unexpected none
      else
        advance inner
        match ← compound? inner with
        | some body => return .coprocess line name body
        | none => simple
    | t => if isRedirection t then simple else unexpected none

def command : Parse Command := do
  replaceAliases inner 100
  match ← compound? inner with
  | some c => return c
  | none =>
    let c ← get
    match c.token with
    | .word "function" =>
      if c.dialect.isStrict then simpleOrDefinition inner (functionBody inner)
      else
        advancePlain inner
        match (← get).token with
        | .word name =>
          advance inner
          if ← isOperator "(" then
            advance inner
            expectOperator inner ")"
          definition inner c.line name (functionBody inner)
        | _ => unexpected none
    | .word "coproc" =>
      if c.dialect.isStrict then simpleOrDefinition inner (functionBody inner)
      else coprocess inner c.line
    | .word w =>
      if closers.contains w && (!c.dialect.isStrict || w != "]]") then unexpected none
      else simpleOrDefinition inner (functionBody inner)
    | t =>
      if isRedirection t then simpleOrDefinition inner (functionBody inner) else unexpected none

/-- A command whose messages go where its output goes. -/
def withMessages (line : Nat) (c : Command) : Command :=
  let r : Redirection := ⟨.number 2, .copyOutput, "1"⟩
  match c with
  | .simple line as ws rs => .simple line as ws (rs ++ [r])
  | .redirected line c rs => .redirected line c (rs ++ [r])
  | c => .redirected line c [r]

def stages : Nat → List Command → Command → Parse Command
  | 0, _, c => return c
  | n + 1, acc, c => do
    let more (c : Command) : Parse Command := do
      advance inner
      skipNewlines inner
      stages n (acc ++ [c]) (← command inner)
    if ← isOperator "|" then more c
    else if ← isOperator "|&" then more (withMessages (← get).line c)
    else return if acc.isEmpty then c else .pipeline (acc ++ [c])

def pipeline : Nat → Parse Command
  | 0 => unexpected none
  | n + 1 => do
    let c ← get
    let endsHere (t : Token) : Bool :=
      t == .newline || t == .finish || t == .operator ";" || t == .operator "&" ||
        t == .operator ")" || t == .operator "&&" || t == .operator "||"
    match c.token with
    | .word "!" =>
      advance inner
      if c.dialect.isStrict then
        if ← isWord "!" then unexpected none
        return .negated (← stages inner (n + 1) [] (← command inner))
      else if endsHere (← get).token then return .negated (.simple c.line [] [] [])
      else return .negated (← pipeline n)
    | .word "time" =>
      if c.dialect.isStrict then stages inner (n + 1) [] (← command inner)
      else
        advance inner
        let isBrief ← isWord "-p"
        if isBrief then advance inner
        if ← isWord "--" then advance inner
        if endsHere (← get).token then return .timed isBrief (.simple c.line [] [] [])
        else return .timed isBrief (← pipeline n)
    | _ => stages inner (n + 1) [] (← command inner)

/-- Pipelines that depend on one another, of which the first is given. -/
def connected : Nat → Command → Parse Command
  | 0, c => return c
  | n + 1, c => do
    let next : Parse Command := do
      advance inner
      skipNewlines inner
      pipeline inner ((← get).rest.length + 1)
    if ← isOperator "&&" then connected n (.both c (← next))
    else if ← isOperator "||" then connected n (.either c (← next))
    else return c

def connection : Parse Command := do
  let c ← get
  connected inner (c.rest.length + 1) (← pipeline inner (c.rest.length + 1))

def sequence : List (Command × Bool) → Command
  | [(c, _)] => c
  | cs => .sequence cs

/-- A command can begin here. What cannot be anything else is taken for the end of the list. -/
def beginsCommand : Parse Bool := do
  let c ← get
  match c.token with
  | .word w => return !closers.contains w || (c.dialect.isStrict && w == "]]")
  | .operator "(" => return true
  | t => return isRedirection t

def list : Nat → List (Command × Bool) → Parse (Option Command)
  | 0, _ => unexpected none
  | n + 1, acc => do
    skipNewlines inner
    if ← beginsCommand then
      let c ← connection inner
      match (← get).token with
      | .operator ";" =>
        advance inner
        list n (acc ++ [(c, false)])
      | .newline => list n (acc ++ [(c, true)])
      | .operator "&" =>
        advance inner
        list n (acc ++ [(.background c, false)])
      | _ => return some (sequence (acc ++ [(c, false)]))
    else
      /- A plain shell minds at once what can neither go on nor end the list. -/
      let c ← get
      match c.token with
      | .operator o =>
        if c.dialect.isStrict && !acc.isEmpty && o != ")" && o != ";;" then unexpected none
      | _ => pure ()
      return if acc.isEmpty then none else some (sequence acc)

/-- Commands up to the end of the line. -/
def line : Nat → List (Command × Bool) → Parse Command
  | 0, _ => unexpected none
  | n + 1, acc => do
    let c ← connection inner
    let more (c : Command) : Parse Command := do
      advance inner
      match (← get).token with
      | .newline => return sequence (acc ++ [(c, false)])
      | .finish => return sequence (acc ++ [(c, false)])
      | _ => line n (acc ++ [(c, false)])
    match (← get).token with
    | .operator ";" => more c
    | .operator "&" => more (.background c)
    | .newline => return sequence (acc ++ [(c, false)])
    | .finish => return sequence (acc ++ [(c, false)])
    | _ => unexpected none

end

def nested : Nat → Inner
  | 0 => unexpected none
  | n + 1 => do
    advance (nested n)
    list (nested n) ((← get).rest.length + 1) []

/-- Commands may be nested in a text as deep as this. -/
def maxDepth (c : Cursor) : Nat := c.rest.length + 1

/-- The commands on the next lines of a text; none at its end. -/
def next? : Parse (Option Command) := do
  let inner := nested (maxDepth (← get))
  advance inner
  skipNewlines inner
  if (← get).token == .finish then return none
  else return some (← line inner ((← get).rest.length + 1) [])

end Parser

end GatedPipeline.Shell
