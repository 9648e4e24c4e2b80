import GatedPipeline.Shell.State

namespace GatedPipeline.Shell

/-- Which text it is that is no command. -/
inductive TextKind where
  | main
  | eval
  | substitution
  | laidOut
  | file
deriving DecidableEq, Repr

namespace SyntaxFault

/-- The line of a text with what is left after its end. -/
def sourceLine (text : List Char) (left : Nat) : String :=
  let front := text.take (text.length - left)
  let start := (front.reverse.takeWhile (· != '\n')).reverse
  let front :=
    if start.isEmpty then (front.dropLast.reverse.takeWhile (· != '\n')).reverse else start
  let rest :=
    if start.isEmpty then []
    else (text.drop (text.length - left)).takeWhile (· != '\n')
  String.ofList (front ++ rest)

def plainMessage (f : SyntaxFault) : String :=
  match f.cause with
  | .unexpected token expected =>
    let what :=
      match token with
      | .word _ => "word unexpected"
      | .newline => "newline unexpected"
      | .finish => "end of file unexpected"
      | .descriptor _ => "redirection unexpected"
      | .operator o =>
        if ["<", ">", "<<", ">>", "<<-", "<&", ">&", "<>", ">|"].contains o then
          "redirection unexpected"
        else "\"" ++ o ++ "\" unexpected"
    let isKeyword (t : String) : Bool :=
      ["!", "\x7b", "\x7d", "case", "do", "done", "elif", "else", "esac", "fi", "for", "if", "in",
        "then", "until", "while"].contains t
    let what :=
      match token with
      | .word w => if isKeyword w then "\"" ++ w ++ "\" unexpected" else what
      | _ => what
    what ++ (match expected with
      | some e => " (expecting " ++ (if e = "word" then e else "\"" ++ e ++ "\"") ++ ")"
      | none => "")
  | .unclosed c =>
    if c == '\x60' then "EOF in backquote substitution"
    else if c == '\x7d' then "Missing '\x7d'"
    else if c == ')' then "Missing '))'"
    else "Unterminated quoted string"
  | .badTest _ => "word unexpected"
  | .badCount _ => "Bad for loop variable"
  | .badVariable => "Bad for loop variable"
  | .badFunctionName => "Bad function name"

/-- What is said, line by line; those that show the text are left out where little is said. -/
def messages (f : SyntaxFault) (text : List Char) (isTerse : Bool) : List String :=
  let shown : List String :=
    if isTerse then [] else ["\x60" ++ sourceLine text f.left ++ "'"]
  match f.cause with
  | .unexpected .finish _ => ["syntax error: unexpected end of file"]
  | .unexpected token _ =>
    ("syntax error near unexpected token \x60" ++ token.shown ++ "'") :: shown
  | .unclosed c => ["unexpected EOF while looking for matching \x60" ++ String.singleton c ++ "'"]
  | .badTest message =>
    message.toList ++ (if isTerse && message.isSome then []
      else ("syntax error near \x60" ++ nearText text f.left ++ "'") :: shown)
  | .badCount head =>
    "syntax error: arithmetic expression required" ::
      (if isTerse then [] else ["syntax error: \x60" ++ head ++ "'"])
  | .badVariable => ["syntax error"]
  | .badFunctionName => ["syntax error"]
where
  nearText (text : List Char) (left : Nat) : String :=
    let front := text.take (text.length - left)
    let word := (front.reverse.dropWhile isSpaceOrEnd).takeWhile (!isSpaceOrEnd ·)
    String.ofList word.reverse
  isSpaceOrEnd (c : Char) : Bool := c == ' ' || c == '\n' || c == '\t'

end SyntaxFault

namespace Act

/-- Says why a text is no command. A shell that failures end leaves after the first message. -/
def refuseText (kind : TextKind) (text : List Char) (f : SyntaxFault) : Act Unit := do
  let s ← get
  if s.isStrict then
    put 2 (s.name ++ ": " ++ toString f.line ++ ": " ++ s.caller ++ "Syntax error: " ++
      f.plainMessage ++ "\n")
  else
    let front :=
      match kind with
      | .main => if s.functionSource = "environment" then s.source ++ ": -c" else s.source
      | .eval => s.source ++ ": eval"
      | .substitution => s.source ++ ": command substitution"
      | .laidOut => s.source ++ ": command substitution"
      | .file => s.source
    let isTerse := s.hasOption "errexit"
    (f.messages text isTerse).forM fun m =>
      put 2 (front ++ ": line " ++ toString f.line ++ ": " ++ m ++ "\n")
  setStatus (if f.isInArray && !s.hasOption "errexit" then 1 else 2)
  if s.isStrict || s.hasOption "errexit" || (s.hasOption "posix" && kind == .eval) || (f.isInArray && s.depth > 0) then throw .leaving

end Act

end GatedPipeline.Shell
