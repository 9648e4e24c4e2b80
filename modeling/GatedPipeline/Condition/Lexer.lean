import GatedPipeline.Condition.Expr
import GatedPipeline.Text.Blank
import GatedPipeline.Text.Quoted

namespace GatedPipeline.Condition

inductive Token where
  | ident (name : String)
  | text (s : String)
  | leftParen
  | rightParen
  | comma
  | not
  | and
  | or
  | eq
  | ne
deriving DecidableEq, Repr

def Token.describe : Token → String
  | .ident name => Text.ticked name
  | .text s => "'" ++ s ++ "'"
  | .leftParen => Text.ticked "("
  | .rightParen => Text.ticked ")"
  | .comma => Text.ticked ","
  | .not => Text.ticked "!"
  | .and => Text.ticked "&&"
  | .or => Text.ticked "||"
  | .eq => Text.ticked "=="
  | .ne => Text.ticked "!="

inductive Expected where
  | aValue
  | theEnd
  | token (t : Token)
deriving DecidableEq, Repr

def Expected.describe : Expected → String
  | .aValue => "a value"
  | .theEnd => "end of condition"
  | .token t => t.describe

/-- Offsets count the bytes of the text before the place; no token found means the end of it. -/
inductive Error where
  | empty
  | unexpectedChar (c : Char) (offset : Nat)
  | unterminatedText (offset : Nat)
  | unexpectedToken (expected : Expected) (found : Option Token)
  | unknownIdentifier (name : String)
  | unknownFunction (name : String)
  | arity (f : Function) (found : Nat)
deriving DecidableEq, Repr

def Error.message : Error → String
  | .empty => "empty condition"
  | .unexpectedChar c offset =>
    "unexpected character " ++ Text.ticked (String.singleton c) ++ " at offset " ++ toString offset
  | .unterminatedText offset =>
    "unterminated string literal starting at offset " ++ toString offset
  | .unexpectedToken expected found =>
    "expected " ++ expected.describe ++ ", found " ++
      (match found with
        | some t => t.describe
        | none => "end of condition")
  | .unknownIdentifier name => "unknown identifier " ++ Text.ticked name
  | .unknownFunction name => "unknown function " ++ Text.ticked name
  | .arity f found =>
    "function " ++ Text.ticked f.name ++ " takes 2 arguments, got " ++ toString found

def byteLength (s : List Char) : Nat := (s.map Char.utf8Size).foldr (· + ·) 0

/-- What a quoted text holds and what follows it, if the quote is closed. -/
def closeQuote (q : Char) : List Char → Option (List Char × List Char)
  | [] => none
  | [c] => if c = q then some ([], []) else none
  | c :: d :: rest =>
    if c = q then
      -- Inside, the quote is written twice.
      if d = q then (closeQuote q rest).map fun r => (q :: r.1, r.2)
      else some ([], d :: rest)
    else (closeQuote q (d :: rest)).map fun r => (c :: r.1, r.2)

def isIdentStart (c : Char) : Bool := c.isAlpha || c == '_'

def isIdentChar (c : Char) : Bool := c.isAlphanum || c == '_' || c == '.'

/-- The outcome of looking at a text that does not start with a blank. -/
inductive Lexeme where
  | token (t : Token) (rest : List Char)
  | unexpected
  | unterminated
deriving DecidableEq, Repr

def lexeme (c : Char) (cs : List Char) : Lexeme :=
  match c, cs with
  | '(', _ => .token .leftParen cs
  | ')', _ => .token .rightParen cs
  | ',', _ => .token .comma cs
  | '!', '=' :: r => .token .ne r
  | '!', _ => .token .not cs
  | '=', '=' :: r => .token .eq r
  | '&', '&' :: r => .token .and r
  | '|', '|' :: r => .token .or r
  | c, _ =>
    if c = '\'' ∨ c = '"' then
      match closeQuote c cs with
      | some (s, r) => .token (.text (String.ofList s)) r
      | none => .unterminated
    else if isIdentStart c then
      .token (.ident (String.ofList (c :: cs.takeWhile isIdentChar))) (cs.dropWhile isIdentChar)
    else .unexpected

theorem length_of_closeQuote {q : Char} {cs s r : List Char}
    (h : closeQuote q cs = some (s, r)) : r.length < cs.length := by
  fun_induction closeQuote q cs generalizing s r with
  | case1 => simp at h
  | case2 => simp at h; simp [← h.2]
  | case3 => simp at h
  | case4 rest ih =>
    obtain ⟨⟨s', r'⟩, hr, he⟩ := Option.map_eq_some_iff.mp h
    have := ih hr
    simp only [Prod.mk.injEq] at he
    simp only [← he.2, List.length_cons]
    omega
  | case5 => simp at h; simp [← h.2]
  | case6 c d rest _ ih =>
    obtain ⟨⟨s', r'⟩, hr, he⟩ := Option.map_eq_some_iff.mp h
    have := ih hr
    simp only [Prod.mk.injEq] at he
    simp only [← he.2, List.length_cons] at this ⊢
    omega

theorem length_of_lexeme {c : Char} {cs r : List Char} {t : Token}
    (h : lexeme c cs = .token t r) : r.length ≤ cs.length := by
  unfold lexeme at h
  split at h
  all_goals try (simp only [Lexeme.token.injEq] at h; obtain ⟨_, rfl⟩ := h; simp)
  split at h
  · split at h
    · next hq =>
      simp only [Lexeme.token.injEq] at h
      obtain ⟨_, rfl⟩ := h
      exact Nat.le_of_lt (length_of_closeQuote hq)
    · simp at h
  · split at h
    · simp only [Lexeme.token.injEq] at h
      obtain ⟨_, rfl⟩ := h
      exact (List.dropWhile_sublist isIdentChar).length_le
    · simp at h

/-- The tokens of a text that starts `offset` bytes into the condition. -/
def scan (offset : Nat) : List Char → Except Error (List Token)
  | [] => .ok []
  | c :: cs =>
    if Text.isBlank c then scan (offset + c.utf8Size) cs
    else
      match _h : lexeme c cs with
      | .unexpected => .error (.unexpectedChar c offset)
      | .unterminated => .error (.unterminatedText offset)
      | .token t rest =>
        (scan (offset + (byteLength (c :: cs) - byteLength rest)) rest).map (t :: ·)
termination_by s => s.length
decreasing_by
  · simp
  · have := length_of_lexeme (by assumption)
    simp only [List.length_cons]
    omega

end GatedPipeline.Condition
