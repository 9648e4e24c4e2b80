import GatedPipeline.Proofs.Parsing
import GatedPipeline.Proofs.Spelling
import Mathlib.Data.List.TakeWhile

namespace GatedPipeline.Condition

/-- Some token is spelled at the beginning of the text. -/
def BeginsToken (s : List Char) : Prop :=
  ∃ (t : Token) (q : Quote), t.lexical = true ∧ t.spelled q <+: s

/-- Behind an opening quote, the text holds the one that closes it: it is not doubled, and what
stands in front of it is text. -/
def Closes (q : Char) (s : List Char) : Prop :=
  ∃ held rest, s = doubled q held ++ q :: rest ∧ rest.head? ≠ some q

section Quotes

variable {q c : Char} {s held rest : List Char}

theorem doubled_cons_self : doubled q (q :: s) = q :: q :: doubled q s := by
  simp [doubled]

theorem doubled_cons_of_ne (h : c ≠ q) : doubled q (c :: s) = c :: doubled q s := by
  simp [doubled, h]

/-- A text that has been closed is what was doubled in front of the closing quote. -/
theorem eq_doubled_of_closeQuote (h : closeQuote q s = some (held, rest)) :
    s = doubled q held ++ q :: rest ∧ rest.head? ≠ some q := by
  fun_induction closeQuote q s generalizing held rest with
  | case1 => cases h
  | case2 =>
    cases h
    refine ⟨rfl, ?_⟩
    rintro ⟨⟩
  | case3 => cases h
  | case4 more ih =>
    obtain ⟨⟨held, rest⟩, hmore, he⟩ := Option.map_eq_some_iff.mp h
    cases he
    obtain ⟨rfl, hrest⟩ := ih hmore
    exact ⟨by rw [doubled_cons_self]; rfl, hrest⟩
  | case5 d more hd =>
    cases h
    exact ⟨rfl, by simpa using hd⟩
  | case6 c d more hc ih =>
    obtain ⟨⟨held, rest⟩, hmore, he⟩ := Option.map_eq_some_iff.mp h
    cases he
    obtain ⟨hs, hrest⟩ := ih hmore
    exact ⟨by rw [doubled_cons_of_ne hc, hs]; rfl, hrest⟩

theorem closeQuote_eq_none_iff : closeQuote q s = none ↔ ¬ Closes q s := by
  constructor
  · rintro h ⟨held, rest, rfl, hrest⟩
    have hread : closeQuote q (doubled q held ++ q :: rest) = some (held, rest) := by
      refine closeQuote_doubled ?_
      rintro d hd rfl
      exact hrest hd
    cases h.symm.trans hread
  · intro h
    refine Option.eq_none_iff_forall_ne_some.mpr fun ⟨held, rest⟩ hclosed => ?_
    exact h ⟨held, rest, eq_doubled_of_closeQuote hclosed⟩

end Quotes

section Lexemes

variable {c : Char} {cs rest : List Char} {t : Token}

theorem lexeme_quote (q : Quote) (cs : List Char) : lexeme q.char cs =
    match closeQuote q.char cs with
    | some (s, rest) => .token (.text (String.ofList s)) rest
    | none => .unterminated := by
  cases q <;> rfl

theorem Quote.exists_char (h : c = '\'' ∨ c = '"') : ∃ q : Quote, c = q.char := by
  rcases h with rfl | rfl
  · exact ⟨.single, rfl⟩
  · exact ⟨.double, rfl⟩

/-- What can stand at a place: a token, which is over where the rest starts; a quote that nothing
closes; or anything else. -/
theorem lexeme_cases (c : Char) (cs : List Char) :
    (∃ t rest, lexeme c cs = .token t rest ∧
      ∃ q : Quote, c :: cs = t.spelled q ++ rest ∧ t.lexical = true ∧ t.Stops q rest) ∨
    (lexeme c cs = .unterminated ∧ ∃ q : Quote, c = q.char ∧ ¬ Closes q.char cs) ∨
    (lexeme c cs = .unexpected ∧ ∀ q : Quote, c ≠ q.char) := by
  by_cases hquote : ∃ q : Quote, c = q.char
  · obtain ⟨q, rfl⟩ := hquote
    rw [lexeme_quote]
    cases hclose : closeQuote q.char cs with
    | none => exact .inr (.inl ⟨rfl, q, rfl, closeQuote_eq_none_iff.mp hclose⟩)
    | some closed =>
      obtain ⟨rfl, hafter⟩ := eq_doubled_of_closeQuote hclose
      refine .inl ⟨_, _, rfl, q, by simp [Token.spelled], rfl, fun d hd => ?_⟩
      rw [Token.takesIn, beq_eq_false_iff_ne]
      rintro rfl
      exact hafter hd
  · have hplain : ¬ (c = '\'' ∨ c = '"') := fun h => hquote (Quote.exists_char h)
    by_cases hstart : isIdentStart c = true
    · rw [lexeme_of_isIdentStart hstart]
      refine .inl ⟨_, _, rfl, .single, by simp [Token.spelled], ?_, fun d hd => ?_⟩
      · simp only [Token.lexical, String.toList_ofList, hstart, Bool.true_and, List.all_eq_true]
        exact fun d => List.mem_takeWhile_imp
      · have hover := List.head?_dropWhile_not isIdentChar cs
        rwa [Option.mem_def.mp hd] at hover
    · unfold lexeme
      split
      case h_5 hne =>
        refine .inl ⟨_, _, rfl, .single, rfl, rfl, fun d hd => ?_⟩
        obtain ⟨cs', rfl⟩ := List.head?_eq_some_iff.mp hd
        rw [Token.takesIn, Token.takes, beq_eq_false_iff_ne]
        · rintro rfl
          exact hne cs' rfl
        · rintro _ ⟨⟩
      case h_9 =>
        rw [if_neg hplain, if_neg hstart]
        exact .inr (.inr ⟨rfl, fun q hq => hquote ⟨q, hq⟩⟩)
      -- The other tokens are the characters themselves, whatever comes behind them.
      all_goals exact .inl ⟨_, _, rfl, .single, rfl, rfl, fun _ _ => rfl⟩

theorem exists_spelled_of_lexeme (h : lexeme c cs = .token t rest) :
    ∃ q : Quote, c :: cs = t.spelled q ++ rest ∧ t.lexical = true ∧ t.Stops q rest := by
  obtain ⟨t', rest', hread, hspelled⟩ | ⟨hread, -⟩ | ⟨hread, -⟩ := lexeme_cases c cs
  · cases h.symm.trans hread
    exact hspelled
  · cases h.symm.trans hread
  · cases h.symm.trans hread

theorem lexeme_eq_unterminated_iff :
    lexeme c cs = .unterminated ↔ ∃ q : Quote, c = q.char ∧ ¬ Closes q.char cs := by
  constructor
  · intro h
    obtain ⟨t, rest, hread, -⟩ | ⟨-, hquote⟩ | ⟨hread, -⟩ := lexeme_cases c cs
    · cases h.symm.trans hread
    · exact hquote
    · cases h.symm.trans hread
  · rintro ⟨q, rfl, hopen⟩
    rw [lexeme_quote, closeQuote_eq_none_iff.mpr hopen]

theorem lexeme_ne_unexpected_of_beginsToken (h : BeginsToken (c :: cs)) :
    lexeme c cs ≠ .unexpected := by
  obtain ⟨t, q, ht, rest, hrest⟩ := h
  cases t with
  | text s =>
    obtain ⟨rfl, -⟩ := List.cons.inj hrest
    rw [lexeme_quote]
    split <;> rintro ⟨⟩
  | ident name =>
    obtain ⟨d, ds, hname, hd, -⟩ := Token.name_of_lexical ht
    rw [Token.spelled, hname] at hrest
    obtain ⟨rfl, rfl⟩ := List.cons.inj hrest
    rw [lexeme_of_isIdentStart hd]
    rintro ⟨⟩
  | not =>
    obtain ⟨rfl, -⟩ := List.cons.inj hrest
    cases cs with
    | nil => rintro ⟨⟩
    | cons d cs => by_cases hd : d = '=' <;> simp [lexeme, hd]
  | leftParen | rightParen | comma | and | or | eq | ne =>
    cases hrest
    rintro ⟨⟩

/-- A character is unexpected where it begins no token, and is no quote: that would be reported for
itself. -/
theorem lexeme_eq_unexpected_iff :
    lexeme c cs = .unexpected ↔ (∀ q : Quote, c ≠ q.char) ∧ ¬ BeginsToken (c :: cs) := by
  obtain ⟨t, rest, hread, q, hs, ht, -⟩ | ⟨hread, q, rfl, -⟩ | ⟨hread, hquote⟩ :=
    lexeme_cases c cs
  · rw [hread]
    constructor
    · rintro ⟨⟩
    · rintro ⟨-, hbegins⟩
      exact absurd ⟨t, q, ht, rest, hs.symm⟩ hbegins
  · rw [hread]
    constructor
    · rintro ⟨⟩
    · rintro ⟨hquote, -⟩
      exact absurd rfl (hquote q)
  · have hbegins : ¬ BeginsToken (c :: cs) := fun h => lexeme_ne_unexpected_of_beginsToken h hread
    exact ⟨fun _ => ⟨hquote, hbegins⟩, fun _ => hread⟩

end Lexemes

section Scanning

variable {c : Char} {s cs rest before after : List Char} {t : Token} {ts : List Token} {e : Error}
  {offset : Nat}

/-- What has been read is not read otherwise for what is left out behind it. -/
theorem Reads.truncate (h : Reads before ts rest) : Reads before ts [] := by
  induction h with
  | nil => exact .nil []
  | blank hc _ ih => exact .blank hc ih
  | @token t q s rest ts ht hstops _ ih =>
    refine .token ht (fun c hc => hstops c ?_) ih
    cases s with
    | nil => cases hc
    | cons d s => exact hc

/-- No token and no blank starts the text. -/
def Stuck : List Char → Prop
  | [] => True
  | c :: cs => Text.isBlank c = false ∧ ∀ t rest, lexeme c cs ≠ .token t rest

/-- Every text is read up to where no token starts. -/
theorem exists_reads (s : List Char) :
    ∃ before ts rest, s = before ++ rest ∧ Reads before ts rest ∧ Stuck rest := by
  match s with
  | [] => exact ⟨[], [], [], rfl, .nil [], trivial⟩
  | c :: cs =>
    by_cases hc : Text.isBlank c = true
    · obtain ⟨before, ts, rest, rfl, hreads, hstuck⟩ := exists_reads cs
      exact ⟨c :: before, ts, rest, rfl, .blank hc hreads, hstuck⟩
    · rw [Bool.not_eq_true] at hc
      by_cases ht : ∃ t rest, lexeme c cs = .token t rest
      · obtain ⟨t, behind, hread⟩ := ht
        have hshorter := length_of_lexeme hread
        obtain ⟨q, hs, ht, hstops⟩ := exists_spelled_of_lexeme hread
        obtain ⟨before, ts, rest, rfl, hreads, hstuck⟩ := exists_reads behind
        exact ⟨t.spelled q ++ before, t :: ts, rest, by rw [hs, List.append_assoc],
          .token ht hstops hreads, hstuck⟩
      · exact ⟨[], [], c :: cs, rfl, .nil _, hc, fun t rest h => ht ⟨t, rest, h⟩⟩
termination_by s.length

/-- Behind what has been read, the scanner looks at the next character at its own offset. -/
theorem Reads.scan_stuck (h : Reads before ts (c :: after)) (hc : Text.isBlank c = false) :
    scan 0 (before ++ c :: after) =
      match lexeme c after with
      | .unexpected => .error (.unexpectedChar c (Text.byteSize before))
      | .unterminated => .error (.unterminatedText (Text.byteSize before))
      | .token t rest => (scan (Text.byteSize before +
          (byteLength (c :: after) - byteLength rest)) rest).map fun us => ts ++ t :: us := by
  rw [h.scan_append 0, scan_of_lexeme hc, Nat.zero_add]
  cases lexeme c after with
  | unexpected | unterminated => rfl
  | token t rest =>
    dsimp only
    cases scan _ rest <;> rfl

/-- The tokens of a text are those that the whole of it is read as. -/
theorem scan_eq_ok_iff : scan 0 s = .ok ts ↔ Reads s ts [] := by
  refine ⟨fun h => ?_, fun h => h.scan_eq_ok 0⟩
  obtain ⟨before, us, rest, rfl, hreads, hstuck⟩ := exists_reads s
  cases rest with
  | nil =>
    rw [List.append_nil] at h ⊢
    cases h.symm.trans (hreads.scan_eq_ok 0)
    exact hreads
  | cons c after =>
    obtain ⟨hc, hno⟩ := hstuck
    rw [hreads.scan_stuck hc] at h
    cases hl : lexeme c after with
    | token t rest => exact absurd hl (hno t rest)
    | unexpected | unterminated =>
      rw [hl] at h
      cases h

/-- A scan that fails has read all that stands before the place of the error. -/
theorem exists_reads_of_scan (h : scan 0 s = .error e) :
    ∃ before ts c after, s = before ++ c :: after ∧ Reads before ts (c :: after) ∧
      Text.isBlank c = false ∧
      (lexeme c after = .unexpected ∧ e = .unexpectedChar c (Text.byteSize before) ∨
        lexeme c after = .unterminated ∧ e = .unterminatedText (Text.byteSize before)) := by
  obtain ⟨before, ts, rest, rfl, hreads, hstuck⟩ := exists_reads s
  cases rest with
  | nil =>
    rw [List.append_nil, hreads.scan_eq_ok 0] at h
    cases h
  | cons c after =>
    obtain ⟨hc, hno⟩ := hstuck
    rw [hreads.scan_stuck hc] at h
    refine ⟨before, ts, c, after, rfl, hreads, hc, ?_⟩
    cases hl : lexeme c after with
    | token t rest => exact absurd hl (hno t rest)
    | unexpected =>
      rw [hl] at h
      exact .inl ⟨rfl, (Except.error.inj h).symm⟩
    | unterminated =>
      rw [hl] at h
      exact .inr ⟨rfl, (Except.error.inj h).symm⟩

theorem scan_eq_unexpectedChar_iff :
    scan 0 s = .error (.unexpectedChar c offset) ↔
      ∃ before ts after, s = before ++ c :: after ∧ Text.byteSize before = offset ∧
        Reads before ts (c :: after) ∧ scan 0 before = .ok ts ∧ Text.isBlank c = false ∧
        (∀ q : Quote, c ≠ q.char) ∧ ¬ BeginsToken (c :: after) := by
  constructor
  · intro h
    obtain ⟨before, ts, d, after, rfl, hreads, hd, ⟨hl, he⟩ | ⟨-, he⟩⟩ := exists_reads_of_scan h
    · cases he
      obtain ⟨hquote, hbegins⟩ := lexeme_eq_unexpected_iff.mp hl
      exact ⟨before, ts, after, rfl, rfl, hreads, hreads.truncate.scan_eq_ok 0, hd, hquote, hbegins⟩
    · cases he
  · rintro ⟨before, ts, after, rfl, rfl, hreads, -, hc, hquote, hbegins⟩
    rw [hreads.scan_stuck hc, lexeme_eq_unexpected_iff.mpr ⟨hquote, hbegins⟩]

theorem Quote.isBlank_char (q : Quote) : Text.isBlank q.char = false := by
  cases q <;> rfl

theorem scan_eq_unterminatedText_iff :
    scan 0 s = .error (.unterminatedText offset) ↔
      ∃ before ts after, ∃ q : Quote, s = before ++ q.char :: after ∧
        Text.byteSize before = offset ∧ Reads before ts (q.char :: after) ∧
        scan 0 before = .ok ts ∧ ¬ Closes q.char after := by
  constructor
  · intro h
    obtain ⟨before, ts, d, after, rfl, hreads, -, ⟨-, he⟩ | ⟨hl, he⟩⟩ := exists_reads_of_scan h
    · cases he
    · cases he
      obtain ⟨q, rfl, hopen⟩ := lexeme_eq_unterminated_iff.mp hl
      exact ⟨before, ts, after, q, rfl, rfl, hreads, hreads.truncate.scan_eq_ok 0, hopen⟩
  · rintro ⟨before, ts, after, q, rfl, rfl, hreads, -, hopen⟩
    rw [hreads.scan_stuck q.isBlank_char, lexeme_eq_unterminated_iff.mpr ⟨q, rfl, hopen⟩]

end Scanning

/-- The scanner reports this error, and not the parser. -/
def Error.isLexical : Error → Bool
  | .unexpectedChar .. | .unterminatedText _ => true
  | _ => false

def Unlexical {α : Type} (r : Except Error α) : Prop := ∀ e, r = .error e → e.isLexical = false

section Unlexical

variable {α β : Type} {r : Except Error α} {f : α → Except Error β}

theorem Unlexical.ok (a : α) : Unlexical (.ok a) := by
  rintro _ ⟨⟩

theorem Unlexical.error {e : Error} (h : e.isLexical = false) :
    Unlexical (.error e : Except Error α) := by
  rintro _ ⟨⟩
  exact h

theorem Unlexical.bind (hr : Unlexical r) (hf : ∀ a, Unlexical (f a)) : Unlexical (r >>= f) := by
  intro e he
  cases r with
  | error e' =>
    cases he
    exact hr e rfl
  | ok a => exact hf a e he

end Unlexical

theorem unlexical_expect (t : Token) (ts : List Token) : Unlexical (expect t ts) := by
  unfold expect
  split
  · exact .error rfl
  · split
    · exact .ok _
    · exact .error rfl

theorem unlexical_makeCall (f : Function) (args : List Expr) : Unlexical (makeCall f args) := by
  unfold makeCall
  split
  · exact .ok _
  · exact .error rfl

/-- The parsers report no error of the scanner as long as their calls do not nest more deeply than
`n`. -/
structure Syntactic (n : Nat) : Prop where
  or : ∀ ts, Unlexical (parseOr n ts)
  orMore : ∀ l ts, Unlexical (parseOrMore n l ts)
  and : ∀ ts, Unlexical (parseAnd n ts)
  andMore : ∀ l ts, Unlexical (parseAndMore n l ts)
  unary : ∀ ts, Unlexical (parseUnary n ts)
  comparison : ∀ ts, Unlexical (parseComparison n ts)
  primary : ∀ ts, Unlexical (parsePrimary n ts)
  args : ∀ ts, Unlexical (parseArgs n ts)

theorem syntactic_zero : Syntactic 0 where
  or _ := .error rfl
  orMore l ts := by
    rw [parseOrMore]
    · exact .ok _
    · rintro _ _ ⟨⟩
  and _ := .error rfl
  andMore l ts := by
    rw [parseAndMore]
    · exact .ok _
    · rintro _ _ ⟨⟩
  unary _ := .error rfl
  comparison _ := .error rfl
  primary _ := .error rfl
  args _ := .error rfl

section Syntactic

variable {n : Nat} (h : Syntactic n)

include h

theorem Syntactic.orMore_succ (l : Expr) (ts : List Token) :
    Unlexical (parseOrMore (n + 1) l ts) := by
  unfold parseOrMore
  split
  · rename_i he
    cases he
    exact (h.and _).bind fun r => h.orMore _ r.2
  · exact .ok _

theorem Syntactic.andMore_succ (l : Expr) (ts : List Token) :
    Unlexical (parseAndMore (n + 1) l ts) := by
  unfold parseAndMore
  split
  · rename_i he
    cases he
    exact (h.unary _).bind fun r => h.andMore _ r.2
  · exact .ok _

theorem Syntactic.unary_succ (ts : List Token) : Unlexical (parseUnary (n + 1) ts) := by
  by_cases hnot : ∃ us, ts = .not :: us
  · obtain ⟨us, rfl⟩ := hnot
    rw [parseUnary_not]
    exact (h.unary us).bind fun _ => .ok _
  · rw [parseUnary_of_ne fun us hts => hnot ⟨us, hts⟩]
    exact h.comparison ts

theorem Syntactic.comparison_succ (ts : List Token) : Unlexical (parseComparison (n + 1) ts) := by
  rw [parseComparison]
  refine (h.primary ts).bind fun r => ?_
  dsimp only
  split
  · exact (h.primary _).bind fun _ => .ok _
  · exact (h.primary _).bind fun _ => .ok _
  · exact .ok _

theorem Syntactic.args_succ (ts : List Token) : Unlexical (parseArgs (n + 1) ts) := by
  rw [parseArgs]
  refine (h.or ts).bind fun r => ?_
  dsimp only
  split
  · exact (h.args _).bind fun _ => .ok _
  · exact (unlexical_expect _ _).bind fun _ => .ok _

theorem Syntactic.primary_succ (ts : List Token) : Unlexical (parsePrimary (n + 1) ts) := by
  -- By what the tokens start with: a text, a parenthesis, a call, a name or anything else.
  unfold parsePrimary
  split
  · exact .error rfl
  · exact .error rfl
  · exact .ok _
  · rename_i he
    cases he
    exact (h.or _).bind fun r => (unlexical_expect _ r.2).bind fun _ => .ok _
  · rename_i he
    cases he
    split
    · exact .error rfl
    · dsimp only
      split
      · exact (Unlexical.ok _).bind fun r => (unlexical_makeCall _ r.1).bind fun _ => .ok _
      · exact (h.args _).bind fun r => (unlexical_makeCall _ r.1).bind fun _ => .ok _
  · split
    · exact .ok _
    · exact .error rfl
  · exact .error rfl

end Syntactic

theorem syntactic (n : Nat) : Syntactic n := by
  induction n with
  | zero => exact syntactic_zero
  | succ n ih =>
    exact {
      or := fun ts => (ih.and ts).bind fun r => ih.orMore r.1 r.2
      orMore := ih.orMore_succ
      and := fun ts => (ih.unary ts).bind fun r => ih.andMore r.1 r.2
      andMore := ih.andMore_succ
      unary := ih.unary_succ
      comparison := ih.comparison_succ
      primary := ih.primary_succ
      args := ih.args_succ }

theorem unlexical_parseTokens (ts : List Token) : Unlexical (parseTokens ts) := by
  unfold parseTokens
  split
  · exact .error rfl
  · refine ((syntactic _).or ts).bind fun r => ?_
    dsimp only
    split
    · exact .ok _
    · exact .error rfl

/-- A condition fails with an error of the scanner where its body does. -/
theorem parse_eq_error_iff {e : Error} (h : e.isLexical = true) (source : String) :
    parse source = .error e ↔ scan 0 (bodyOf source) = .error e := by
  unfold parse
  cases hs : scan 0 (bodyOf source) with
  | error e' => simp [bind, Except.bind]
  | ok ts =>
    have hparser : Unlexical
        (parseTokens ts >>= fun e => .ok ⟨Text.trim source, e⟩ : Except Error Condition) :=
      (unlexical_parseTokens ts).bind fun _ => .ok _
    constructor
    · intro he
      cases h.symm.trans (hparser e he)
    · rintro ⟨⟩

/-- A condition fails at a character where everything before it has been read, and no token starts
there: the character is no quote, or it is one that nothing closes. A body that is read without an
error is tokens and blanks throughout. -/
theorem lexical_errors_exact (source : String) :
    (∀ c offset, parse source = .error (.unexpectedChar c offset) ↔
      ∃ before ts after, bodyOf source = before ++ c :: after ∧ Text.byteSize before = offset ∧
        Reads before ts (c :: after) ∧ scan 0 before = .ok ts ∧ Text.isBlank c = false ∧
        (∀ q : Quote, c ≠ q.char) ∧ ¬ BeginsToken (c :: after)) ∧
    (∀ offset, parse source = .error (.unterminatedText offset) ↔
      ∃ before ts after, ∃ q : Quote, bodyOf source = before ++ q.char :: after ∧
        Text.byteSize before = offset ∧ Reads before ts (q.char :: after) ∧
        scan 0 before = .ok ts ∧ ¬ Closes q.char after) ∧
    ∀ ts, scan 0 (bodyOf source) = .ok ts ↔ Reads (bodyOf source) ts [] := by
  refine ⟨fun c offset => ?_, fun offset => ?_, fun ts => scan_eq_ok_iff⟩
  · rw [parse_eq_error_iff rfl]
    exact scan_eq_unexpectedChar_iff
  · rw [parse_eq_error_iff rfl]
    exact scan_eq_unterminatedText_iff

/-- Offsets count bytes: the `ä` before the place has two. -/
example : parse "ref == 'ä' é" = .error (.unexpectedChar 'é' 12) := by decide +kernel

end GatedPipeline.Condition
