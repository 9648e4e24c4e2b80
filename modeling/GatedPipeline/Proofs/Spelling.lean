import GatedPipeline.Condition.Basic
import GatedPipeline.Text.Bytes
import Mathlib.Data.List.Chain

namespace GatedPipeline.Condition

inductive Quote where
  | single
  | double

def Quote.char : Quote → Char
  | .single => '\''
  | .double => '"'

/-- A quote that a text holds is written twice. -/
def doubled (q : Char) (s : List Char) : List Char :=
  s.flatMap fun c => if c = q then [q, q] else [c]

def Token.spelled (q : Quote) : Token → List Char
  | .text s => q.char :: (doubled q.char s.toList ++ [q.char])
  | .ident name => name.toList
  | .leftParen => ['(']
  | .rightParen => [')']
  | .comma => [',']
  | .not => ['!']
  | .and => ['&', '&']
  | .or => ['|', '|']
  | .eq => ['=', '=']
  | .ne => ['!', '=']

/-- Any number of blanks, also none. -/
structure Blanks where
  chars : List Char
  blank : chars.all Text.isBlank = true

/-- What a writer is free to choose. -/
structure Layout where
  /-- The blanks in front of the token at a place, and behind the last one. -/
  gap : Nat → Blanks
  /-- The quotes around the token at a place, if it is a text. -/
  quote : Nat → Quote
  /-- The blanks around the wrapper, if there is one. -/
  wrapper : Option (Blanks × Blanks)

namespace Layout

/-- The tokens from a place on, without what is blank around them. -/
def inked (y : Layout) : Nat → List Token → List Char
  | _, [] => []
  | i, [t] => t.spelled (y.quote i)
  | i, t :: u :: ts =>
    t.spelled (y.quote i) ++ (y.gap (i + 1)).chars ++ y.inked (i + 1) (u :: ts)

def body (y : Layout) (ts : List Token) : List Char :=
  (y.gap 0).chars ++ y.inked 0 ts ++ (y.gap ts.length).chars

def source (y : Layout) (ts : List Token) : String :=
  match y.wrapper with
  | none => String.ofList (y.body ts)
  | some (before, after) =>
    String.ofList (before.chars ++ (['$', '{', '{'] ++ y.body ts ++ ['}', '}']) ++ after.chars)

end Layout

/-- The scanner can give this token. -/
def Token.lexical : Token → Bool
  | .ident name =>
    match name.toList with
    | [] => false
    | c :: cs => isIdentStart c && cs.all isIdentChar
  | _ => true

/-- The scanner would take this character into the token. -/
def Token.takes : Token → Char → Bool
  | .text _, c => c == '\'' || c == '"'
  | .ident _, c => isIdentChar c
  | .not, c => c == '='
  | _, _ => false

def Token.Halts (t : Token) (rest : List Char) : Prop := ∀ c ∈ rest.head?, t.takes c = false

/-- The scanner would take this character into the token as it is written: a text goes on only with
the quote that it stands in. -/
def Token.takesIn (q : Quote) : Token → Char → Bool
  | .text _, c => c == q.char
  | t, c => t.takes c

def Token.Stops (t : Token) (q : Quote) (rest : List Char) : Prop :=
  ∀ c ∈ rest.head?, t.takesIn q c = false

/-- Without a blank between them, the two tokens would be read as others. -/
def Token.runsInto : Token → Token → Bool
  | .ident _, .ident _ | .text _, .text _ | .not, .eq => true
  | _, _ => false

theorem toNat_of_isAlphanum {c : Char} (h : c.isAlphanum = true) :
    (65 ≤ c.toNat ∧ c.toNat ≤ 90 ∨ 97 ≤ c.toNat ∧ c.toNat ≤ 122) ∨
      48 ≤ c.toNat ∧ c.toNat ≤ 57 := by
  delta Char.isAlphanum Char.isAlpha Char.isUpper Char.isLower Char.isDigit at h
  simpa [UInt32.le_iff_toNat_le] using h

theorem isBlank_eq_false_of_isIdentChar {c : Char} (h : isIdentChar c = true) :
    Text.isBlank c = false := by
  rw [Bool.eq_false_iff]
  intro hb
  simp only [isIdentChar, Bool.or_eq_true, beq_iff_eq] at h
  rcases h with (h | rfl) | rfl
  · have hcode := toNat_of_isAlphanum h
    simp only [Text.isBlank, Bool.or_eq_true, Bool.and_eq_true, decide_eq_true_eq,
      beq_iff_eq] at hb
    omega
  · exact absurd hb (by decide)
  · exact absurd hb (by decide)

theorem isIdentChar_of_isIdentStart {c : Char} (h : isIdentStart c = true) :
    isIdentChar c = true := by
  simp only [isIdentStart, Bool.or_eq_true] at h
  rcases h with h | h <;> simp [isIdentChar, Char.isAlphanum, h]

theorem Token.name_of_lexical {name : String} (h : (Token.ident name).lexical = true) :
    ∃ c cs, name.toList = c :: cs ∧ isIdentStart c = true ∧ ∀ d ∈ cs, isIdentChar d = true := by
  simp only [lexical] at h
  split at h
  · cases h
  · rename_i c cs hname
    rw [Bool.and_eq_true, List.all_eq_true] at h
    exact ⟨c, cs, hname, h.1, h.2⟩

theorem Token.halts_nil (t : Token) : t.Halts [] := fun _ hc => nomatch hc

theorem Token.Halts.stops {t : Token} {rest : List Char} (h : t.Halts rest) (q : Quote) :
    t.Stops q rest := by
  intro c hc
  have htakes := h c hc
  cases t with
  | text s =>
    rw [takes, Bool.or_eq_false_iff] at htakes
    cases q with
    | single => exact htakes.1
    | double => exact htakes.2
  | ident | leftParen | rightParen | comma | not | and | or | eq | ne => exact htakes

theorem Token.takes_of_isBlank (t : Token) {c : Char} (h : Text.isBlank c = true) :
    t.takes c = false := by
  rw [Bool.eq_false_iff]
  intro ht
  cases t with
  | text s =>
    rw [takes, Bool.or_eq_true, beq_iff_eq, beq_iff_eq] at ht
    rcases ht with rfl | rfl <;> exact absurd h (by decide)
  | ident name => exact absurd h (by simp [isBlank_eq_false_of_isIdentChar ht])
  | not =>
    obtain rfl := beq_iff_eq.mp ht
    exact absurd h (by decide)
  | leftParen | rightParen | comma | and | or | eq | ne => cases ht

theorem ne_of_isIdentStart {c d : Char} (hc : isIdentStart c = true)
    (hd : isIdentStart d = false) : c ≠ d := by
  rintro rfl
  rw [hc] at hd
  cases hd

/-- A token is over where another one follows that it does not run into. -/
theorem Token.halts_spelled {t u : Token} (hu : u.lexical = true) (h : t.runsInto u = false)
    (q : Quote) (rest : List Char) : t.Halts (u.spelled q ++ rest) := by
  intro c hc
  -- Only texts, names and negations can go on; what follows them starts with some other character.
  cases t with
  | leftParen | rightParen | comma | and | or | eq | ne => rfl
  | text s =>
    cases u with
    | text => cases h
    | ident name =>
      obtain ⟨d, ds, hname, hd, -⟩ := name_of_lexical hu
      rw [spelled, hname] at hc
      cases hc
      simp [takes, ne_of_isIdentStart hd (d := '\'') rfl, ne_of_isIdentStart hd (d := '"') rfl]
    | leftParen | rightParen | comma | not | and | or | eq | ne =>
      cases hc
      rfl
  | ident name =>
    cases u with
    | ident => cases h
    | text => cases q <;> cases hc <;> rfl
    | leftParen | rightParen | comma | not | and | or | eq | ne =>
      cases hc
      rfl
  | not =>
    cases u with
    | eq => cases h
    | text => cases q <;> cases hc <;> rfl
    | ident name =>
      obtain ⟨d, ds, hname, hd, -⟩ := name_of_lexical hu
      rw [spelled, hname] at hc
      cases hc
      simp [takes, ne_of_isIdentStart hd (d := '=') rfl]
    | leftParen | rightParen | comma | not | and | or | ne =>
      cases hc
      rfl

section Quotes

variable {q c : Char} {s rest : List Char}

theorem closeQuote_of_head (h : ∀ d ∈ rest.head?, d ≠ q) :
    closeQuote q (q :: rest) = some ([], rest) := by
  cases rest with
  | nil => simp [closeQuote]
  | cons d rest => simp [closeQuote, h d (by simp)]

theorem closeQuote_twice : closeQuote q (q :: q :: s) =
    (closeQuote q s).map fun r => (q :: r.1, r.2) := by
  simp [closeQuote]

theorem closeQuote_of_ne (h : c ≠ q) : closeQuote q (c :: s) =
    (closeQuote q s).map fun r => (c :: r.1, r.2) := by
  cases s <;> simp [closeQuote, h]

/-- Up to the quote that closes it, a text is read as it was before its quotes were doubled. -/
theorem closeQuote_doubled (h : ∀ d ∈ rest.head?, d ≠ q) :
    closeQuote q (doubled q s ++ q :: rest) = some (s, rest) := by
  induction s with
  | nil => exact closeQuote_of_head h
  | cons c s ih =>
    rw [doubled, List.flatMap_cons, ← doubled]
    split
    · rename_i hc
      simp only [List.cons_append, List.nil_append]
      rw [closeQuote_twice, ih, hc]
      rfl
    · rename_i hc
      simp only [List.cons_append, List.nil_append]
      rw [closeQuote_of_ne hc, ih]
      rfl

end Quotes

theorem lexeme_of_isIdentStart {c : Char} {cs : List Char} (h : isIdentStart c = true) :
    lexeme c cs = .token (.ident (String.ofList (c :: cs.takeWhile isIdentChar)))
      (cs.dropWhile isIdentChar) := by
  unfold lexeme
  split
  -- No name starts with one of the characters that the scanner looks for first.
  all_goals try exact absurd h (by decide)
  rw [if_neg (not_or.mpr ⟨ne_of_isIdentStart h rfl, ne_of_isIdentStart h rfl⟩), if_pos h]

/-- A written token is read back, where it is over. -/
theorem Token.lexeme_spelled {t : Token} (ht : t.lexical = true) {q : Quote} {rest : List Char}
    (h : t.Stops q rest) :
    ∃ c cs, t.spelled q ++ rest = c :: cs ∧ Text.isBlank c = false ∧ c ≠ '$' ∧
      lexeme c cs = .token t rest := by
  cases t with
  | text s =>
    have hquote : ∀ d ∈ rest.head?, d ≠ q.char := fun d hd => by simpa [takesIn] using h d hd
    refine ⟨q.char, doubled q.char s.toList ++ q.char :: rest, by simp [spelled], ?_, ?_, ?_⟩
    · cases q <;> decide
    · cases q <;> decide
    · have hread := closeQuote_doubled (s := s.toList) hquote
      cases q <;> simp [lexeme, Quote.char] at hread ⊢ <;> simp [hread]
  | ident name =>
    obtain ⟨c, cs, hname, hc, hcs⟩ := name_of_lexical ht
    have hrest : rest.takeWhile isIdentChar = [] ∧ rest.dropWhile isIdentChar = rest := by
      cases rest with
      | nil => exact ⟨rfl, rfl⟩
      | cons d rest =>
        have hd : isIdentChar d = false := h d rfl
        simp [hd]
    have hblank := isBlank_eq_false_of_isIdentChar (isIdentChar_of_isIdentStart hc)
    refine ⟨c, cs ++ rest, by rw [spelled, hname, List.cons_append], hblank,
      ne_of_isIdentStart hc rfl, ?_⟩
    rw [lexeme_of_isIdentStart hc, List.takeWhile_append_of_pos hcs,
      List.dropWhile_append_of_pos hcs, hrest.1, hrest.2, List.append_nil, ← hname,
      String.ofList_toList]
  | not =>
    refine ⟨'!', rest, rfl, by decide, by decide, ?_⟩
    cases rest with
    | nil => rfl
    | cons d rest =>
      have hd : d ≠ '=' := by simpa [takesIn, takes] using h d rfl
      simp [lexeme, hd]
  | leftParen | rightParen | comma | and | or | eq | ne =>
    exact ⟨_, _, rfl, by decide, by decide, rfl⟩

theorem Token.solid_spelled {t : Token} (ht : t.lexical = true) (q : Quote) :
    Text.Solid (t.spelled q) := by
  cases t with
  | text s =>
    have hq : Text.isBlank q.char = false := by cases q <;> rfl
    exact ⟨⟨_, _, rfl, hq⟩, ⟨q.char :: doubled q.char s.toList, q.char, rfl, hq⟩⟩
  | ident name =>
    obtain ⟨c, cs, hname, hc, hcs⟩ := name_of_lexical ht
    rw [spelled, hname]
    refine Text.solid_of_any_eq_false (List.cons_ne_nil c cs) (List.any_eq_false.mpr ?_)
    intro d hd
    rw [Bool.not_eq_true]
    rcases List.mem_cons.mp hd with rfl | hd
    · exact isBlank_eq_false_of_isIdentChar (isIdentChar_of_isIdentStart hc)
    · exact isBlank_eq_false_of_isIdentChar (hcs d hd)
  | leftParen | rightParen | comma | not | and | or | eq | ne =>
    exact Text.solid_of_any_eq_false (List.cons_ne_nil _ _) (by rfl)

theorem byteLength_eq_byteSize (s : List Char) : byteLength s = Text.byteSize s := by
  induction s with
  | nil => rfl
  | cons c s ih =>
    rw [Text.byteSize_cons, ← ih]
    rfl

section Scanning

variable {c : Char} {s cs rest before gap : List Char} {ts : List Token}

theorem scan_nil (offset : Nat) : scan offset [] = .ok [] := by
  unfold scan
  rfl

theorem scan_of_isBlank (h : Text.isBlank c = true) (offset : Nat) :
    scan offset (c :: cs) = scan (offset + c.utf8Size) cs := by
  conv_lhs => unfold scan
  exact if_pos h

theorem scan_of_lexeme (hc : Text.isBlank c = false) (offset : Nat) :
    scan offset (c :: cs) =
      match lexeme c cs with
      | .unexpected => .error (.unexpectedChar c offset)
      | .unterminated => .error (.unterminatedText offset)
      | .token t rest =>
        (scan (offset + (byteLength (c :: cs) - byteLength rest)) rest).map (t :: ·) := by
  conv_lhs => unfold scan
  rw [if_neg (by simp [hc])]
  split <;> rename_i hl <;> rw [hl]

/-- These characters, in front of the rest, are read as the tokens: each token in quotes of some
kind and over where it ends, and nothing but blanks besides. -/
inductive Reads : List Char → List Token → List Char → Prop where
  | nil (rest : List Char) : Reads [] [] rest
  | blank {c : Char} {s rest : List Char} {ts : List Token} (blank : Text.isBlank c = true)
      (more : Reads s ts rest) : Reads (c :: s) ts rest
  | token {t : Token} {q : Quote} {s rest : List Char} {ts : List Token}
      (lexical : t.lexical = true) (stops : t.Stops q (s ++ rest)) (more : Reads s ts rest) :
      Reads (t.spelled q ++ s) (t :: ts) rest

theorem Reads.blanks (h : Reads s ts rest) (hblank : gap.all Text.isBlank = true) :
    Reads (gap ++ s) ts rest := by
  induction gap with
  | nil => exact h
  | cons c gap ih =>
    rw [List.all_cons, Bool.and_eq_true] at hblank
    exact .blank hblank.1 (ih hblank.2)

/-- The scanner takes what has been read as the tokens, and goes on with the rest at its offset. -/
theorem Reads.scan_append (h : Reads before ts rest) (offset : Nat) :
    scan offset (before ++ rest) =
      (scan (offset + Text.byteSize before) rest).map (ts ++ ·) := by
  induction h generalizing offset with
  | nil rest =>
    have hsize : Text.byteSize [] = 0 := Text.byteSize_eq_zero_iff.mpr rfl
    rw [hsize, Nat.add_zero, List.nil_append]
    cases scan offset rest <;> rfl
  | @blank c s rest ts hc _ ih =>
    rw [List.cons_append, scan_of_isBlank hc, ih, Text.byteSize_cons, Nat.add_assoc]
  | @token t q s rest ts ht hstops _ ih =>
    obtain ⟨c, cs, hcs, hc, -, hread⟩ := Token.lexeme_spelled ht hstops
    have hsize : byteLength (c :: cs) - byteLength (s ++ rest) = Text.byteSize (t.spelled q) := by
      simp only [← hcs, byteLength_eq_byteSize, Text.byteSize_append]
      omega
    rw [List.append_assoc, hcs, scan_of_lexeme hc, hread]
    simp only [hsize, ih, Text.byteSize_append, Nat.add_assoc]
    cases scan (offset + (Text.byteSize (t.spelled q) + Text.byteSize s)) rest <;> rfl

theorem Reads.scan_eq_ok (h : Reads s ts []) (offset : Nat) : scan offset s = .ok ts := by
  have hread := h.scan_append offset
  rw [List.append_nil] at hread
  rw [hread, scan_nil]
  exact congrArg Except.ok (List.append_nil ts)

end Scanning

/-- Tokens of which none runs into the next one are told apart, with blanks between them or
without. -/
structure Legible (ts : List Token) : Prop where
  ne_nil : ts ≠ []
  lexical : ∀ t ∈ ts, t.lexical = true
  apart : ts.IsChain fun t u => t.runsInto u = false

theorem Legible.tail {t u : Token} {ts : List Token} (h : Legible (t :: u :: ts)) :
    Legible (u :: ts) where
  ne_nil := List.cons_ne_nil u ts
  lexical v hv := h.lexical v (List.mem_cons_of_mem t hv)
  apart := (List.isChain_cons_cons.mp h.apart).2

theorem unwrapped_of_ne {c : Char} (h : c ≠ '$') (cs : List Char) :
    unwrapped (c :: cs) = c :: cs := by
  simp [unwrapped, Text.stripStart?, Ne.symm h]

theorem unwrapped_wrapped (s : List Char) :
    unwrapped (['$', '{', '{'] ++ s ++ ['}', '}']) = Text.trimmed s := by
  have hstart : Text.stripStart? ['$', '{', '{'] (['$', '{', '{'] ++ s ++ ['}', '}']) =
      some (s ++ ['}', '}']) :=
    Text.stripStart?_eq_some_iff.mpr (List.append_assoc _ _ _)
  have hend : Text.stripEnd? ['}', '}'] (s ++ ['}', '}']) = some s :=
    Text.stripEnd?_eq_some_iff.mpr rfl
  rw [unwrapped, hstart, Option.bind_some, hend]

namespace Layout

variable (y : Layout) {t u : Token} {ts : List Token}

theorem inked_cons (i : Nat) (t : Token) (ts : List Token) :
    ∃ rest, y.inked i (t :: ts) = t.spelled (y.quote i) ++ rest := by
  cases ts with
  | nil => exact ⟨[], (List.append_nil _).symm⟩
  | cons u ts => exact ⟨_, List.append_assoc _ _ _⟩

/-- Between two tokens that do not run into each other, no blank is needed. -/
theorem halts_gap (hu : u.lexical = true) (h : t.runsInto u = false) (i : Nat) :
    t.Halts ((y.gap i).chars ++ y.inked i (u :: ts)) := by
  obtain ⟨rest, hrest⟩ := y.inked_cons i u ts
  rw [hrest]
  cases hchars : (y.gap i).chars with
  | nil => exact Token.halts_spelled hu h _ rest
  | cons c chars =>
    have hblank := (y.gap i).blank
    rw [hchars, List.all_cons, Bool.and_eq_true] at hblank
    rintro d ⟨⟩
    exact t.takes_of_isBlank hblank.1

theorem reads_inked (h : Legible ts) (i : Nat) : Reads (y.inked i ts) ts [] := by
  induction ts generalizing i with
  | nil => exact absurd rfl h.ne_nil
  | cons t ts ih =>
    have ht : t.lexical = true := h.lexical t (by simp)
    cases ts with
    | nil =>
      rw [inked, ← List.append_nil (t.spelled _)]
      exact .token ht (t.halts_nil.stops _) (.nil [])
    | cons u ts =>
      have hapart : t.runsInto u = false := (List.isChain_cons_cons.mp h.apart).1
      have hover : t.Halts ((y.gap (i + 1)).chars ++ y.inked (i + 1) (u :: ts)) :=
        y.halts_gap (h.lexical u (by simp)) hapart (i + 1)
      rw [inked, List.append_assoc]
      refine .token ht ?_ ((ih h.tail (i + 1)).blanks (y.gap (i + 1)).blank)
      rw [List.append_nil]
      exact hover.stops _

theorem solid_inked (h : Legible ts) (i : Nat) : Text.Solid (y.inked i ts) := by
  induction ts generalizing i with
  | nil => exact absurd rfl h.ne_nil
  | cons t ts ih =>
    have ht := Token.solid_spelled (h.lexical t (by simp)) (y.quote i)
    cases ts with
    | nil => exact ht
    | cons u ts => exact ht.append (ih h.tail (i + 1)) _

/-- Whatever stands around the tokens is taken off again: blanks, and the wrapper. -/
theorem bodyOf_source (h : Legible ts) : bodyOf (y.source ts) = y.inked 0 ts := by
  have htrimmed : Text.trimmed (y.body ts) = y.inked 0 ts :=
    (y.solid_inked h 0).trimmed (y.gap 0).blank (y.gap ts.length).blank
  unfold source
  split
  · obtain ⟨t, ts, rfl⟩ := List.exists_cons_of_ne_nil h.ne_nil
    obtain ⟨c, cs, hcs, -, hc, -⟩ :=
      Token.lexeme_spelled (h.lexical t (by simp)) (t.halts_nil.stops (y.quote 0))
    obtain ⟨rest, hrest⟩ := y.inked_cons 0 t ts
    rw [bodyOf, String.toList_ofList, htrimmed, hrest, ← List.append_nil (t.spelled _), hcs]
    exact unwrapped_of_ne hc _
  · rename_i before after _
    have hwrapped : Text.Solid (['$', '{', '{'] ++ y.body ts ++ ['}', '}']) :=
      (Text.solid_of_any_eq_false (List.cons_ne_nil _ _) (by decide)).append
        (Text.solid_of_any_eq_false (List.cons_ne_nil _ _) (by decide)) _
    rw [bodyOf, String.toList_ofList, hwrapped.trimmed before.blank after.blank,
      unwrapped_wrapped, htrimmed]

theorem scan_source (h : Legible ts) : scan 0 (bodyOf (y.source ts)) = .ok ts := by
  rw [y.bodyOf_source h]
  exact (y.reads_inked h 0).scan_eq_ok 0

end Layout

end GatedPipeline.Condition
