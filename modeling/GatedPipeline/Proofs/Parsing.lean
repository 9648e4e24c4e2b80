import GatedPipeline.Proofs.BuiltGraph
import GatedPipeline.Proofs.Grammar

namespace GatedPipeline.Condition

open JobGraph (bind_eq_ok)

/-- What a parser takes off the front is a phrase, and what it gives is the meaning of the
phrase. -/
def Explains {T α : Type} (tokens : T → List Token) (meaning : T → α)
    (parser : List Token → Except Error (α × List Token)) : Prop :=
  ∀ ts a rest, parser ts = .ok (a, rest) → ∃ t, ts = tokens t ++ rest ∧ a = meaning t

/-- One or more arguments and the parenthesis that closes behind them. -/
def argumentTokens (first : Disjunction) : List Disjunction → List Token
  | [] => first.tokens ++ [.rightParen]
  | second :: more => first.tokens ++ .comma :: argumentTokens second more

/-- The parsers tell phrases as long as their calls do not nest more deeply than `n`. -/
structure Faithful (n : Nat) : Prop where
  or : Explains Disjunction.tokens Disjunction.expr (parseOr n)
  orMore : ∀ l, Explains Disjuncts.tokens (·.onto l) (parseOrMore n l)
  and : Explains Conjunction.tokens Conjunction.expr (parseAnd n)
  andMore : ∀ l, Explains Conjuncts.tokens (·.onto l) (parseAndMore n l)
  unary : Explains Negation.tokens Negation.expr (parseUnary n)
  comparison : Explains Comparison.tokens Comparison.expr (parseComparison n)
  primary : Explains Primary.tokens Primary.expr (parsePrimary n)
  args : Explains (fun a : Disjunction × List Disjunction => argumentTokens a.1 a.2)
    (fun a => (a.1 :: a.2).map Disjunction.expr) (parseArgs n)

theorem faithful_zero : Faithful 0 where
  or := fun _ _ _ h => nomatch h
  orMore := fun l ts a rest h => by
    simp only [parseOrMore, Except.ok.injEq, Prod.mk.injEq] at h
    exact ⟨.nil, h.2, h.1.symm⟩
  and := fun _ _ _ h => nomatch h
  andMore := fun l ts a rest h => by
    simp only [parseAndMore, Except.ok.injEq, Prod.mk.injEq] at h
    exact ⟨.nil, h.2, h.1.symm⟩
  unary := fun _ _ _ h => nomatch h
  comparison := fun _ _ _ h => nomatch h
  primary := fun _ _ _ h => nomatch h
  args := fun _ _ _ h => nomatch h

theorem expect_eq_ok {t : Token} {ts rest : List Token} (h : expect t ts = .ok rest) :
    ts = t :: rest := by
  cases ts with
  | nil => cases h
  | cons u ts =>
    simp only [expect] at h
    split at h
    · rename_i hu
      rw [hu, Except.ok.inj h]
    · cases h

theorem makeCall_eq_ok {f : Function} {args : List Expr} {e : Expr} (h : makeCall f args = .ok e) :
    ∃ subject part, args = [subject, part] ∧ e = .call f subject part := by
  match args with
  | [subject, part] => exact ⟨subject, part, rfl, (Except.ok.inj h).symm⟩
  | [] | [_] | _ :: _ :: _ :: _ => cases h

theorem Function.name_of_ofName? {name : String} {f : Function} (h : ofName? name = some f) :
    name = f.name := by
  unfold ofName? at h
  repeat' split at h
  all_goals cases h
  all_goals assumption

/-- The names that stand for a value. -/
theorem phrase_of_identValue? {name : String} {e : Expr} (h : identValue? name = some e) :
    ∃ p : Primary, [.ident name] = p.tokens ∧ e = p.expr := by
  unfold identValue? at h
  repeat' split at h
  all_goals cases h
  · rename_i hname
    exact ⟨.truth true, by rw [hname]; rfl, rfl⟩
  · rename_i hname
    exact ⟨.truth false, by rw [hname]; rfl, rfl⟩
  · rename_i hname
    rcases hname with hname | hname
    · exact ⟨.field .gitRef false, by rw [hname]; rfl, rfl⟩
    · exact ⟨.field .gitRef true, by rw [hname]; rfl, rfl⟩
  · rename_i hname
    rcases hname with hname | hname
    · exact ⟨.field .refName false, by rw [hname]; rfl, rfl⟩
    · exact ⟨.field .refName true, by rw [hname]; rfl, rfl⟩
  · rename_i hname
    rcases hname with hname | hname
    · exact ⟨.field .event false, by rw [hname]; rfl, rfl⟩
    · exact ⟨.field .event true, by rw [hname]; rfl, rfl⟩

theorem ofName?_name (f : Function) : Function.ofName? f.name = some f := by
  cases f <;> decide

theorem identValue?_name (f : Field) (full : Bool) :
    identValue? (f.name full) = some (.field f) := by
  cases f <;> cases full <;> decide

theorem identValue?_truthName (b : Bool) : identValue? (truthName b) = some (.truth b) := by
  cases b <;> decide

section Steps

variable {n : Nat} {l : Expr} {t : Token} {ts us vs : List Token}

theorem parseOrMore_or : parseOrMore (n + 1) l (.or :: ts) =
    (parseAnd n ts >>= fun r => parseOrMore n (.or l r.1) r.2) := rfl

theorem parseOrMore_of_ends (h : Ends 1 ts) : parseOrMore n l ts = .ok (l, ts) := by
  unfold parseOrMore
  split
  · exact absurd (ends_cons.mp h) (by decide)
  · rfl

theorem parseAndMore_and : parseAndMore (n + 1) l (.and :: ts) =
    (parseUnary n ts >>= fun r => parseAndMore n (.and l r.1) r.2) := rfl

theorem parseAndMore_of_ends (h : Ends 2 ts) : parseAndMore n l ts = .ok (l, ts) := by
  unfold parseAndMore
  split
  · exact absurd (ends_cons.mp h) (by decide)
  · rfl

theorem parseComparison_of_ends {p : Expr} (hp : parsePrimary n ts = .ok (p, us)) (h : Ends 3 us) :
    parseComparison (n + 1) ts = .ok (p, us) := by
  rw [parseComparison, hp]
  match us with
  | .eq :: us | .ne :: us => exact absurd (ends_cons.mp h) (by decide)
  | [] | .text _ :: _ | .ident _ :: _ | .leftParen :: _ | .rightParen :: _ | .comma :: _
  | .not :: _ | .and :: _ | .or :: _ => rfl

theorem parseComparison_comparing {l r : Expr} {equal : Bool}
    (hl : parsePrimary n ts = .ok (l, .comparing equal :: us))
    (hr : parsePrimary n us = .ok (r, vs)) :
    parseComparison (n + 1) ts = .ok (if equal then .eq l r else .ne l r, vs) := by
  rw [parseComparison, hl]
  cases equal with
  | true => exact congrArg (· >>= fun r => Except.ok (Expr.eq l r.1, r.2)) hr
  | false => exact congrArg (· >>= fun r => Except.ok (Expr.ne l r.1, r.2)) hr

/-- A name that is not called stands for its value. -/
theorem parsePrimary_ident {name : String} {e : Expr} (h : Ends 4 ts)
    (hname : identValue? name = some e) :
    parsePrimary (n + 1) (.ident name :: ts) = .ok (e, ts) := by
  rw [parsePrimary, hname]
  · exact Nat.succ_ne_zero n
  · exact fun _ us _ hts => absurd (ends_cons.mp (hts ▸ h)) (by decide)

/-- A call is read with the two arguments that its parentheses hold. -/
theorem parsePrimary_call {f : Function} {subject part : Expr}
    (hts : ∀ us, ts ≠ .rightParen :: us) (h : parseArgs n ts = .ok ([subject, part], us)) :
    parsePrimary (n + 1) (.ident f.name :: .leftParen :: ts) = .ok (.call f subject part, us) := by
  rw [parsePrimary, ofName?_name]
  dsimp only
  split
  · exact absurd rfl (hts _)
  · rw [h]
    rfl

theorem parseUnary_not : parseUnary (n + 1) (.not :: ts) =
    (parseUnary n ts >>= fun r => .ok (.not r.1, r.2)) := rfl

theorem parseUnary_of_ne (h : ∀ us, ts ≠ .not :: us) :
    parseUnary (n + 1) ts = parseComparison n ts := by
  rw [parseUnary]
  exact h

end Steps

section Faithful

variable {n : Nat} (h : Faithful n)

include h

theorem Faithful.or_succ : Explains Disjunction.tokens Disjunction.expr (parseOr (n + 1)) := by
  intro ts e rest hp
  rw [parseOr] at hp
  obtain ⟨⟨l, behind⟩, hl, hp⟩ := bind_eq_ok hp
  obtain ⟨first, rfl, rfl⟩ := h.and _ _ _ hl
  obtain ⟨more, rfl, rfl⟩ := h.orMore _ _ _ _ hp
  exact ⟨.mk first more, by rw [Disjunction.tokens, List.append_assoc], rfl⟩

theorem Faithful.orMore_succ (l : Expr) :
    Explains Disjuncts.tokens (·.onto l) (parseOrMore (n + 1) l) := by
  intro ts e rest hp
  by_cases hor : ∃ us, ts = .or :: us
  · obtain ⟨us, rfl⟩ := hor
    rw [parseOrMore_or] at hp
    obtain ⟨⟨r, behind⟩, hr, hp⟩ := bind_eq_ok hp
    obtain ⟨next, rfl, rfl⟩ := h.and _ _ _ hr
    obtain ⟨more, rfl, rfl⟩ := h.orMore _ _ _ _ hp
    exact ⟨.cons next more, by rw [Disjuncts.tokens, List.cons_append, List.append_assoc], rfl⟩
  · rw [parseOrMore] at hp
    · obtain ⟨rfl, rfl⟩ := Prod.mk.inj (Except.ok.inj hp)
      exact ⟨.nil, rfl, rfl⟩
    · exact fun _ us _ hts => hor ⟨us, hts⟩

theorem Faithful.and_succ : Explains Conjunction.tokens Conjunction.expr (parseAnd (n + 1)) := by
  intro ts e rest hp
  rw [parseAnd] at hp
  obtain ⟨⟨l, behind⟩, hl, hp⟩ := bind_eq_ok hp
  obtain ⟨first, rfl, rfl⟩ := h.unary _ _ _ hl
  obtain ⟨more, rfl, rfl⟩ := h.andMore _ _ _ _ hp
  exact ⟨.mk first more, by rw [Conjunction.tokens, List.append_assoc], rfl⟩

theorem Faithful.andMore_succ (l : Expr) :
    Explains Conjuncts.tokens (·.onto l) (parseAndMore (n + 1) l) := by
  intro ts e rest hp
  by_cases hand : ∃ us, ts = .and :: us
  · obtain ⟨us, rfl⟩ := hand
    rw [parseAndMore_and] at hp
    obtain ⟨⟨r, behind⟩, hr, hp⟩ := bind_eq_ok hp
    obtain ⟨next, rfl, rfl⟩ := h.unary _ _ _ hr
    obtain ⟨more, rfl, rfl⟩ := h.andMore _ _ _ _ hp
    exact ⟨.cons next more, by rw [Conjuncts.tokens, List.cons_append, List.append_assoc], rfl⟩
  · rw [parseAndMore] at hp
    · obtain ⟨rfl, rfl⟩ := Prod.mk.inj (Except.ok.inj hp)
      exact ⟨.nil, rfl, rfl⟩
    · exact fun _ us _ hts => hand ⟨us, hts⟩

theorem Faithful.unary_succ : Explains Negation.tokens Negation.expr (parseUnary (n + 1)) := by
  intro ts e rest hp
  by_cases hnot : ∃ us, ts = .not :: us
  · obtain ⟨us, rfl⟩ := hnot
    rw [parseUnary_not] at hp
    obtain ⟨⟨inner, behind⟩, hi, hp⟩ := bind_eq_ok hp
    obtain ⟨inner, rfl, rfl⟩ := h.unary _ _ _ hi
    cases hp
    exact ⟨.not inner, rfl, rfl⟩
  · rw [parseUnary_of_ne fun us hts => hnot ⟨us, hts⟩] at hp
    obtain ⟨c, hc, he⟩ := h.comparison _ _ _ hp
    exact ⟨.plain c, hc, he⟩

theorem Faithful.comparison_succ :
    Explains Comparison.tokens Comparison.expr (parseComparison (n + 1)) := by
  intro ts e rest hp
  rw [parseComparison] at hp
  obtain ⟨⟨l, behind⟩, hl, hp⟩ := bind_eq_ok hp
  obtain ⟨l, rfl, rfl⟩ := h.primary _ _ _ hl
  dsimp only at hp
  split at hp
  · obtain ⟨⟨r, behind'⟩, hr, hp⟩ := bind_eq_ok hp
    obtain ⟨r, rfl, rfl⟩ := h.primary _ _ _ hr
    cases hp
    exact ⟨.compare l true r, by rw [Comparison.tokens, List.append_assoc]; rfl, rfl⟩
  · obtain ⟨⟨r, behind'⟩, hr, hp⟩ := bind_eq_ok hp
    obtain ⟨r, rfl, rfl⟩ := h.primary _ _ _ hr
    cases hp
    exact ⟨.compare l false r, by rw [Comparison.tokens, List.append_assoc]; rfl, rfl⟩
  · cases hp
    exact ⟨.plain l, rfl, rfl⟩

theorem Faithful.args_succ :
    Explains (fun a : Disjunction × List Disjunction => argumentTokens a.1 a.2)
      (fun a => (a.1 :: a.2).map Disjunction.expr) (parseArgs (n + 1)) := by
  intro ts es rest hp
  rw [parseArgs] at hp
  obtain ⟨⟨e, behind⟩, he, hp⟩ := bind_eq_ok hp
  obtain ⟨first, rfl, rfl⟩ := h.or _ _ _ he
  dsimp only at hp
  split at hp
  · obtain ⟨⟨es', behind'⟩, hes, hp⟩ := bind_eq_ok hp
    obtain ⟨⟨second, more⟩, rfl, rfl⟩ := h.args _ _ _ hes
    cases hp
    exact ⟨(first, second :: more), by simp [argumentTokens], rfl⟩
  · obtain ⟨behind', hclose, hp⟩ := bind_eq_ok hp
    cases hp
    exact ⟨(first, []), by simp [argumentTokens, expect_eq_ok hclose], rfl⟩

/-- A call is explained where exactly two arguments have been read. -/
theorem Faithful.call_succ {name : String} {ts rest : List Token} {e : Expr}
    (hp : parsePrimary (n + 1) (.ident name :: .leftParen :: ts) = .ok (e, rest)) :
    ∃ p : Primary, .ident name :: .leftParen :: ts = p.tokens ++ rest ∧ e = p.expr := by
  rw [parsePrimary] at hp
  split at hp
  · cases hp
  · rename_i f hf
    dsimp only at hp
    split at hp
    · obtain ⟨⟨args, behind⟩, hargs, hp⟩ := bind_eq_ok hp
      cases hargs
      cases hp
    · obtain ⟨⟨args, behind⟩, hargs, hp⟩ := bind_eq_ok hp
      obtain ⟨call, hcall, hp⟩ := bind_eq_ok hp
      obtain ⟨subject, part, rfl, rfl⟩ := makeCall_eq_ok hcall
      cases hp
      obtain ⟨⟨first, more⟩, rfl, hexprs⟩ := h.args _ _ _ hargs
      match more with
      | [second] =>
        simp only [List.map_cons, List.map_nil, List.cons.injEq, and_true] at hexprs
        refine ⟨.call f first second, ?_, by rw [hexprs.1, hexprs.2]; rfl⟩
        simp [argumentTokens, Primary.tokens, Function.name_of_ofName? hf]
      | [] | _ :: _ :: _ => simp at hexprs

theorem Faithful.primary_succ : Explains Primary.tokens Primary.expr (parsePrimary (n + 1)) := by
  intro ts e rest hp
  match ts with
  | .text s :: ts =>
    cases hp
    exact ⟨.text s, rfl, rfl⟩
  | .leftParen :: ts =>
    rw [parsePrimary] at hp
    obtain ⟨⟨inner, behind⟩, hi, hp⟩ := bind_eq_ok hp
    obtain ⟨inner, rfl, rfl⟩ := h.or _ _ _ hi
    obtain ⟨behind', hclose, hp⟩ := bind_eq_ok hp
    cases hp
    exact ⟨.group inner, by simp [Primary.tokens, expect_eq_ok hclose], rfl⟩
  | .ident name :: ts =>
    by_cases hcall : ∃ us, ts = .leftParen :: us
    · obtain ⟨us, rfl⟩ := hcall
      exact h.call_succ hp
    · rw [parsePrimary] at hp
      · split at hp
        · rename_i hvalue
          obtain ⟨p, hp', he⟩ := phrase_of_identValue? hvalue
          cases hp
          exact ⟨p, by rw [← hp']; rfl, he⟩
        · cases hp
      · exact Nat.succ_ne_zero n
      · exact fun _ us _ hts => hcall ⟨us, hts⟩
  | [] | .rightParen :: _ | .comma :: _ | .not :: _ | .and :: _ | .or :: _ | .eq :: _ | .ne :: _ =>
    cases hp

end Faithful

/-- However deeply the calls may nest, the parsers tell phrases. -/
theorem faithful (n : Nat) : Faithful n := by
  induction n with
  | zero => exact faithful_zero
  | succ n ih =>
    exact ⟨ih.or_succ, ih.orMore_succ, ih.and_succ, ih.andMore_succ, ih.unary_succ,
      ih.comparison_succ, ih.primary_succ, ih.args_succ⟩

mutual

/-- A phrase is read off the front of what does not go on with it. The bound on the calls is spent
at most eight times for each token: from one parenthesis to the next there are six kinds of phrases,
and the arguments of a call. -/
theorem Disjunction.parseOr_tokens (d : Disjunction) {rest : List Token} (h : Ends 1 rest) {n : Nat}
    (hn : 8 * d.tokens.length ≤ n + 3) : parseOr n (d.tokens ++ rest) = .ok (d.expr, rest) := by
  have hpos := d.opened.length_pos
  obtain ⟨n, rfl⟩ : ∃ m, n = m + 1 := ⟨n - 1, by omega⟩
  match d with
  | .mk first more =>
    have hfirst := first.opened.length_pos
    simp only [Disjunction.tokens, List.length_append] at hn
    rw [Disjunction.tokens, List.append_assoc, parseOr,
      first.parseAnd_tokens (more.ends h) (by omega)]
    exact more.parseOrMore_tokens first.expr h (by omega)
termination_by structural d

theorem Disjuncts.parseOrMore_tokens (ds : Disjuncts) (l : Expr) {rest : List Token}
    (h : Ends 1 rest) {n : Nat} (hn : 8 * ds.tokens.length ≤ n) :
    parseOrMore n l (ds.tokens ++ rest) = .ok (ds.onto l, rest) := by
  match ds with
  | .nil => exact parseOrMore_of_ends h
  | .cons next more =>
    simp only [Disjuncts.tokens, List.length_append, List.length_cons] at hn
    obtain ⟨n, rfl⟩ : ∃ m, n = m + 1 := ⟨n - 1, by omega⟩
    rw [Disjuncts.tokens, List.cons_append, List.append_assoc, parseOrMore_or,
      next.parseAnd_tokens (more.ends h) (by omega)]
    exact more.parseOrMore_tokens (.or l next.expr) h (by omega)
termination_by structural ds

theorem Conjunction.parseAnd_tokens (c : Conjunction) {rest : List Token} (h : Ends 2 rest)
    {n : Nat} (hn : 8 * c.tokens.length ≤ n + 4) :
    parseAnd n (c.tokens ++ rest) = .ok (c.expr, rest) := by
  have hpos := c.opened.length_pos
  obtain ⟨n, rfl⟩ : ∃ m, n = m + 1 := ⟨n - 1, by omega⟩
  match c with
  | .mk first more =>
    have hfirst := first.opened.length_pos
    simp only [Conjunction.tokens, List.length_append] at hn
    rw [Conjunction.tokens, List.append_assoc, parseAnd,
      first.parseUnary_tokens (more.ends h) (by omega)]
    exact more.parseAndMore_tokens first.expr h (by omega)
termination_by structural c

theorem Conjuncts.parseAndMore_tokens (cs : Conjuncts) (l : Expr) {rest : List Token}
    (h : Ends 2 rest) {n : Nat} (hn : 8 * cs.tokens.length ≤ n) :
    parseAndMore n l (cs.tokens ++ rest) = .ok (cs.onto l, rest) := by
  match cs with
  | .nil => exact parseAndMore_of_ends h
  | .cons next more =>
    simp only [Conjuncts.tokens, List.length_append, List.length_cons] at hn
    obtain ⟨n, rfl⟩ : ∃ m, n = m + 1 := ⟨n - 1, by omega⟩
    rw [Conjuncts.tokens, List.cons_append, List.append_assoc, parseAndMore_and,
      next.parseUnary_tokens (more.ends h) (by omega)]
    exact more.parseAndMore_tokens (.and l next.expr) h (by omega)
termination_by structural cs

theorem Negation.parseUnary_tokens (m : Negation) {rest : List Token} (h : Ends 3 rest)
    {n : Nat} (hn : 8 * m.tokens.length ≤ n + 5) :
    parseUnary n (m.tokens ++ rest) = .ok (m.expr, rest) := by
  have hpos := m.opened.length_pos
  obtain ⟨n, rfl⟩ : ∃ k, n = k + 1 := ⟨n - 1, by omega⟩
  match m with
  | .not inner =>
    simp only [Negation.tokens, List.length_cons] at hn
    rw [Negation.tokens, List.cons_append, parseUnary_not,
      inner.parseUnary_tokens h (by omega)]
    rfl
  | .plain c =>
    rw [Negation.tokens, parseUnary_of_ne fun us => c.tokens_ne us rest]
    exact c.parseComparison_tokens h (by rw [Negation.tokens] at hn; omega)
termination_by structural m

theorem Comparison.parseComparison_tokens (c : Comparison) {rest : List Token} (h : Ends 3 rest)
    {n : Nat} (hn : 8 * c.tokens.length ≤ n + 6) :
    parseComparison n (c.tokens ++ rest) = .ok (c.expr, rest) := by
  have hpos := c.opened.length_pos
  obtain ⟨n, rfl⟩ : ∃ m, n = m + 1 := ⟨n - 1, by omega⟩
  match c with
  | .plain p =>
    rw [Comparison.tokens] at hn ⊢
    exact parseComparison_of_ends (p.parsePrimary_tokens (h.mono (by decide)) (by omega)) h
  | .compare l equal r =>
    have hl := l.opened.length_pos
    have hr := r.opened.length_pos
    simp only [Comparison.tokens, List.length_append, List.length_cons] at hn
    rw [Comparison.tokens, List.append_assoc, List.cons_append]
    exact parseComparison_comparing (l.parsePrimary_tokens (by simp) (by omega))
      (r.parsePrimary_tokens (h.mono (by decide)) (by omega))
termination_by structural c

theorem Primary.parsePrimary_tokens (p : Primary) {rest : List Token} (h : Ends 4 rest)
    {n : Nat} (hn : 8 * p.tokens.length ≤ n + 7) :
    parsePrimary n (p.tokens ++ rest) = .ok (p.expr, rest) := by
  have hpos := p.opened.length_pos
  obtain ⟨n, rfl⟩ : ∃ m, n = m + 1 := ⟨n - 1, by omega⟩
  match p with
  | .text s => rfl
  | .truth b => exact parsePrimary_ident h (identValue?_truthName b)
  | .field f full => exact parsePrimary_ident h (identValue?_name f full)
  | .group inner =>
    simp only [Primary.tokens, List.length_append, List.length_cons, List.length_nil] at hn
    rw [Primary.tokens, List.cons_append, List.append_assoc, parsePrimary,
      inner.parseOr_tokens (by simp [Token.binding]) (by omega)]
    rfl
  | .call f subject part =>
    have hsubject := subject.opened.length_pos
    have hpart := part.opened.length_pos
    simp only [Primary.tokens, List.length_append, List.length_cons, List.length_nil] at hn
    obtain ⟨n, rfl⟩ : ∃ m, n = m + 2 := ⟨n - 2, by omega⟩
    have hargs : parseArgs (n + 2)
        (subject.tokens ++ .comma :: (part.tokens ++ .rightParen :: rest)) =
          .ok ([subject.expr, part.expr], rest) := by
      rw [parseArgs, subject.parseOr_tokens (by simp [Token.binding]) (by omega)]
      dsimp only [bind, Except.bind]
      rw [parseArgs, part.parseOr_tokens (by simp [Token.binding]) (by omega)]
      rfl
    simp only [Primary.tokens, List.cons_append, List.append_assoc, List.nil_append]
    exact parsePrimary_call (subject.opened.ne rfl _) hargs
termination_by structural p

end

theorem Disjunction.parseTokens_tokens (d : Disjunction) : parseTokens d.tokens = .ok d.expr := by
  have hread := d.parseOr_tokens (ends_nil 1) (n := 8 * d.tokens.length + 8) (by omega)
  rw [List.append_nil] at hread
  have hne : d.tokens.isEmpty = false := by
    obtain ⟨t, us, hts, -⟩ := d.opened
    rw [hts]
    rfl
  rw [parseTokens, hne, hread]
  rfl

theorem exists_of_parseTokens {ts : List Token} {e : Expr} (h : parseTokens ts = .ok e) :
    ∃ d : Disjunction, d.tokens = ts ∧ d.expr = e := by
  rw [parseTokens] at h
  split at h
  · cases h
  · obtain ⟨⟨e, rest⟩, hread, h⟩ := bind_eq_ok h
    obtain ⟨d, rfl, rfl⟩ := (faithful _).or _ _ _ hread
    match rest with
    | [] =>
      cases h
      exact ⟨d, (List.append_nil _).symm, rfl⟩
    | t :: rest => cases h

/-- The parser accepts the tokens of a phrase and no others, and gives the expression of the one
phrase that has them. -/
theorem parseTokens_accepts (ts : List Token) :
    ((∃ e, parseTokens ts = .ok e) ↔ ∃ d : Disjunction, d.tokens = ts) ∧
      ∀ e, parseTokens ts = .ok e →
        ∃ d : Disjunction, (d.tokens = ts ∧ d.expr = e) ∧ ∀ d', d'.tokens = ts → d' = d := by
  refine ⟨⟨fun ⟨e, he⟩ => ?_, ?_⟩, fun e he => ?_⟩
  · obtain ⟨d, hd, -⟩ := exists_of_parseTokens he
    exact ⟨d, hd⟩
  · rintro ⟨d, rfl⟩
    exact ⟨d.expr, d.parseTokens_tokens⟩
  · obtain ⟨d, hd, hexpr⟩ := exists_of_parseTokens he
    exact ⟨d, ⟨hd, hexpr⟩, fun d' hd' => Disjunction.tokens_injective (hd'.trans hd.symm)⟩

/-- `!ref == 'a' && true || event` -/
def mixedTokens : List Token :=
  [.not, .ident "ref", .eq, .text "a", .and, .ident "true", .or, .ident "event"]

/-- The negation covers the comparison, and the conjunction stands within the disjunction. -/
def mixedExpr : Expr :=
  .or (.and (.not (.eq (.field .gitRef) (.text "a"))) (.truth true)) (.field .event)

theorem parseTokens_accepts_mixed :
    parseTokens mixedTokens = .ok mixedExpr ∧
      ∃ d : Disjunction, (d.tokens = mixedTokens ∧ d.expr = mixedExpr) ∧
        ∀ d', d'.tokens = mixedTokens → d' = d :=
  have hread : parseTokens mixedTokens = .ok mixedExpr := by rfl
  ⟨hread, (parseTokens_accepts mixedTokens).2 mixedExpr hread⟩

/-- Comparisons do not chain. -/
example : parseTokens [.text "a", .eq, .text "a", .eq, .text "a"] =
    .error (.unexpectedToken .theEnd (some .eq)) := by
  rfl

end GatedPipeline.Condition
