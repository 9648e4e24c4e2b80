import GatedPipeline.Proofs.Parsing
import GatedPipeline.Proofs.Spelling

namespace GatedPipeline.Condition

def Conjuncts.snoc : Conjuncts → Negation → Conjuncts
  | .nil, m => .cons m .nil
  | .cons next more, m => .cons next (more.snoc m)

def Disjuncts.snoc : Disjuncts → Conjunction → Disjuncts
  | .nil, c => .cons c .nil
  | .cons next more, c => .cons next (more.snoc c)

def Conjunction.snoc : Conjunction → Negation → Conjunction
  | .mk first more, m => .mk first (more.snoc m)

def Disjunction.snoc : Disjunction → Conjunction → Disjunction
  | .mk first more, c => .mk first (more.snoc c)

theorem Conjuncts.onto_snoc (more : Conjuncts) (m : Negation) (l : Expr) :
    (more.snoc m).onto l = .and (more.onto l) m.expr := by
  match more with
  | .nil => rfl
  | .cons next more => exact more.onto_snoc m (.and l next.expr)
termination_by structural more

theorem Disjuncts.onto_snoc (more : Disjuncts) (c : Conjunction) (l : Expr) :
    (more.snoc c).onto l = .or (more.onto l) c.expr := by
  match more with
  | .nil => rfl
  | .cons next more => exact more.onto_snoc c (.or l next.expr)
termination_by structural more

theorem Conjunction.expr_snoc (c : Conjunction) (m : Negation) :
    (c.snoc m).expr = .and c.expr m.expr := by
  obtain ⟨first, more⟩ := c
  exact more.onto_snoc m first.expr

theorem Disjunction.expr_snoc (d : Disjunction) (c : Conjunction) :
    (d.snoc c).expr = .or d.expr c.expr := by
  obtain ⟨first, more⟩ := d
  exact more.onto_snoc c first.expr

/-- A phrase of any kind. Where a tighter one is asked for, it is put in parentheses. -/
inductive Phrase where
  | disjunction (d : Disjunction)
  | conjunction (c : Conjunction)
  | negation (m : Negation)
  | comparison (c : Comparison)
  | primary (p : Primary)

namespace Phrase

def expr : Phrase → Expr
  | disjunction d => d.expr
  | conjunction c => c.expr
  | negation m => m.expr
  | comparison c => c.expr
  | primary p => p.expr

def asDisjunction : Phrase → Disjunction
  | disjunction d => d
  | conjunction c => .mk c .nil
  | negation m => .mk (.mk m .nil) .nil
  | comparison c => .mk (.mk (.plain c) .nil) .nil
  | primary p => .mk (.mk (.plain (.plain p)) .nil) .nil

def asPrimary : Phrase → Primary
  | primary p => p
  | φ => .group φ.asDisjunction

def asComparison : Phrase → Comparison
  | comparison c => c
  | φ => .plain φ.asPrimary

def asNegation : Phrase → Negation
  | negation m => m
  | φ => .plain φ.asComparison

def asConjunction : Phrase → Conjunction
  | conjunction c => c
  | φ => .mk φ.asNegation .nil

variable (φ : Phrase)

@[simp] theorem expr_asDisjunction : φ.asDisjunction.expr = φ.expr := by
  cases φ <;> rfl

@[simp] theorem expr_asPrimary : φ.asPrimary.expr = φ.expr := by
  cases φ <;> rfl

@[simp] theorem expr_asNegation : φ.asNegation.expr = φ.expr := by
  cases φ <;> rfl

@[simp] theorem expr_asConjunction : φ.asConjunction.expr = φ.expr := by
  cases φ <;> rfl

end Phrase

namespace Expr

def phrase : Expr → Phrase
  | text s => .primary (.text s)
  | truth b => .primary (.truth b)
  | field f => .primary (.field f false)
  | not e => .negation (.not e.phrase.asNegation)
  | and l r => .conjunction (l.phrase.asConjunction.snoc r.phrase.asNegation)
  | or l r => .disjunction (l.phrase.asDisjunction.snoc r.phrase.asConjunction)
  | eq l r => .comparison (.compare l.phrase.asPrimary true r.phrase.asPrimary)
  | ne l r => .comparison (.compare l.phrase.asPrimary false r.phrase.asPrimary)
  | call f subject part => .primary (.call f subject.phrase.asDisjunction part.phrase.asDisjunction)

/-- The expression with parentheses where its operators need them. -/
def written (e : Expr) : Disjunction := e.phrase.asDisjunction

theorem expr_phrase (e : Expr) : e.phrase.expr = e := by
  induction e with
  | text | truth | field => rfl
  | not e ih =>
    rw [phrase, Phrase.expr, Negation.expr, Phrase.expr_asNegation, ih]
  | and l r ihl ihr =>
    rw [phrase, Phrase.expr, Conjunction.expr_snoc, Phrase.expr_asConjunction,
      Phrase.expr_asNegation, ihl, ihr]
  | or l r ihl ihr =>
    rw [phrase, Phrase.expr, Disjunction.expr_snoc, Phrase.expr_asDisjunction,
      Phrase.expr_asConjunction, ihl, ihr]
  | eq l r ihl ihr | ne l r ihl ihr =>
    rw [phrase, Phrase.expr, Comparison.expr, Phrase.expr_asPrimary, Phrase.expr_asPrimary, ihl,
      ihr]
    rfl
  | call f subject part ihs ihp =>
    rw [phrase, Phrase.expr, Primary.expr, Phrase.expr_asDisjunction, Phrase.expr_asDisjunction,
      ihs, ihp]

theorem expr_written (e : Expr) : e.written.expr = e := by
  rw [written, Phrase.expr_asDisjunction, expr_phrase]

end Expr

def Token.closes : Token → Bool
  | .text _ | .ident _ | .rightParen => true
  | _ => false

/-- The token stands between two phrases. -/
def Token.joins : Token → Bool
  | .comma | .and | .or | .eq | .ne => true
  | _ => false

theorem Token.runsInto_of_joins {t : Token} (h : t.joins = true) (u : Token) :
    t.runsInto u = false := by
  cases t <;> first | rfl | cases h

theorem Token.runsInto_joins {t u : Token} (ht : t.closes = true) (hu : u.joins = true) :
    t.runsInto u = false := by
  cases t <;> cases ht <;> cases u <;> first | rfl | cases hu

theorem Token.not_runsInto {u : Token} (h : u.opens = true) : Token.not.runsInto u = false := by
  cases u <;> first | rfl | cases h

theorem Token.runsInto_rightParen (t : Token) : t.runsInto .rightParen = false := by
  cases t <;> rfl

theorem Token.lexical_of_joins {t : Token} (h : t.joins = true) : t.lexical = true := by
  cases t <;> first | rfl | cases h

structure Segment (ts : List Token) : Prop extends Legible ts where
  opens : ∀ t ∈ ts.head?, t.opens = true
  closes : ∀ t ∈ ts.getLast?, t.closes = true

namespace Segment

variable {t : Token} {ts us : List Token}

theorem single (hopens : t.opens = true) (hcloses : t.closes = true) (h : t.lexical = true) :
    Segment [t] where
  ne_nil := List.cons_ne_nil t []
  lexical := by simpa using h
  apart := List.isChain_singleton t
  opens := by simpa using hopens
  closes := by simpa using hcloses

theorem joined (h : Segment ts) (h' : Segment us) (ht : t.joins = true) :
    Segment (ts ++ t :: us) where
  ne_nil := by simp [h.ne_nil]
  lexical u hu := by
    rcases List.mem_append.mp hu with hu | hu
    · exact h.lexical u hu
    · rcases List.mem_cons.mp hu with rfl | hu
      · exact Token.lexical_of_joins ht
      · exact h'.lexical u hu
  apart := by
    refine List.isChain_append.mpr ⟨h.apart, ?_, fun u hu v hv => ?_⟩
    · exact List.isChain_cons.mpr ⟨fun u _ => Token.runsInto_of_joins ht u, h'.apart⟩
    · cases hv
      exact Token.runsInto_joins (h.closes u hu) ht
  opens := by
    rw [List.head?_append_of_ne_nil _ h.ne_nil]
    exact h.opens
  closes := by
    rw [List.getLast?_append_of_ne_nil _ (List.cons_ne_nil t us),
      List.getLast?_cons_of_ne_nil h'.ne_nil]
    exact h'.closes

theorem negated (h : Segment ts) : Segment (.not :: ts) where
  ne_nil := List.cons_ne_nil _ ts
  lexical u hu := by
    rcases List.mem_cons.mp hu with rfl | hu
    · rfl
    · exact h.lexical u hu
  apart := List.isChain_cons.mpr ⟨fun u hu => Token.not_runsInto (h.opens u hu), h.apart⟩
  opens := by rintro u ⟨⟩; rfl
  closes := by
    rw [List.getLast?_cons_of_ne_nil h.ne_nil]
    exact h.closes

theorem enclosed (h : Segment ts) : Segment (.leftParen :: (ts ++ [.rightParen])) where
  ne_nil := List.cons_ne_nil _ _
  lexical u hu := by
    simp only [List.mem_cons, List.mem_append, List.not_mem_nil, or_false] at hu
    rcases hu with rfl | hu | rfl
    · rfl
    · exact h.lexical u hu
    · rfl
  apart := by
    refine List.isChain_cons.mpr ⟨fun u _ => rfl, List.isChain_append.mpr
      ⟨h.apart, List.isChain_singleton _, fun u hu v hv => ?_⟩⟩
    cases hv
    exact Token.runsInto_rightParen u
  opens := by rintro u ⟨⟩; rfl
  closes := by
    rw [← List.cons_append, List.getLast?_concat]
    rintro u ⟨⟩
    rfl

theorem called {name : String} (h : Segment (.leftParen :: ts))
    (hname : (Token.ident name).lexical = true) : Segment (.ident name :: .leftParen :: ts) where
  ne_nil := List.cons_ne_nil _ _
  lexical u hu := by
    rcases List.mem_cons.mp hu with rfl | hu
    · exact hname
    · exact h.lexical u hu
  apart := List.isChain_cons_cons.mpr ⟨rfl, h.apart⟩
  opens := by rintro u ⟨⟩; rfl
  closes := by
    rw [List.getLast?_cons_of_ne_nil h.ne_nil]
    exact h.closes

end Segment

theorem Token.joins_comparing (equal : Bool) : (comparing equal).joins = true := by
  cases equal <;> rfl

theorem lexical_truthName (b : Bool) : (Token.ident (truthName b)).lexical = true := by
  cases b <;> decide

theorem lexical_fieldName (f : Field) (full : Bool) :
    (Token.ident (f.name full)).lexical = true := by
  cases f <;> cases full <;> decide

theorem lexical_functionName (f : Function) : (Token.ident f.name).lexical = true := by
  cases f <;> decide

mutual

theorem Disjunction.segment (d : Disjunction) : Segment d.tokens := by
  match d with
  | .mk first more => exact more.segment_append first.segment
termination_by structural d

theorem Disjuncts.segment_append (ds : Disjuncts) {ts : List Token} (h : Segment ts) :
    Segment (ts ++ ds.tokens) := by
  match ds with
  | .nil =>
    rw [Disjuncts.tokens, List.append_nil]
    exact h
  | .cons next more =>
    have hnext := more.segment_append (h.joined (t := .or) next.segment rfl)
    rwa [List.append_assoc, List.cons_append] at hnext
termination_by structural ds

theorem Conjunction.segment (c : Conjunction) : Segment c.tokens := by
  match c with
  | .mk first more => exact more.segment_append first.segment
termination_by structural c

theorem Conjuncts.segment_append (cs : Conjuncts) {ts : List Token} (h : Segment ts) :
    Segment (ts ++ cs.tokens) := by
  match cs with
  | .nil =>
    rw [Conjuncts.tokens, List.append_nil]
    exact h
  | .cons next more =>
    have hnext := more.segment_append (h.joined (t := .and) next.segment rfl)
    rwa [List.append_assoc, List.cons_append] at hnext
termination_by structural cs

theorem Negation.segment (m : Negation) : Segment m.tokens := by
  match m with
  | .not inner => exact inner.segment.negated
  | .plain c => exact c.segment
termination_by structural m

theorem Comparison.segment (c : Comparison) : Segment c.tokens := by
  match c with
  | .plain p => exact p.segment
  | .compare l equal r => exact l.segment.joined r.segment (Token.joins_comparing equal)
termination_by structural c

theorem Primary.segment (p : Primary) : Segment p.tokens := by
  match p with
  | .text s => exact .single rfl rfl rfl
  | .truth b => exact .single rfl rfl (lexical_truthName b)
  | .field f full => exact .single rfl rfl (lexical_fieldName f full)
  | .group inner => exact inner.segment.enclosed
  | .call f subject part =>
    have harguments := (subject.segment.joined (t := .comma) part.segment rfl).enclosed
    rw [List.append_assoc, List.cons_append] at harguments
    exact harguments.called (lexical_functionName f)
termination_by structural p

end

/-- What is written for an expression is read as this expression, whatever parentheses are added,
however it is laid out, and whatever its texts are. -/
theorem parse_written (e : Expr) :
    e.written.expr = e ∧
      ∀ d : Disjunction, d.expr = e → ∀ y : Layout, ∃ c : Condition,
        parse (y.source d.tokens) = .ok c ∧ c.expr = e ∧
          ∀ event, c.evaluate event = (e.eval event).holds := by
  refine ⟨e.expr_written, ?_⟩
  rintro d rfl y
  refine ⟨⟨Text.trim (y.source d.tokens), d.expr⟩, ?_, rfl, fun event => rfl⟩
  rw [parse, y.scan_source d.segment.toLegible]
  dsimp only [bind, Except.bind]
  rw [d.parseTokens_tokens]

/-- A no-break space in front of every second token, inside the wrapper. -/
def spacedLayout : Layout where
  gap i := if i % 2 = 0 then ⟨[], rfl⟩ else ⟨['\u00a0'], rfl⟩
  quote _ := .single
  wrapper := some (⟨['\n'], rfl⟩, ⟨[], rfl⟩)

/-- The disjunction needs parentheses, and the text holds a quote and the end of the wrapper. -/
def quotingExpr : Expr := .and (.or (.truth true) (.field .event)) (.text "it's \x7d\x7d")

example : spacedLayout.source quotingExpr.written.tokens =
    "\n$\x7b\x7b(\u00a0true||\u00a0event)\u00a0&&'it''s \x7d\x7d'\u00a0\x7d\x7d" := by
  decide

theorem parse_written_quoting :
    quotingExpr.written.expr = quotingExpr ∧
      ∃ c : Condition, parse (spacedLayout.source quotingExpr.written.tokens) = .ok c ∧
        c.expr = quotingExpr ∧
          ∀ event, c.evaluate event = (quotingExpr.eval event).holds :=
  have hexpr : quotingExpr.written.expr = quotingExpr := by rfl
  ⟨hexpr, (parse_written quotingExpr).2 quotingExpr.written hexpr spacedLayout⟩

end GatedPipeline.Condition
