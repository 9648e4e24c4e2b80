import GatedPipeline.Condition.Parser

namespace GatedPipeline.Condition

def truthName (b : Bool) : String := if b then "true" else "false"

/-- A field has a short name and a full one. -/
def Field.name : Field → Bool → String
  | .gitRef, full => if full then "github.ref" else "ref"
  | .refName, full => if full then "github.ref_name" else "ref_name"
  | .event, full => if full then "github.event_name" else "event"

mutual

/-- `or := and ('||' and)*` -/
inductive Disjunction where
  | mk (first : Conjunction) (more : Disjuncts)

inductive Disjuncts where
  | nil
  | cons (next : Conjunction) (more : Disjuncts)

/-- `and := unary ('&&' unary)*` -/
inductive Conjunction where
  | mk (first : Negation) (more : Conjuncts)

inductive Conjuncts where
  | nil
  | cons (next : Negation) (more : Conjuncts)

/-- `unary := '!' unary | comparison` -/
inductive Negation where
  | not (inner : Negation)
  | plain (c : Comparison)

/-- `comparison := primary (('==' | '!=') primary)?` -/
inductive Comparison where
  | plain (p : Primary)
  | compare (l : Primary) (equal : Bool) (r : Primary)

/-- `primary := string | true | false | field | '(' or ')' | function '(' or ',' or ')'` -/
inductive Primary where
  | text (s : String)
  | truth (b : Bool)
  | field (f : Field) (full : Bool)
  | group (inner : Disjunction)
  | call (f : Function) (subject part : Disjunction)

end

def Token.comparing (equal : Bool) : Token := if equal then .eq else .ne

mutual

def Disjunction.tokens : Disjunction → List Token
  | .mk first more => first.tokens ++ more.tokens

def Disjuncts.tokens : Disjuncts → List Token
  | .nil => []
  | .cons next more => .or :: (next.tokens ++ more.tokens)

def Conjunction.tokens : Conjunction → List Token
  | .mk first more => first.tokens ++ more.tokens

def Conjuncts.tokens : Conjuncts → List Token
  | .nil => []
  | .cons next more => .and :: (next.tokens ++ more.tokens)

def Negation.tokens : Negation → List Token
  | .not inner => .not :: inner.tokens
  | .plain c => c.tokens

def Comparison.tokens : Comparison → List Token
  | .plain p => p.tokens
  | .compare l equal r => l.tokens ++ Token.comparing equal :: r.tokens

def Primary.tokens : Primary → List Token
  | .text s => [.text s]
  | .truth b => [.ident (truthName b)]
  | .field f full => [.ident (f.name full)]
  | .group inner => .leftParen :: (inner.tokens ++ [.rightParen])
  | .call f subject part =>
    .ident f.name :: .leftParen :: (subject.tokens ++ .comma :: (part.tokens ++ [.rightParen]))

end

mutual

def Disjunction.expr : Disjunction → Expr
  | .mk first more => more.onto first.expr

/-- Joins the operands, from left to right, to what stands before them. -/
def Disjuncts.onto : Disjuncts → Expr → Expr
  | .nil, l => l
  | .cons next more, l => more.onto (.or l next.expr)

def Conjunction.expr : Conjunction → Expr
  | .mk first more => more.onto first.expr

def Conjuncts.onto : Conjuncts → Expr → Expr
  | .nil, l => l
  | .cons next more, l => more.onto (.and l next.expr)

def Negation.expr : Negation → Expr
  | .not inner => .not inner.expr
  | .plain c => c.expr

def Comparison.expr : Comparison → Expr
  | .plain p => p.expr
  | .compare l equal r => if equal then .eq l.expr r.expr else .ne l.expr r.expr

def Primary.expr : Primary → Expr
  | .text s => .text s
  | .truth b => .truth b
  | .field f _ => .field f
  | .group inner => inner.expr
  | .call f subject part => .call f subject.expr part.expr

end

/-- How tightly a token binds what stands before it to what comes next. -/
def Token.binding : Token → Nat
  | .or => 1
  | .and => 2
  | .eq | .ne => 3
  | .leftParen => 4
  | _ => 0

/-- Nothing of the given strength goes on here, nor anything that binds more tightly. -/
def Ends (strength : Nat) (rest : List Token) : Prop := ∀ t ∈ rest.head?, t.binding < strength

@[simp] theorem ends_nil (k : Nat) : Ends k [] := by simp [Ends]

@[simp] theorem ends_cons {k : Nat} {t : Token} {rest : List Token} :
    Ends k (t :: rest) ↔ t.binding < k := by
  simp [Ends]

theorem Ends.mono {k m : Nat} {rest : List Token} (h : Ends k rest) (hk : k ≤ m) : Ends m rest :=
  fun t ht => Nat.lt_of_lt_of_le (h t ht) hk

section Ends

variable {rest : List Token}

theorem Disjuncts.ends (h : Ends 1 rest) (more : Disjuncts) : Ends 2 (more.tokens ++ rest) := by
  cases more with
  | nil => exact h.mono (by decide)
  | cons next more => simp [tokens, Token.binding]

theorem Conjuncts.ends (h : Ends 2 rest) (more : Conjuncts) : Ends 3 (more.tokens ++ rest) := by
  cases more with
  | nil => exact h.mono (by decide)
  | cons next more => simp [tokens, Token.binding]

end Ends

def Token.opens : Token → Bool
  | .text _ | .ident _ | .leftParen | .not => true
  | _ => false

def Opened (ts : List Token) : Prop := ∃ t us, ts = t :: us ∧ t.opens = true

theorem Opened.append {ts : List Token} (h : Opened ts) (rest : List Token) :
    Opened (ts ++ rest) := by
  obtain ⟨t, us, rfl, ht⟩ := h
  exact ⟨t, us ++ rest, rfl, ht⟩

theorem Opened.length_pos {ts : List Token} (h : Opened ts) : 0 < ts.length := by
  obtain ⟨t, us, rfl, -⟩ := h
  exact Nat.succ_pos _

theorem Opened.ne {ts : List Token} (h : Opened ts) {t : Token} (ht : t.opens = false)
    (rest us : List Token) : ts ++ rest ≠ t :: us := by
  obtain ⟨u, vs, rfl, hu⟩ := h
  rintro he
  rw [(List.cons.inj he).1, ht] at hu
  cases hu

theorem Primary.opened (p : Primary) : Opened p.tokens := by
  cases p <;> exact ⟨_, _, rfl, rfl⟩

theorem Comparison.opened (c : Comparison) : Opened c.tokens := by
  cases c with
  | plain p => exact p.opened
  | compare l equal r => exact l.opened.append _

theorem Negation.opened (m : Negation) : Opened m.tokens := by
  cases m with
  | not inner => exact ⟨_, _, rfl, rfl⟩
  | plain c => exact c.opened

theorem Conjunction.opened (c : Conjunction) : Opened c.tokens := by
  obtain ⟨first, more⟩ := c
  exact first.opened.append _

theorem Disjunction.opened (d : Disjunction) : Opened d.tokens := by
  obtain ⟨first, more⟩ := d
  exact first.opened.append _

theorem Field.name_inj {f f' : Field} {full full' : Bool} (h : f.name full = f'.name full') :
    f = f' ∧ full = full' := by
  revert h
  cases f <;> cases f' <;> cases full <;> cases full' <;> decide

theorem Function.name_inj {f f' : Function} (h : f.name = f'.name) : f = f' := by
  revert h
  cases f <;> cases f' <;> decide

theorem truthName_inj {b b' : Bool} (h : truthName b = truthName b') : b = b' := by
  revert h
  cases b <;> cases b' <;> decide

theorem truthName_ne_name (b : Bool) (f : Field) (full : Bool) : truthName b ≠ f.name full := by
  cases b <;> cases f <;> cases full <;> decide

theorem Token.comparing_inj {equal equal' : Bool} (h : comparing equal = comparing equal') :
    equal = equal' := by
  revert h
  cases equal <;> cases equal' <;> decide

@[simp] theorem Token.binding_comparing (equal : Bool) : (comparing equal).binding = 3 := by
  cases equal <;> rfl

/-- No operand begins with a negation. -/
theorem Primary.tokens_ne (p : Primary) (ts rest : List Token) : p.tokens ++ rest ≠ .not :: ts := by
  cases p <;> simp [tokens]

theorem Comparison.tokens_ne (c : Comparison) (ts rest : List Token) :
    c.tokens ++ rest ≠ .not :: ts := by
  cases c with
  | plain p => exact p.tokens_ne ts rest
  | compare l equal r =>
    rw [tokens, List.append_assoc]
    exact l.tokens_ne ts _

/-- A name behind which no parenthesis opens is not called. -/
theorem Primary.ident_ne_call {name : String} {rest : List Token} (h : Ends 4 rest)
    (f : Function) (subject part : Disjunction) (rest' : List Token) :
    .ident name :: rest ≠ (Primary.call f subject part).tokens ++ rest' := by
  intro he
  rw [(List.cons.inj he).2] at h
  exact absurd (ends_cons.mp h) (by decide)

mutual

/-- Phrases of a kind that begin the same text are the same, provided that each ends where nothing
goes on with it. -/
theorem Disjunction.unique (d d' : Disjunction) {rest rest' : List Token} (h : Ends 1 rest)
    (h' : Ends 1 rest') (he : d.tokens ++ rest = d'.tokens ++ rest') : d = d' ∧ rest = rest' := by
  match d, d' with
  | .mk first more, .mk first' more' =>
    simp only [Disjunction.tokens, List.append_assoc] at he
    obtain ⟨rfl, hmore⟩ := first.unique first' (more.ends h) (more'.ends h') he
    obtain ⟨rfl, hrest⟩ := more.unique more' h h' hmore
    exact ⟨rfl, hrest⟩
termination_by structural d

theorem Disjuncts.unique (ds ds' : Disjuncts) {rest rest' : List Token} (h : Ends 1 rest)
    (h' : Ends 1 rest') (he : ds.tokens ++ rest = ds'.tokens ++ rest') :
    ds = ds' ∧ rest = rest' := by
  match ds, ds' with
  | .nil, .nil => exact ⟨rfl, he⟩
  | .nil, .cons next' more' =>
    simp only [Disjuncts.tokens, List.nil_append, List.cons_append] at he
    simp [he, Token.binding] at h
  | .cons next more, .nil =>
    simp only [Disjuncts.tokens, List.nil_append, List.cons_append] at he
    simp [← he, Token.binding] at h'
  | .cons next more, .cons next' more' =>
    simp only [Disjuncts.tokens, List.cons_append, List.append_assoc, List.cons.injEq,
      true_and] at he
    obtain ⟨rfl, hmore⟩ := next.unique next' (more.ends h) (more'.ends h') he
    obtain ⟨rfl, hrest⟩ := more.unique more' h h' hmore
    exact ⟨rfl, hrest⟩
termination_by structural ds

theorem Conjunction.unique (c c' : Conjunction) {rest rest' : List Token} (h : Ends 2 rest)
    (h' : Ends 2 rest') (he : c.tokens ++ rest = c'.tokens ++ rest') : c = c' ∧ rest = rest' := by
  match c, c' with
  | .mk first more, .mk first' more' =>
    simp only [Conjunction.tokens, List.append_assoc] at he
    obtain ⟨rfl, hmore⟩ := first.unique first' (more.ends h) (more'.ends h') he
    obtain ⟨rfl, hrest⟩ := more.unique more' h h' hmore
    exact ⟨rfl, hrest⟩
termination_by structural c

theorem Conjuncts.unique (cs cs' : Conjuncts) {rest rest' : List Token} (h : Ends 2 rest)
    (h' : Ends 2 rest') (he : cs.tokens ++ rest = cs'.tokens ++ rest') :
    cs = cs' ∧ rest = rest' := by
  match cs, cs' with
  | .nil, .nil => exact ⟨rfl, he⟩
  | .nil, .cons next' more' =>
    simp only [Conjuncts.tokens, List.nil_append, List.cons_append] at he
    simp [he, Token.binding] at h
  | .cons next more, .nil =>
    simp only [Conjuncts.tokens, List.nil_append, List.cons_append] at he
    simp [← he, Token.binding] at h'
  | .cons next more, .cons next' more' =>
    simp only [Conjuncts.tokens, List.cons_append, List.append_assoc, List.cons.injEq,
      true_and] at he
    obtain ⟨rfl, hmore⟩ := next.unique next' (more.ends h) (more'.ends h') he
    obtain ⟨rfl, hrest⟩ := more.unique more' h h' hmore
    exact ⟨rfl, hrest⟩
termination_by structural cs

theorem Negation.unique (n n' : Negation) {rest rest' : List Token} (h : Ends 3 rest)
    (h' : Ends 3 rest') (he : n.tokens ++ rest = n'.tokens ++ rest') : n = n' ∧ rest = rest' := by
  match n, n' with
  | .not inner, .not inner' =>
    simp only [Negation.tokens, List.cons_append, List.cons.injEq, true_and] at he
    obtain ⟨rfl, hrest⟩ := inner.unique inner' h h' he
    exact ⟨rfl, hrest⟩
  | .not inner, .plain c' => exact absurd he.symm (c'.tokens_ne _ _)
  | .plain c, .not inner' => exact absurd he (c.tokens_ne _ _)
  | .plain c, .plain c' =>
    obtain ⟨rfl, hrest⟩ := c.unique c' h h' he
    exact ⟨rfl, hrest⟩
termination_by structural n

theorem Comparison.unique (c c' : Comparison) {rest rest' : List Token} (h : Ends 3 rest)
    (h' : Ends 3 rest') (he : c.tokens ++ rest = c'.tokens ++ rest') : c = c' ∧ rest = rest' := by
  have hweaker : ∀ {ts : List Token}, Ends 3 ts → Ends 4 ts := fun hts => hts.mono (by decide)
  match c, c' with
  | .plain p, .plain p' =>
    obtain ⟨rfl, hrest⟩ := p.unique p' (hweaker h) (hweaker h') he
    exact ⟨rfl, hrest⟩
  | .plain p, .compare l' equal' r' =>
    simp only [Comparison.tokens, List.append_assoc, List.cons_append] at he
    obtain ⟨_, hrest⟩ := p.unique l' (hweaker h) (by simp) he
    simp [hrest] at h
  | .compare l equal r, .plain p' =>
    simp only [Comparison.tokens, List.append_assoc, List.cons_append] at he
    obtain ⟨_, hrest⟩ := l.unique p' (by simp) (hweaker h') he
    simp [← hrest] at h'
  | .compare l equal r, .compare l' equal' r' =>
    simp only [Comparison.tokens, List.append_assoc, List.cons_append] at he
    obtain ⟨rfl, hcompared⟩ := l.unique l' (by simp) (by simp) he
    obtain ⟨hequal, hr⟩ := List.cons.inj hcompared
    obtain rfl := Token.comparing_inj hequal
    obtain ⟨rfl, hrest⟩ := r.unique r' (hweaker h) (hweaker h') hr
    exact ⟨rfl, hrest⟩
termination_by structural c

theorem Primary.unique (p p' : Primary) {rest rest' : List Token} (h : Ends 4 rest)
    (h' : Ends 4 rest') (he : p.tokens ++ rest = p'.tokens ++ rest') : p = p' ∧ rest = rest' := by
  have hcomma : ∀ ts, Ends 1 (.comma :: ts) := fun _ => ends_cons.mpr (by decide)
  have hclose : ∀ ts, Ends 1 (.rightParen :: ts) := fun _ => ends_cons.mpr (by decide)
  match p with
  | .text s =>
    cases p' with
    | text s' => simpa [Primary.tokens] using he
    | truth | field | group | call => simp [Primary.tokens] at he
  | .truth b =>
    cases p' with
    | truth b' =>
      obtain ⟨hname, hrest⟩ := List.cons.inj he
      exact ⟨congrArg _ (truthName_inj (Token.ident.inj hname)), hrest⟩
    | field f' full' => simp [Primary.tokens, truthName_ne_name] at he
    | call f' subject' part' => exact absurd he (Primary.ident_ne_call h f' subject' part' rest')
    | text | group => simp [Primary.tokens] at he
  | .field f full =>
    cases p' with
    | truth b' => simp [Primary.tokens, (truthName_ne_name b' f full).symm] at he
    | field f' full' =>
      obtain ⟨hname, hrest⟩ := List.cons.inj he
      obtain ⟨rfl, rfl⟩ := Field.name_inj (Token.ident.inj hname)
      exact ⟨rfl, hrest⟩
    | call f' subject' part' => exact absurd he (Primary.ident_ne_call h f' subject' part' rest')
    | text | group => simp [Primary.tokens] at he
  | .group inner =>
    cases p' with
    | group inner' =>
      simp only [Primary.tokens, List.cons_append, List.append_assoc, List.cons.injEq,
        true_and] at he
      obtain ⟨rfl, hrest⟩ := inner.unique inner' (hclose _) (hclose _) he
      exact ⟨rfl, (List.cons.inj hrest).2⟩
    | text | truth | field | call => simp [Primary.tokens] at he
  | .call f subject part =>
    cases p' with
    | truth | field => exact absurd he.symm (Primary.ident_ne_call h' f subject part rest)
    | call f' subject' part' =>
      simp only [Primary.tokens, List.cons_append, List.append_assoc, List.cons.injEq,
        Token.ident.injEq, true_and] at he
      obtain ⟨hname, harguments⟩ := he
      obtain rfl := Function.name_inj hname
      obtain ⟨rfl, hpart⟩ := subject.unique subject' (hcomma _) (hcomma _) harguments
      obtain ⟨rfl, hrest⟩ := part.unique part' (hclose _) (hclose _) (List.cons.inj hpart).2
      exact ⟨rfl, (List.cons.inj hrest).2⟩
    | text | group => simp [Primary.tokens] at he
termination_by structural p

end

/-- The tokens of a condition have one derivation only. -/
theorem Disjunction.tokens_injective : Function.Injective Disjunction.tokens := by
  intro d d' he
  exact (d.unique d' (ends_nil 1) (ends_nil 1) (by simpa using he)).1

end GatedPipeline.Condition
