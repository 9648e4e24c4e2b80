import GatedPipeline.Proofs.Substitution

namespace GatedPipeline

namespace Interpolation

variable {x : Interpolation} {s : List Char} {name value : String}

/-- What a name stands for: a matrix value, a variable, the ref or the event, and otherwise the
variable of that name. A name that is not known stands for the empty text. -/
inductive Names (x : Interpolation) : String → String → Prop where
  | matrix (key : String) : Names x ("matrix." ++ key) ((x.matrix.get? key).getD "")
  | env (key : String) : Names x ("env." ++ key) ((x.env.get? key).getD "")
  | ref : Names x "ref" x.gitRef
  | event : Names x "event" x.event
  | other (name : String) (matrix : ∀ key, name ≠ "matrix." ++ key)
      (env : ∀ key, name ≠ "env." ++ key) (ref : name ≠ "ref") (event : name ≠ "event") :
      Names x name ((x.env.get? name).getD "")

theorem Names.eq_value (h : x.Names name value) : value.toList = x.value name.toList := by
  cases h with
  | matrix key =>
    have hkey : Text.stripStart? "matrix.".toList ("matrix." ++ key).toList = some key.toList :=
      Text.stripStart?_eq_some_iff.mpr String.toList_append
    rw [Interpolation.value, hkey]
    simp
  | env key =>
    have hmatrix : Text.stripStart? "matrix.".toList ("env." ++ key).toList = none := by
      rw [String.toList_append]
      rfl
    have hkey : Text.stripStart? "env.".toList ("env." ++ key).toList = some key.toList :=
      Text.stripStart?_eq_some_iff.mpr String.toList_append
    rw [Interpolation.value, hmatrix, hkey]
    simp
  | ref => rfl
  | event => rfl
  | other _ hmatrix henv href hevent =>
    rw [Interpolation.value, Text.stripStart?_toList_eq_none_iff.mpr hmatrix,
      Text.stripStart?_toList_eq_none_iff.mpr henv]
    simp only [if_neg (mt String.toList_inj.mp href), if_neg (mt String.toList_inj.mp hevent),
      String.ofList_toList]

theorem exists_names (x : Interpolation) (name : String) : ∃ value, x.Names name value := by
  by_cases hmatrix : ∃ key, name = "matrix." ++ key
  · obtain ⟨key, rfl⟩ := hmatrix
    exact ⟨_, .matrix key⟩
  by_cases henv : ∃ key, name = "env." ++ key
  · obtain ⟨key, rfl⟩ := henv
    exact ⟨_, .env key⟩
  by_cases href : name = "ref"
  · subst href
    exact ⟨_, .ref⟩
  by_cases hevent : name = "event"
  · subst hevent
    exact ⟨_, .event⟩
  · exact ⟨_, .other name (not_exists.mp hmatrix) (not_exists.mp henv) href hevent⟩

/-- An expression stands somewhere in the text, with its end. -/
def HasExpression (s : List Char) : Prop :=
  ∃ before inside after, s = before ++ opening ++ inside ++ closing ++ after ∧ inside ≠ [] ∧
    '}' ∉ inside

theorem HasExpression.cons (h : HasExpression s) (c : Char) : HasExpression (c :: s) := by
  obtain ⟨before, inside, after, rfl, hinside⟩ := h
  exact ⟨c :: before, inside, after, by simp, hinside⟩

theorem HasExpression.opening_infix (h : HasExpression s) : opening <:+: s := by
  obtain ⟨before, inside, after, rfl, _⟩ := h
  exact ⟨before, inside ++ closing ++ after, by simp⟩

theorem Unclosed.opening_infix (h : Unclosed s) : opening <:+: s := by
  obtain ⟨before, inside, rfl, _⟩ := h
  exact ⟨before, inside, rfl⟩

theorem expression?_eq_none (h : ¬ HasExpression s) : expression? s = none := by
  refine Option.eq_none_iff_forall_ne_some.mpr fun p hp => ?_
  obtain ⟨body, after⟩ := p
  obtain ⟨hs, hbody⟩ := expression?_eq_some_iff.mp hp
  exact h ⟨[], body, after, hs, hbody⟩

/-- Without a complete expression there is nothing to replace. -/
theorem expandChars_eq_self (x : Interpolation) (h : ¬ HasExpression s) : x.expandChars s = s := by
  induction s with
  | nil => exact x.expandChars_nil
  | cons c cs ih =>
    have hrest : ¬ HasExpression cs := fun hcs => h (hcs.cons c)
    rw [x.expandChars_of_none (expression?_eq_none h), ih hrest]

/-- A piece of a text in which no expression begins. It may end as if one began after it. -/
structure Literal where
  chars : List Char
  unopened : ¬ opening <:+: chars

structure Expression where
  inside : List Char
  nonempty : inside ≠ []
  unclosed : '}' ∉ inside

/-- Literal pieces with one expression between each two of them. -/
inductive Template where
  | literal (piece : Literal)
  | expression (piece : Literal) (e : Expression) (rest : Template)

namespace Template

def text : Template → List Char
  | .literal piece => piece.chars
  | .expression piece e rest => piece.chars ++ opening ++ e.inside ++ closing ++ rest.text

/-- The pieces stay, and each expression gives way to the value of its name. -/
inductive Filled (x : Interpolation) : Template → List Char → Prop where
  | literal (piece : Literal) : Filled x (.literal piece) piece.chars
  | expression (piece : Literal) (e : Expression) {rest : Template} {name value : String}
      {out : List Char} (trims : Text.TrimsTo e.inside name.toList) (names : x.Names name value)
      (filled : Filled x rest out) :
      Filled x (.expression piece e rest) (piece.chars ++ value.toList ++ out)

variable {t : Template} {out : List Char}

theorem Filled.eq_expandChars (h : t.Filled x out) : out = x.expandChars t.text := by
  induction h with
  | literal piece =>
    exact (x.expandChars_eq_self fun h => piece.unopened h.opening_infix).symm
  | expression piece e htrims hnames hfilled ih =>
    have hpiece := x.expandChars_eq_self fun h => piece.unopened h.opening_infix
    have hvalue := hnames.eq_value
    rw [htrims.eq_trimmed] at hvalue
    rw [text, x.expandChars_expression (fun h => piece.unopened h.opening_infix) e.nonempty
      e.unclosed, hpiece, hvalue, ih]

theorem filled_expandChars (x : Interpolation) (t : Template) :
    t.Filled x (x.expandChars t.text) := by
  have hsome : ∃ out, t.Filled x out := by
    induction t with
    | literal piece => exact ⟨_, .literal piece⟩
    | expression piece e rest ih =>
      obtain ⟨out, hout⟩ := ih
      obtain ⟨value, hvalue⟩ := x.exists_names (String.ofList (Text.trimmed e.inside))
      have htrims := Text.trimsTo_trimmed e.inside
      rw [← String.toList_ofList (l := Text.trimmed e.inside)] at htrims
      exact ⟨_, .expression piece e htrims hvalue hout⟩
  obtain ⟨out, hout⟩ := hsome
  rw [← hout.eq_expandChars]
  exact hout

theorem expandChars_text_iff : x.expandChars t.text = out ↔ t.Filled x out := by
  constructor
  · rintro rfl
    exact filled_expandChars x t
  · intro h
    exact h.eq_expandChars.symm

end Template

/-- Expanding a template fills it: nothing else comes out of its text, and each of its expressions
is replaced by what its name stands for, once the blanks around it are taken off. The value is put
in as it is, whatever it looks like. A text without a complete expression stays what it is. -/
theorem expand_templates (x : Interpolation) :
    (∀ (t : Template) (out : String),
      x.expand (String.ofList t.text) = out ↔ t.Filled x out.toList) ∧
    ∀ text : String, ¬ HasExpression text.toList → x.expand text = text := by
  refine ⟨fun t out => ?_, fun text h => ?_⟩
  · rw [expand, String.toList_ofList, ← Template.expandChars_text_iff, ← String.toList_inj,
      String.toList_ofList]
  · rw [expand, x.expandChars_eq_self h, String.ofList_toList]

/-- A matrix value that looks like an expression, and a variable that looks like a group. -/
def deceptive : Interpolation :=
  ⟨[("RUN", "$1")], [("shell", "$\x7b\x7b ref \x7d\x7d")], "refs/heads/main", "push"⟩

def strayTemplate : Template :=
  .expression ⟨['$'], by decide⟩ ⟨" matrix.shell ".toList, by decide, by decide⟩
    (.expression ⟨['}', '$', '{'], by decide⟩ ⟨"RUN".toList, by decide, by decide⟩
      (.literal ⟨['}'], by decide⟩))

/-- What is put in looks like an expression and like a group, and stays so. -/
theorem expand_templates_deceptive :
    deceptive.expand (String.ofList strayTemplate.text) =
        "$$\x7b\x7b ref \x7d\x7d\x7d$\x7b$1\x7d" ∧
      ¬ HasExpression "$\x7b\x7b ref \x7d".toList ∧
      deceptive.expand "$\x7b\x7b ref \x7d" = "$\x7b\x7b ref \x7d" := by
  obtain ⟨hfill, hself⟩ := expand_templates deceptive
  have hshell : Text.TrimsTo " matrix.shell ".toList ("matrix." ++ "shell").toList :=
    ⟨⟨[' '], [' '], by decide, by decide, by decide⟩, fun _ hc => Option.mem_some.mp hc ▸ rfl,
      fun _ hc => Option.mem_some.mp hc ▸ rfl⟩
  have hrun : Text.TrimsTo "RUN".toList "RUN".toList :=
    ⟨⟨[], [], by decide, by decide, by decide⟩, fun _ hc => Option.mem_some.mp hc ▸ rfl,
      fun _ hc => Option.mem_some.mp hc ▸ rfl⟩
  have hother : deceptive.Names "RUN" "$1" :=
    .other "RUN" (Text.stripStart?_toList_eq_none_iff.mp rfl)
      (Text.stripStart?_toList_eq_none_iff.mp rfl) (by decide) (by decide)
  have hfilled := Template.Filled.expression ⟨['$'], by decide⟩
    ⟨" matrix.shell ".toList, by decide, by decide⟩ hshell (.matrix "shell")
    (.expression ⟨['}', '$', '{'], by decide⟩ ⟨"RUN".toList, by decide, by decide⟩ hrun hother
      (.literal ⟨['}'], by decide⟩))
  have hnone : ¬ HasExpression "$\x7b\x7b ref \x7d".toList := by
    rintro ⟨before, inside, after, htext, _⟩
    have hclosing : closing <:+: "$\x7b\x7b ref \x7d".toList := by
      rw [htext]
      exact ⟨before ++ opening ++ inside, after, by simp⟩
    have hinfix := Text.isInfix_iff.mpr hclosing
    exact absurd hinfix (by decide)
  have hshown : (deceptive.matrix.get? "shell").getD "" = "$\x7b\x7b ref \x7d\x7d" := by
    decide
  rw [hshown] at hfilled
  have hout : "$$\x7b\x7b ref \x7d\x7d\x7d$\x7b$1\x7d".toList = ['$'] ++
      "$\x7b\x7b ref \x7d\x7d".toList ++ (['}', '$', '{'] ++ "$1".toList ++ ['}']) := by
    decide
  refine ⟨(hfill strayTemplate _).mpr ?_, hnone, hself _ hnone⟩
  rw [hout]
  exact hfilled

end Interpolation

end GatedPipeline
