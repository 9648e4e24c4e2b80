import GatedPipeline.Proofs.PlannedRun

namespace GatedPipeline

namespace Text

variable {a b : Char} {x y s t m : List Char}

/-- Somewhere behind the two characters there is an equals sign. -/
def BindsBehind (a b : Char) (s : List Char) : Prop :=
  ∃ front name rest, s = front ++ a :: b :: (name ++ '=' :: rest)

/-- Nothing, or the two characters with a name and an equals sign behind them. -/
def Binding (a b : Char) (s : List Char) : Prop :=
  s = [] ∨ ∃ name rest, s = a :: b :: (name ++ '=' :: rest) ∧ ¬ [a, b] <:+: name

theorem not_bindsBehind (h : '=' ∉ s) : ¬ BindsBehind a b s := by
  rintro ⟨front, name, rest, rfl⟩
  simp at h

theorem prefix_of_append_equals (ha : a ≠ '=') (hb : b ≠ '=')
    (h : s ++ '=' :: x = a :: b :: y) : [a, b] <+: s := by
  match s with
  | [] => exact absurd (List.cons.inj h).1.symm ha
  | [c] => exact absurd (List.cons.inj (List.cons.inj h).2).1.symm hb
  | c :: d :: s =>
    simp only [List.cons_append, List.cons.injEq] at h
    obtain ⟨rfl, rfl, -⟩ := h
    exact ⟨s, rfl⟩

/-- What stands in front of a binding and is a binding together with it, binds something itself. -/
theorem Binding.eq_nil (hab : a ≠ b) (ha : a ≠ '=') (hb : b ≠ '=') (hs : Binding a b (m ++ t))
    (ht : Binding a b t) (hm : ¬ BindsBehind a b m) : m = [] := by
  rcases hs with hnil | ⟨name, rest, he, hname⟩
  · exact (List.append_eq_nil_iff.mp hnil).1
  match m with
  | [] => rfl
  | [c] =>
    simp only [List.cons_append, List.nil_append, List.cons.injEq] at he
    rcases ht with rfl | ⟨_, _, rfl, _⟩
    · simp at he
    · exact absurd (List.cons.inj he.2).1 hab
  | c :: d :: m =>
    simp only [List.cons_append, List.cons.injEq] at he
    obtain ⟨rfl, rfl, he⟩ := he
    rcases List.append_eq_append_iff.mp he with ⟨beyond, rfl, hbeyond⟩ | ⟨beyond, rfl, hbeyond⟩
    · -- The name goes on behind `m`, so it has in it what begins the second binding.
      rcases ht with rfl | ⟨_, _, rfl, _⟩
      · simp at hbeyond
      · have hstarts : [c, d] <+: beyond := prefix_of_append_equals ha hb hbeyond.symm
        exact absurd (hstarts.isInfix.trans (List.suffix_append m beyond).isInfix) hname
    · match beyond with
      | [] =>
        rcases ht with rfl | ⟨_, _, rfl, _⟩
        · cases hbeyond
        · exact absurd (List.cons.inj hbeyond).1.symm ha
      | e :: beyond =>
        obtain ⟨rfl, -⟩ := List.cons.inj hbeyond
        exact absurd ⟨[], name, beyond, rfl⟩ hm

/-- A text that binds nothing is told from the binding behind it. -/
theorem append_binding_inj (hab : a ≠ b) (ha : a ≠ '=') (hb : b ≠ '=')
    (hx : ¬ BindsBehind a b x) (hy : ¬ BindsBehind a b y) (hs : Binding a b s)
    (ht : Binding a b t) (he : x ++ s = y ++ t) : x = y ∧ s = t := by
  have hsuffix : ∀ {front m : List Char}, ¬ BindsBehind a b (front ++ m) → ¬ BindsBehind a b m := by
    rintro front _ h ⟨front', name, rest, rfl⟩
    exact h ⟨front ++ front', name, rest, (List.append_assoc _ _ _).symm⟩
  rcases List.append_eq_append_iff.mp he with ⟨m, rfl, rfl⟩ | ⟨m, rfl, rfl⟩
  · obtain rfl := hs.eq_nil hab ha hb ht (hsuffix hy)
    exact ⟨(List.append_nil x).symm, rfl⟩
  · obtain rfl := ht.eq_nil hab ha hb hs (hsuffix hx)
    exact ⟨List.append_nil y, rfl⟩

end Text

namespace InstanceId

def more : List (String × String) → List Char
  | [] => []
  | (k, v) :: ps => ',' :: ' ' :: (k.toList ++ '=' :: (v.toList ++ more ps))

def bound : List (String × String) → List Char
  | [] => []
  | (k, v) :: ps => ' ' :: '(' :: (k.toList ++ '=' :: (v.toList ++ more ps ++ [')']))

theorem toList_intercalate (p : String × String) (ps : List (String × String)) :
    (", ".intercalate ((p :: ps).map fun p => p.1 ++ "=" ++ p.2)).toList =
      p.1.toList ++ '=' :: (p.2.toList ++ more ps) := by
  induction ps generalizing p with
  | nil => simp [more]
  | cons q ps ih =>
    have hrest := ih q
    rw [List.map_cons] at hrest
    rw [List.map_cons, List.map_cons, String.intercalate_cons_cons, String.toList_append, hrest]
    simp [more]

theorem toList_display (id : InstanceId) :
    id.display.toList = id.job.toList ++ bound id.params := by
  obtain ⟨job, params⟩ := id
  cases params with
  | nil => simp [display, bound]
  | cons p ps =>
    rw [display, List.isEmpty_cons, if_neg Bool.false_ne_true, String.toList_append,
      String.toList_append, String.toList_append, toList_intercalate]
    simp [bound]

/-- A name that is not taken apart, with a value that does not look as if another parameter
followed. -/
structure PlainParam (p : String × String) : Prop where
  unbound : '=' ∉ p.1.toList
  unopened : ¬ [' ', '('] <:+: p.1.toList
  unparted : ¬ [',', ' '] <:+: p.1.toList
  single : ¬ Text.BindsBehind ',' ' ' p.2.toList

/-- The job does not look as if it had parameters, and each parameter looks like one. -/
structure Plain (id : InstanceId) : Prop where
  job : ¬ Text.BindsBehind ' ' '(' id.job.toList
  params : ∀ p ∈ id.params, PlainParam p

/-- Without equals signs nothing looks like more than it is. -/
theorem plain_of_not_mem {id : InstanceId} (hjob : '=' ∉ id.job.toList)
    (hparams : ∀ p ∈ id.params, '=' ∉ p.1.toList ∧ '(' ∉ p.1.toList ∧ ',' ∉ p.1.toList ∧
      '=' ∉ p.2.toList) : id.Plain where
  job := Text.not_bindsBehind hjob
  params p hp := by
    obtain ⟨hunbound, hopen, hcomma, hvalue⟩ := hparams p hp
    exact ⟨hunbound, fun h => hopen (h.subset (by simp)), fun h => hcomma (h.subset (by simp)),
      Text.not_bindsBehind hvalue⟩

theorem binding_more {ps : List (String × String)} (h : ∀ p ∈ ps, PlainParam p) :
    Text.Binding ',' ' ' (more ps) := by
  cases ps with
  | nil => exact .inl rfl
  | cons p ps => exact .inr ⟨_, _, rfl, (h p List.mem_cons_self).unparted⟩

theorem binding_bound {ps : List (String × String)} (h : ∀ p ∈ ps, PlainParam p) :
    Text.Binding ' ' '(' (bound ps) := by
  cases ps with
  | nil => exact .inl rfl
  | cons p ps => exact .inr ⟨_, _, rfl, (h p List.mem_cons_self).unopened⟩

/-- Parameters are told apart one after another: the name ends at the first equals sign, and the
value where the next parameter begins. -/
theorem more_inj {ps qs : List (String × String)} (hp : ∀ p ∈ ps, PlainParam p)
    (hq : ∀ q ∈ qs, PlainParam q) (he : more ps = more qs) : ps = qs := by
  induction ps generalizing qs with
  | nil =>
    cases qs with
    | nil => rfl
    | cons q qs => cases he
  | cons p ps ih =>
    cases qs with
    | nil => cases he
    | cons q qs =>
      obtain ⟨hpfirst, hprest⟩ := List.forall_mem_cons.mp hp
      obtain ⟨hqfirst, hqrest⟩ := List.forall_mem_cons.mp hq
      simp only [more, List.cons.injEq, true_and] at he
      obtain ⟨hname, hvalues⟩ := Text.append_cons_inj hpfirst.unbound hqfirst.unbound he
      obtain ⟨hvalue, hmore⟩ := Text.append_binding_inj (by decide) (by decide) (by decide)
        hpfirst.single hqfirst.single (binding_more hprest) (binding_more hqrest) hvalues
      rw [ih hprest hqrest hmore,
        Prod.ext (String.toList_injective hname) (String.toList_injective hvalue)]

theorem more_of_bound {ps qs : List (String × String)} (he : bound ps = bound qs) :
    more ps = more qs := by
  cases ps with
  | nil =>
    cases qs with
    | nil => rfl
    | cons q qs => cases he
  | cons p ps =>
    cases qs with
    | nil => cases he
    | cons q qs =>
      have hbody : more (p :: ps) ++ [')'] = more (q :: qs) ++ [')'] := by
        simpa [bound, more] using he
      exact List.append_cancel_right hbody

theorem Plain.display_inj {id id' : InstanceId} (h : id.Plain) (h' : id'.Plain)
    (he : id.display = id'.display) : id = id' := by
  have hchars := congrArg String.toList he
  rw [toList_display, toList_display] at hchars
  obtain ⟨hjob, hbound⟩ := Text.append_binding_inj (by decide) (by decide) (by decide) h.job h'.job
    (binding_bound h.params) (binding_bound h'.params) hchars
  have hparams := more_inj h.params h'.params (more_of_bound hbound)
  obtain ⟨job, params⟩ := id
  obtain ⟨job', params'⟩ := id'
  obtain rfl : job = job' := String.toList_injective hjob
  obtain rfl : params = params' := hparams
  rfl

end InstanceId

namespace RunReport

/-- A report is found by how its instance is displayed, if no other is displayed in this way. -/
theorem instance?_eq_some {report : RunReport} {r : InstanceReport} (hr : r ∈ report.instances)
    (h : ∀ r' ∈ report.instances, r'.id.display = r.id.display → r' = r) :
    report.instance? r.id.display = some r := by
  have hsome : (report.instance? r.id.display).isSome = true :=
    List.find?_isSome.mpr ⟨r, hr, beq_self_eq_true _⟩
  obtain ⟨r', hr'⟩ := Option.isSome_iff_exists.mp hsome
  have hsame := List.find?_some (p := fun i : InstanceReport => i.id.display == r.id.display) hr'
  rw [hr', h r' (List.mem_of_find?_eq_some hr') (beq_iff_eq.mp hsame)]

end RunReport

namespace Scheduler

variable {σ : Type} {p : Pipeline} {g : JobGraph} {event : Event} {fs : List Flight}
  {s : Session σ} {i : Nat}

theorem display_of_lt (hi : i < g.size) : g.display i = (Progress.idOf g i).display := by
  obtain ⟨n, hn⟩ := JobGraph.node?_of_lt hi
  rw [idOf_of_node hn, JobGraph.display, hn]

/-- No two reports of a run are displayed in the same way. -/
theorem Ended.apart (hg : g.Sound) (hids : (g.nodes.map (·.id)).Nodup)
    (hplain : ∀ id ∈ g.nodes.map (·.id), id.Plain) (h : Ended g event fs s)
    {r r' : InstanceReport} (hr : r ∈ s.progress.reports) (hr' : r' ∈ s.progress.reports)
    (he : r'.id.display = r.id.display) : r' = r := by
  rw [← h.ids hg] at hids hplain
  have hid := (hplain _ (List.mem_map_of_mem hr')).display_inj
    (hplain _ (List.mem_map_of_mem hr)) he
  exact List.inj_on_of_nodup_map hids hr' hr hid

/-- What is displayed for a dependency is displayed for the report of this instance. -/
theorem Ended.displayed (hg : g.Sound) (h : Ended g event fs s) (hi : i < g.size) :
    ∃ r ∈ s.progress.reports, r.id.display = g.display i := by
  obtain ⟨_, r, _, _, hr, _, hid⟩ := h.report hg hi
  exact ⟨r, List.mem_of_getElem? hr, by rw [hid, display_of_lt hi]⟩

end Scheduler

namespace Pipeline

variable {σ : Type} {p : Pipeline} {g : JobGraph}

/-- Where no job, parameter or value looks like more than it is, instances are told apart by how
they are displayed: a report is found by it, and a dependency that is named for a skip is one
instance. -/
theorem instances_told_apart (hbuild : JobGraph.build p = .ok g)
    (hplain : ∀ id ∈ p.instanceIds, id.Plain) :
    (∀ i < g.size, ∀ j < g.size, g.display i = g.display j → i = j) ∧
      ∀ (setup : RunSetup σ) (event : Event) (s : σ) (record : RunRecord σ) (report : RunReport),
        p.execute setup event s = .ok record → record.outcome = .completed report →
          (∀ r ∈ report.instances, report.instance? r.id.display = some r) ∧
            ∀ r ∈ report.instances, ∀ dependency,
              r.reason = .dependencyFailed dependency ∨ r.reason = .dependencySkipped dependency →
                ∃! r', r' ∈ report.instances ∧ r'.id.display = dependency := by
  have hg := JobGraph.build_sound hbuild
  have hids := JobGraph.nodup_ids_of_build hbuild
  rw [← (JobGraph.build_stages hbuild).1.ids] at hplain
  refine ⟨fun i hi j hj he => ?_, fun setup event s record report hrecord hcompleted => ?_⟩
  · rw [Scheduler.display_of_lt hi, Scheduler.display_of_lt hj] at he
    have hown : ∀ k < g.size, Progress.idOf g k ∈ g.nodes.map (·.id) := by
      intro k hk
      obtain ⟨n, hn⟩ := JobGraph.node?_of_lt hk
      rw [Scheduler.idOf_of_node hn]
      exact List.mem_map_of_mem (JobGraph.mem_nodes_of_node? hn)
    exact Progress.idOf_inj hids hi hj
      ((hplain _ (hown i hi)).display_inj (hplain _ (hown j hj)) he)
  · obtain ⟨-, g', fs, session, hbuild', hc, hended, hreports⟩ :=
      ended_of_completed hrecord hcompleted
    obtain rfl := Except.ok.inj (hbuild.symm.trans hbuild')
    have hapart : ∀ r ∈ report.instances, ∀ r' ∈ report.instances,
        r'.id.display = r.id.display → r' = r := by
      rw [← hreports]
      intro r hr r' hr' he
      exact hended.apart hg hids hplain hr hr' he
    refine ⟨fun r hr => RunReport.instance?_eq_some hr (hapart r hr),
      fun r hr dependency hreason => ?_⟩
    rw [← hreports] at hr
    obtain ⟨i, hi⟩ := List.mem_iff_getElem?.mp hr
    obtain ⟨n, hn⟩ := JobGraph.node?_of_lt
      (hended.length_reports hg ▸ (List.getElem?_eq_some_iff.mp hi).1)
    obtain ⟨d, hd, rfl⟩ := hended.named_dependency hg hc hn hi hreason
    obtain ⟨r', hr', hdisplay⟩ := hended.displayed hg (hg.bounded i d hd)
    rw [hreports] at hr'
    exact ⟨r', ⟨hr', hdisplay⟩, fun r'' hr'' =>
      hapart r' hr' r'' hr''.1 (hr''.2.trans hdisplay.symm)⟩

/-- A job whose name has parentheses, on two platforms of which one has a comma. -/
def platforms : Pipeline :=
  ⟨"platforms", none, [], [],
    [{ JobGraph.plainJob "test (unit)" [] none with
        matrix := some ⟨[⟨"os", [.str "linux, arm", .str "mac"]⟩], [], []⟩ },
      JobGraph.plainJob "publish" ["test (unit)"] none]⟩

theorem instances_told_apart_platforms :
    ∃ g record report, JobGraph.build platforms = .ok g ∧ g.size = 3 ∧
      platforms.execute quietSetup ⟨.push, "refs/heads/main"⟩ () = .ok record ∧
      record.outcome = .completed report ∧
      ∀ r ∈ report.instances, report.instance? r.id.display = some r := by
  have hplain : ∀ id ∈ platforms.instanceIds, id.Plain := by
    intro id hid
    have hparts : ∀ id ∈ platforms.instanceIds, '=' ∉ id.job.toList ∧
        ∀ p ∈ id.params, '=' ∉ p.1.toList ∧ '(' ∉ p.1.toList ∧ ',' ∉ p.1.toList ∧
          '=' ∉ p.2.toList := by
      decide +kernel
    exact InstanceId.plain_of_not_mem (hparts id hid).1 (hparts id hid).2
  obtain ⟨g, hbuild, hsize⟩ : ∃ g, JobGraph.build platforms = .ok g ∧ g.size = 3 :=
    ⟨_, rfl, rfl⟩
  obtain ⟨record, report, hrecord, hcompleted⟩ :=
    completed_of_build hbuild ⟨.push, "refs/heads/main"⟩ rfl quietSetup ()
  exact ⟨g, record, report, hbuild, hsize, hrecord, hcompleted,
    ((instances_told_apart hbuild hplain).2 quietSetup ⟨.push, "refs/heads/main"⟩ () record report
      hrecord hcompleted).1⟩

/-- The one instance of the second job looks like the first job. -/
def lookalikes : Pipeline :=
  ⟨"lookalikes", none, [], [],
    [JobGraph.plainJob "a (x=1)" [] none,
      { JobGraph.plainJob "a" [] none with
        matrix := some ⟨[⟨"x", [.num (.int 1)]⟩], [], []⟩ }]⟩

/-- Two instances that are displayed in the same way: who asks for the second one gets the report of
the first. -/
theorem lookalikes_not_told_apart :
    ∃ g record report, JobGraph.build lookalikes = .ok g ∧
      lookalikes.execute quietSetup ⟨.push, "refs/heads/main"⟩ () = .ok record ∧
      record.outcome = .completed report ∧
      ∃ r r', report.instances = [r, r'] ∧ r.id ≠ r'.id ∧ r.id.display = r'.id.display ∧
        report.instance? r'.id.display = some r := by
  obtain ⟨g, hbuild⟩ : ∃ g, JobGraph.build lookalikes = .ok g := ⟨_, rfl⟩
  obtain ⟨record, report, hrecord, hcompleted⟩ :=
    completed_of_build hbuild ⟨.push, "refs/heads/main"⟩ rfl quietSetup ()
  refine ⟨g, record, report, hbuild, hrecord, hcompleted, ?_⟩
  obtain ⟨-, g', fs, s, hbuild', -, hended, hreports⟩ := ended_of_completed hrecord hcompleted
  have hids := hended.ids (JobGraph.build_sound hbuild')
  rw [hreports, (JobGraph.build_stages hbuild').1.ids] at hids
  have hlookalikes : lookalikes.instanceIds = [⟨"a (x=1)", []⟩, ⟨"a", [("x", "1")]⟩] := by
    decide +kernel
  obtain ⟨r, rest, hr, hid, hrest⟩ := List.map_eq_cons_iff.mp (hids.trans hlookalikes)
  obtain ⟨r', rest, rfl, hid', hrest⟩ := List.map_eq_cons_iff.mp hrest
  obtain rfl := List.map_eq_nil_iff.mp hrest
  have hdisplay : r.id.display = r'.id.display := by
    rw [hid, hid']
    decide
  refine ⟨r, r', hr, ?_, hdisplay, ?_⟩
  · rw [hid, hid']
    decide
  · rw [RunReport.instance?, hr]
    exact List.find?_cons_of_pos (beq_iff_eq.mpr hdisplay)

end Pipeline

end GatedPipeline
