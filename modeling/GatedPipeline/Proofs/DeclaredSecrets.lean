import GatedPipeline.Proofs.FirstStop
import GatedPipeline.Proofs.LookupHistory

namespace GatedPipeline

/-- Whoever answers references, and what it keeps from one of them to the next. -/
abbrev SecretSource (τ : Type) := τ → SecretRef → Except Error String × τ

namespace SecretSource

variable {τ : Type}

def noting (ask : SecretSource τ) : SecretSource (τ × List SecretRef) := fun t r =>
  ((ask t.1 r).1, (ask t.1 r).2, t.2 ++ [r])

/-- What the references are answered if all of them are asked for, one after another. -/
def answers (ask : SecretSource τ) : τ → List SecretRef → LookupLog
  | _, [] => []
  | t, r :: rest => (r, (ask t r).1) :: answers ask (ask t r).2 rest

theorem refs_answers (ask : SecretSource τ) (t : τ) (refs : List SecretRef) :
    (ask.answers t refs).map Prod.fst = refs := by
  induction refs generalizing t with
  | nil => rfl
  | cons r rest ih => rw [answers, List.map_cons, ih]

end SecretSource

namespace SecretStore

variable {store : SecretStore} {cache : SecretCache} {r : SecretRef}

theorem lookup_of_resolve_error {e : Error} (h : (store.resolve cache r).1 = .error e) :
    store.lookup r = .error e := by
  unfold resolve at h
  split at h
  · cases h
  · split at h
    · cases h
    · rename_i hl
      cases h
      exact hl

/-- Only a provider that is registered under its name can say that a value is not found. -/
theorem lookup_error_cases {e : Error} (h : store.lookup r = .error e) :
    match store.providers.get? (store.providerName r) with
    | none => e = .secretProviderNotConfigured (store.providerName r)
    | some provider => provider r.storeKey = .error e := by
  rw [lookup] at h
  cases hprovider : store.providers.get? (store.providerName r) with
  | none =>
    rw [hprovider] at h
    exact (Except.error.inj h).symm
  | some provider =>
    rw [hprovider] at h
    exact h

theorem lookup_of_mem_answers {refs : List SecretRef} {p : SecretRef × Except Error String}
    (hp : p ∈ SecretSource.answers store.resolve cache refs) {e : Error} (he : p.2 = .error e) :
    store.lookup p.1 = .error e := by
  induction refs generalizing cache with
  | nil => cases hp
  | cons r rest ih =>
    rcases List.mem_cons.mp hp with rfl | hp
    · exact lookup_of_resolve_error he
    · exact ih hp

theorem Truthful.answers {refs : List SecretRef} (h : store.Truthful cache)
    (hplain : ∀ r ∈ refs, store.Plain r) :
    SecretSource.answers store.resolve cache refs = refs.map fun r => (r, store.lookup r) := by
  induction refs generalizing cache with
  | nil => rfl
  | cons r rest ih =>
    obtain ⟨hr, hrest⟩ := List.forall_mem_cons.mp hplain
    obtain ⟨hanswer, hafter⟩ := h.resolve hr
    rw [SecretSource.answers, List.map_cons, hanswer, ih hafter hrest]

end SecretStore

/-- Why an instance fails that is told so of a secret. -/
def SecretError.ofAnswer (r : SecretRef) : Error → SecretError
  | .secretNotFound _ => .missingCredential r.name
  | .secretProviderNotConfigured provider => .providerNotConfigured provider
  | e => .providerFailed r.name e

namespace LookupLog

/-- The reference has a value, or may go without one and has none. -/
def Settled (p : SecretRef × Except Error String) : Prop :=
  (∃ value, p.2 = .ok value) ∨ p.1.required = false ∧ ∃ key, p.2 = .error (.secretNotFound key)

/-- The failure that an answer means for the instance, if it does. -/
def refusal? : SecretRef × Except Error String → Option SecretError
  | (_, .ok _) => none
  | (r, .error (.secretNotFound key)) =>
    if r.required then some (.ofAnswer r (.secretNotFound key)) else none
  | (r, .error e) => some (.ofAnswer r e)

def found (log : LookupLog) : List (String × String) :=
  log.filterMap fun p => p.2.toOption.map (p.1.name, ·)

variable {r : SecretRef} {p : SecretRef × Except Error String}

theorem refusal?_eq_none_iff : refusal? p = none ↔ Settled p := by
  obtain ⟨r, x⟩ := p
  cases x with
  | ok value => simp [refusal?, Settled]
  | error e => cases e <;> simp [refusal?, Settled]

theorem refusal?_eq_some_iff {e : SecretError} :
    refusal? p = some e ↔ ∃ x, p.2 = .error x ∧ ¬ Settled p ∧ e = .ofAnswer p.1 x := by
  rw [← refusal?_eq_none_iff]
  obtain ⟨r, x⟩ := p
  cases x with
  | ok value => simp [refusal?]
  | error x =>
    cases x with
    | secretNotFound key => cases hr : r.required <;> simp [refusal?, hr, eq_comm]
    | _ => simp [refusal?, eq_comm]

def valueFor? (name : String) (p : SecretRef × Except Error String) : Option String :=
  if p.1.name = name then p.2.toOption else none

theorem valueFor?_eq_some_iff {name value : String} :
    valueFor? name p = some value ↔ p.1.name = name ∧ p.2 = .ok value := by
  obtain ⟨r, x⟩ := p
  cases x <;> simp [valueFor?, Except.toOption]

theorem valueFor?_eq_none_iff {name : String} :
    valueFor? name p = none ↔ (p.1.name = name → ∀ v, p.2 ≠ .ok v) := by
  obtain ⟨r, x⟩ := p
  cases x <;> simp [valueFor?, Except.toOption]

theorem get?_found (name : String) (log : LookupLog) :
    Bindings.get? name log.found = log.findSome? (valueFor? name) := by
  induction log with
  | nil => rfl
  | cons p rest ih =>
    obtain ⟨r, x⟩ := p
    unfold found at ih ⊢
    cases x with
    | error e =>
      have hnone : valueFor? name (r, .error e) = none := by simp [valueFor?, Except.toOption]
      rw [List.findSome?_cons, hnone]
      exact ih
    | ok value =>
      by_cases hname : r.name = name
      · simp [Except.toOption, Bindings.get?, valueFor?, hname]
      · simpa [Except.toOption, Bindings.get?, valueFor?, hname] using ih

/-- Of values for one variable the last one is bound. -/
theorem get?_insertAll_found (name : String) (log : LookupLog) :
    Bindings.get? name (Bindings.insertAll [] log.found) =
      log.reverse.findSome? (valueFor? name) := by
  have hfound : Bindings.get? name (Bindings.insertAll [] log.found) =
      Bindings.get? name log.found.reverse := Bindings.get?_ofList name log.found
  rw [hfound, found, ← List.filterMap_reverse]
  exact get?_found name log.reverse

theorem get?_insertAll_found_iff (log : LookupLog) (name value : String) :
    Bindings.get? name (Bindings.insertAll [] log.found) = some value ↔
      ∃ before r after, log = before ++ (r, .ok value) :: after ∧ r.name = name ∧
        ∀ p ∈ after, p.1.name = name → ∀ v, p.2 ≠ .ok v := by
  rw [get?_insertAll_found, List.findSome?_eq_some_iff]
  constructor
  · rintro ⟨after, ⟨r, x⟩, before, hlog, hvalue, hafter⟩
    obtain ⟨hname, rfl⟩ := valueFor?_eq_some_iff.mp hvalue
    refine ⟨before.reverse, r, after.reverse, ?_, hname, fun p hp => ?_⟩
    · rw [← List.reverse_reverse log, hlog]
      simp
    · exact valueFor?_eq_none_iff.mp (hafter p (List.mem_reverse.mp hp))
  · rintro ⟨before, r, after, rfl, hname, hafter⟩
    refine ⟨after.reverse, (r, .ok value), before.reverse, by simp, ?_, fun p hp => ?_⟩
    · exact valueFor?_eq_some_iff.mpr ⟨hname, rfl⟩
    · exact valueFor?_eq_none_iff.mpr (hafter p (List.mem_reverse.mp hp))

theorem mem_names_insertAll_found_iff (log : LookupLog) (name : String) :
    name ∈ Bindings.names (Bindings.insertAll [] log.found) ↔
      ∃ p ∈ log, p.1.name = name ∧ ∃ value, p.2 = .ok value := by
  rw [← Bindings.isSome_get?_iff, get?_insertAll_found, List.findSome?_isSome_iff]
  simp only [List.mem_reverse, Option.isSome_iff_exists, valueFor?_eq_some_iff,
    exists_and_left]

end LookupLog

namespace ScopedSecrets

open LookupLog (Settled refusal? refusal?_eq_none_iff refusal?_eq_some_iff)

variable {τ : Type}

/-- Gathers the declared secrets from any source. -/
def resolveFrom (ask : SecretSource τ) :
    τ → Bindings String → List SecretRef → Except SecretError ScopedSecrets × τ
  | t, values, [] => (.ok ⟨values⟩, t)
  | t, values, r :: rest =>
    match ask t r with
    | (.ok value, t) => resolveFrom ask t (values.insert r.name value) rest
    | (.error e, t) =>
      match refusal? (r, .error e) with
      | some why => (.error why, t)
      | .none => resolveFrom ask t values rest

theorem resolveOnto_eq_resolveFrom (store : SecretStore) (cache : SecretCache)
    (values : Bindings String) (declared : List SecretRef) :
    resolveOnto store cache values declared = resolveFrom store.resolve cache values declared := by
  induction declared generalizing cache values with
  | nil => rfl
  | cons r rest ih =>
    unfold resolveOnto resolveFrom
    cases store.resolve cache r with
    | mk answer cache =>
      cases answer with
      | ok value => exact ih cache _
      | error e =>
        cases e with
        | secretNotFound key =>
          cases hr : r.required with
          | true => simp [refusal?, hr, SecretError.ofAnswer]
          | false => simpa [refusal?, hr] using ih cache values
        | _ => rfl

/-- The outcome in terms of the answers: the first refusal, or all that was found. -/
theorem resolveFrom_outcome (ask : SecretSource τ) (t : τ) (values : Bindings String)
    (declared : List SecretRef) :
    (resolveFrom ask t values declared).1 =
      match (ask.answers t declared).findSome? refusal? with
      | some why => .error why
      | .none => .ok ⟨values.insertAll (LookupLog.found (ask.answers t declared))⟩ := by
  induction declared generalizing t values with
  | nil => rfl
  | cons r rest ih =>
    unfold resolveFrom SecretSource.answers
    rw [List.findSome?_cons]
    cases ask t r with
    | mk answer t =>
      cases answer with
      | ok value => exact ih t _
      | error e =>
        dsimp only
        cases hrefused : refusal? (r, .error e) with
        | some why => rfl
        | none => exact ih t values

/-- What is asked for are the references up to the first that is refused, each once. -/
theorem resolveFrom_noting (ask : SecretSource τ) (t : τ) (noted : List SecretRef)
    (values : Bindings String) (declared : List SecretRef) :
    resolveFrom ask.noting (t, noted) values declared =
      ((resolveFrom ask t values declared).1, (resolveFrom ask t values declared).2,
        noted ++ (throughFirst (fun p => (refusal? p).isSome) (ask.answers t declared)).map
          Prod.fst) := by
  induction declared generalizing t noted values with
  | nil => rw [SecretSource.answers, throughFirst, List.map_nil, List.append_nil]; rfl
  | cons r rest ih =>
    unfold resolveFrom SecretSource.answers throughFirst
    rw [SecretSource.noting]
    cases ask t r with
    | mk answer t =>
      cases answer with
      | ok value => simp [ih, refusal?]
      | error e =>
        dsimp only
        cases hrefused : refusal? (r, .error e) with
        | some why => rfl
        | none => simp [ih]

def lookedUp (store : SecretStore) (cache : SecretCache) (declared : List SecretRef) :
    List SecretRef :=
  (resolveFrom (SecretSource.noting store.resolve) (cache, []) [] declared).2.2

section

variable {store : SecretStore} {cache : SecretCache} {declared : List SecretRef}

theorem resolve_outcome (store : SecretStore) (cache : SecretCache) (declared : List SecretRef) :
    (resolve store cache declared).1 =
      match (SecretSource.answers store.resolve cache declared).findSome? refusal? with
      | some why => .error why
      | .none => .ok ⟨Bindings.insertAll []
          (LookupLog.found (SecretSource.answers store.resolve cache declared))⟩ := by
  rw [resolve, resolveOnto_eq_resolveFrom]
  exact resolveFrom_outcome store.resolve cache [] declared

theorem lookedUp_eq (store : SecretStore) (cache : SecretCache) (declared : List SecretRef) :
    lookedUp store cache declared =
      (throughFirst (fun p => (refusal? p).isSome)
        (SecretSource.answers store.resolve cache declared)).map Prod.fst := by
  rw [lookedUp, resolveFrom_noting, List.nil_append]

theorem exists_resolve_ok_iff : (∃ secrets, (resolve store cache declared).1 = .ok secrets) ↔
    ∀ p ∈ SecretSource.answers store.resolve cache declared, Settled p := by
  have hnone := List.findSome?_eq_none_iff
    (p := refusal?) (l := SecretSource.answers store.resolve cache declared)
  simp only [refusal?_eq_none_iff] at hnone
  rw [resolve_outcome, ← hnone]
  cases (SecretSource.answers store.resolve cache declared).findSome? refusal? with
  | some why => simp
  | none => simp

theorem of_resolve_ok {secrets : ScopedSecrets}
    (h : (resolve store cache declared).1 = .ok secrets) :
    secrets.values = Bindings.insertAll []
        (LookupLog.found (SecretSource.answers store.resolve cache declared)) ∧
      lookedUp store cache declared = declared := by
  constructor
  · rw [resolve_outcome] at h
    split at h
    · cases h
    · cases h
      rfl
  · have hall : ∀ p ∈ SecretSource.answers store.resolve cache declared,
        (refusal? p).isSome = false := by
      intro p hp
      rw [refusal?_eq_none_iff.mpr (exists_resolve_ok_iff.mp ⟨secrets, h⟩ p hp), Option.isSome_none]
    rw [lookedUp_eq, throughFirst_eq_self hall, SecretSource.refs_answers]

theorem of_resolve_error {why : SecretError}
    (h : (resolve store cache declared).1 = .error why) :
    ∃ before r e after,
      SecretSource.answers store.resolve cache declared = before ++ (r, .error e) :: after ∧
        (∀ p ∈ before, Settled p) ∧ ¬ Settled (r, .error e) ∧ why = .ofAnswer r e ∧
        lookedUp store cache declared = before.map Prod.fst ++ [r] := by
  have hwhy : (SecretSource.answers store.resolve cache declared).findSome? refusal? =
      some why := by
    rw [resolve_outcome] at h
    split at h
    · rename_i hfirst
      cases h
      exact hfirst
    · cases h
  obtain ⟨before, ⟨r, x⟩, after, hanswers, hrefused, hbefore⟩ :=
    List.findSome?_eq_some_iff.mp hwhy
  obtain ⟨e, rfl, hsettled, rfl⟩ := refusal?_eq_some_iff.mp hrefused
  refine ⟨before, r, e, after, hanswers, fun p hp => ?_, hsettled, rfl, ?_⟩
  · exact refusal?_eq_none_iff.mp (hbefore p hp)
  · rw [lookedUp_eq, hanswers, throughFirst_append_cons, List.map_append]
    · rfl
    · intro p hp
      rw [hbefore p hp, Option.isSome_none]
    · rw [hrefused, Option.isSome_some]

end

/-- An instance has its secrets exactly if each declared reference has a value or is optional and
not found. Then its variables are the names for which there is a value, each with the last one that
was found for it, and all references have been looked up. Otherwise it is told of the first
reference for which neither holds, and those behind it are not looked up. What is not found is the
answer of the provider, or that there is no such provider; with a truthful memory, and no colon in
the names of providers, the answers are those that the providers give. -/
theorem secrets_all_or_none (store : SecretStore) (cache : SecretCache)
    (declared : List SecretRef) :
    let answers := SecretSource.answers store.resolve cache declared
    let outcome := (resolve store cache declared).1
    let asked := lookedUp store cache declared
    answers.map Prod.fst = declared ∧
    ((∃ secrets, outcome = .ok secrets) ↔ ∀ p ∈ answers, Settled p) ∧
    (∀ secrets, outcome = .ok secrets → asked = declared ∧ secrets.values.Ascending ∧
      (∀ name, name ∈ secrets.values.names ↔
        ∃ p ∈ answers, p.1.name = name ∧ ∃ value, p.2 = .ok value) ∧
      ∀ name value, secrets.values.get? name = some value ↔
        ∃ before r after, answers = before ++ (r, .ok value) :: after ∧ r.name = name ∧
          ∀ p ∈ after, p.1.name = name → ∀ v, p.2 ≠ .ok v) ∧
    (∀ why, outcome = .error why → ∃ before r e after,
      answers = before ++ (r, .error e) :: after ∧ (∀ p ∈ before, Settled p) ∧
        ¬ Settled (r, .error e) ∧ why = .ofAnswer r e ∧ asked = before.map Prod.fst ++ [r]) ∧
    (∀ p ∈ answers, ∀ e, p.2 = .error e →
      match store.providers.get? (store.providerName p.1) with
      | .none => e = .secretProviderNotConfigured (store.providerName p.1)
      | some provider => provider p.1.storeKey = .error e) ∧
    (store.Truthful cache → (∀ r ∈ declared, store.Plain r) →
      answers = declared.map fun r => (r, store.lookup r)) := by
  intro answers outcome asked
  refine ⟨SecretSource.refs_answers _ _ _, exists_resolve_ok_iff, fun secrets h => ?_,
    fun why h => of_resolve_error h, fun p hp e he => ?_, fun htruthful hplain => ?_⟩
  · obtain ⟨hvalues, hasked⟩ := of_resolve_ok h
    rw [hvalues]
    exact ⟨hasked, Bindings.ascending_nil.insertAll _,
      LookupLog.mem_names_insertAll_found_iff answers,
      LookupLog.get?_insertAll_found_iff answers⟩
  · exact SecretStore.lookup_error_cases (SecretStore.lookup_of_mem_answers hp he)
  · exact htruthful.answers hplain

def smallVault : SecretStore :=
  SecretStore.empty.register "env" (.ofValues [("A", "first"), ("C", "third")])

/-- A name that is declared twice, and in between a secret that is not there and not needed. -/
def repeated : List SecretRef :=
  [.named "A", ⟨"B", .none, .none, false⟩, ⟨"A", some "C", .none, true⟩]

def fromNowhere : SecretRef := ⟨"X", .none, some "vault", false⟩

/-- The later value for a name stays, and the missing secret is left out. A provider that is not
there fails the instance, and what is declared behind it is not looked up. -/
theorem secrets_all_or_none_vault :
    (∃ secrets, (resolve smallVault [] repeated).1 = .ok secrets ∧
      secrets.values.get? "A" = some "third" ∧ "B" ∉ secrets.values.names) ∧
    (resolve smallVault [] [.named "A", fromNowhere, .named "B"]).1 =
      .error (.providerNotConfigured "vault") ∧
    lookedUp smallVault [] [.named "A", fromNowhere, .named "B"] =
      [.named "A", fromNowhere] := by
  refine ⟨?_, rfl, ?_⟩
  · have hanswers : SecretSource.answers smallVault.resolve [] repeated =
        [(.named "A", .ok "first"),
          (⟨"B", .none, .none, false⟩, .error (.secretNotFound "B")),
          (⟨"A", some "C", .none, true⟩, .ok "third")] := rfl
    obtain ⟨_, hok, hvalues, _⟩ := secrets_all_or_none smallVault [] repeated
    rw [hanswers] at hok hvalues
    obtain ⟨secrets, hsecrets⟩ := hok.mpr (by simp [Settled])
    obtain ⟨_, _, hnames, hget⟩ := hvalues secrets hsecrets
    refine ⟨secrets, hsecrets, ?_, ?_⟩
    · exact (hget "A" "third").mpr ⟨[_, _], _, [], rfl, rfl, by simp⟩
    · rw [hnames]
      simp [SecretRef.named]
  · obtain ⟨_, _, _, herror, _⟩ :=
      secrets_all_or_none smallVault [] [.named "A", fromNowhere, .named "B"]
    obtain ⟨before, r, e, after, hanswers, hbefore, _, _, hasked⟩ := herror _ rfl
    rw [hasked]
    rcases before with _ | ⟨a, _ | ⟨x, before⟩⟩
    · cases hanswers
    · cases hanswers
      rfl
    · have hx : (fromNowhere, .error (.secretProviderNotConfigured "vault")) = x :=
        (List.cons.inj (List.cons.inj hanswers).2).1
      have hsettled := hbefore x (by simp)
      rw [← hx, ← refusal?_eq_none_iff] at hsettled
      cases hsettled

end ScopedSecrets

end GatedPipeline
