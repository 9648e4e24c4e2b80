import GatedPipeline.Proofs.SecretCache

namespace GatedPipeline

/-- What is left once the values under some names have expired. -/
def SecretCache.forget (cache : SecretCache) (expired : List String) : SecretCache :=
  cache.filter fun p => !expired.contains p.1

theorem SecretCache.get?_forget (cache : SecretCache) (expired : List String) (key : String) :
    (cache.forget expired).get? key = if key ∈ expired then none else cache.get? key := by
  induction cache with
  | nil => simp [forget, Bindings.get?]
  | cons p rest ih =>
    obtain ⟨name, value⟩ := p
    simp only [forget, List.filter_cons] at ih ⊢
    by_cases hn : name ∈ expired
    · have hkept : (!expired.contains name) = false := by simp [hn]
      rw [hkept, if_neg Bool.false_ne_true, ih, Bindings.get?]
      split
      · rfl
      · rename_i hk
        have hne : name ≠ key := fun he => hk (he ▸ hn)
        rw [if_neg hne]
    · have hkept : (!expired.contains name) = true := by simp [hn]
      rw [if_pos hkept, Bindings.get?, Bindings.get?, ih]
      split
      · rename_i he
        rw [if_neg (he ▸ hn)]
      · rfl

/-- A lookup of a reference, before which some of what is remembered has expired. -/
structure Access where
  expired : List String
  ref : SecretRef

namespace SecretStore

/-- The answers to lookups that follow one another and share what they remember. -/
def resolveAll (store : SecretStore) : SecretCache → List Access → List (Except Error String)
  | _, [] => []
  | cache, a :: rest =>
    (store.resolve (cache.forget a.expired) a.ref).1 ::
      resolveAll store (store.resolve (cache.forget a.expired) a.ref).2 rest

/-- Until it expires, a value under a name is the answer to whatever is looked up under it. -/
def Agrees (store : SecretStore) (key value : String) : List Access → Prop
  | [] => True
  | a :: rest =>
    key ∈ a.expired ∨
      (store.cacheKey a.ref = key → store.lookup a.ref = .ok value) ∧ Agrees store key value rest

/-- Each value that is answered agrees with what is looked up after it. -/
def Unconfused (store : SecretStore) : List Access → Prop
  | [] => True
  | a :: rest =>
    (∀ value, store.lookup a.ref = .ok value → store.Agrees (store.cacheKey a.ref) value rest) ∧
      Unconfused store rest

variable {store : SecretStore} {cache : SecretCache} {r : SecretRef} {rest accesses : List Access}

theorem resolve_of_get? (h : 0 < store.lifetimeSeconds) {value : String}
    (hv : cache.get? (store.cacheKey r) = some value) :
    store.resolve cache r = (.ok value, cache) := by
  simp only [resolve, remembered?, if_pos h, hv]

theorem resolve_of_lookup_ok (hv : cache.get? (store.cacheKey r) = none) {value : String}
    (hl : store.lookup r = .ok value) :
    store.resolve cache r = (.ok value, cache.insert (store.cacheKey r) value) := by
  simp only [resolve, remembered?, hv, ite_self, hl]

theorem resolve_of_lookup_error (hv : cache.get? (store.cacheKey r) = none) {e : Error}
    (hl : store.lookup r = .error e) : store.resolve cache r = (.error e, cache) := by
  simp only [resolve, remembered?, hv, ite_self, hl]

/-- One lookup gives the right answer and leaves only values that agree with the later ones exactly
if the values before it agree with it and with the later ones, and so does its own. -/
theorem resolve_agrees_iff (h : 0 < store.lifetimeSeconds) :
    ((store.resolve cache r).1 = store.lookup r ∧
      ∀ key value, (store.resolve cache r).2.get? key = some value → store.Agrees key value rest) ↔
    (∀ value, store.lookup r = .ok value → store.Agrees (store.cacheKey r) value rest) ∧
      ∀ key value, cache.get? key = some value →
        (store.cacheKey r = key → store.lookup r = .ok value) ∧ store.Agrees key value rest := by
  cases hget : cache.get? (store.cacheKey r) with
  | some known =>
    rw [resolve_of_get? h hget]
    constructor
    · rintro ⟨hl, ha⟩
      refine ⟨fun value hv => ?_, fun key value hk => ⟨?_, ha key value hk⟩⟩
      · cases hl.trans hv
        exact ha _ _ hget
      · rintro rfl
        cases hget.symm.trans hk
        exact hl.symm
    · rintro ⟨_, ha⟩
      exact ⟨((ha _ _ hget).1 rfl).symm, fun key value hk => (ha key value hk).2⟩
  | none =>
    -- Nothing is remembered under this name, so what is stays out of the way of the new value.
    have hother : ∀ key value, cache.get? key = some value → store.cacheKey r ≠ key := by
      rintro _ value hk rfl
      cases hget.symm.trans hk
    cases hl : store.lookup r with
    | error e =>
      rw [resolve_of_lookup_error hget hl]
      constructor
      · rintro ⟨_, ha⟩
        refine ⟨fun value he => ?_, fun key value hk => ?_⟩
        · cases he
        · exact ⟨fun he => absurd he (hother key value hk), ha key value hk⟩
      · rintro ⟨_, ha⟩
        exact ⟨rfl, fun key value hk => (ha key value hk).2⟩
    | ok answer =>
      rw [resolve_of_lookup_ok hget hl]
      constructor
      · rintro ⟨_, ha⟩
        refine ⟨fun value he => ?_, fun key value hk => ?_⟩
        · cases he
          exact ha _ _ (Bindings.get?_insert_self _ _ _)
        · have hne := hother key value hk
          refine ⟨fun he => absurd he hne, ha key value ?_⟩
          rw [Bindings.get?_insert_of_ne (Ne.symm hne), hk]
      · rintro ⟨hnew, hold⟩
        refine ⟨rfl, fun key value hk => ?_⟩
        by_cases he : key = store.cacheKey r
        · rw [he, Bindings.get?_insert_self, Option.some.injEq] at hk
          subst hk he
          exact hnew answer rfl
        · rw [Bindings.get?_insert_of_ne he] at hk
          exact (hold key value hk).2

theorem resolveAll_eq_map_iff (h : 0 < store.lifetimeSeconds) (cache : SecretCache)
    (accesses : List Access) :
    store.resolveAll cache accesses = accesses.map (fun a => store.lookup a.ref) ↔
      store.Unconfused accesses ∧
        ∀ key value, cache.get? key = some value → store.Agrees key value accesses := by
  -- Carried along: what is remembered agrees with the lookups to come.
  induction accesses generalizing cache with
  | nil => simp [resolveAll, Unconfused, Agrees]
  | cons a rest ih =>
    have hforget : (∀ key value, (cache.forget a.expired).get? key = some value →
          (store.cacheKey a.ref = key → store.lookup a.ref = .ok value) ∧
            store.Agrees key value rest) ↔
        ∀ key value, cache.get? key = some value → store.Agrees key value (a :: rest) := by
      refine forall_congr' fun key => forall_congr' fun value => ?_
      rw [Agrees, SecretCache.get?_forget]
      by_cases hm : key ∈ a.expired <;> simp [hm]
    rw [resolveAll, List.map_cons, List.cons.injEq, ih, Unconfused, ← hforget, and_left_comm,
      resolve_agrees_iff h, and_left_comm, and_assoc]

theorem Plain.agrees (hr : store.Plain r) {value : String} (hl : store.lookup r = .ok value)
    (h : ∀ a ∈ accesses, store.Plain a.ref) : store.Agrees (store.cacheKey r) value accesses := by
  induction accesses with
  | nil => trivial
  | cons a rest ih =>
    right
    refine ⟨fun he => ?_, ih fun b hb => h b (List.mem_cons_of_mem a hb)⟩
    obtain ⟨hp, hk⟩ := (h a List.mem_cons_self).cacheKey_inj hr he
    rw [lookup_congr hp hk, hl]

/-- Providers without a colon in their names are never confused. -/
theorem unconfused_of_plain (h : ∀ a ∈ accesses, store.Plain a.ref) :
    store.Unconfused accesses := by
  induction accesses with
  | nil => trivial
  | cons a rest ih =>
    have hrest : ∀ b ∈ rest, store.Plain b.ref := fun b hb => h b (List.mem_cons_of_mem a hb)
    exact ⟨fun value hl => (h a List.mem_cons_self).agrees hl hrest, ih hrest⟩

/-- Lookups that share a memory give what the providers answer exactly as long as no value stands
under the name of another reference while it is remembered, whatever expires when. Only a colon in
the name of a provider can bring that about: without one each reference gets the value that its own
provider holds for its own key, or is told that there is none, or no such provider. -/
theorem resolveAll_eq_lookups_iff (store : SecretStore) (h : 0 < store.lifetimeSeconds)
    (accesses : List Access) :
    (store.resolveAll [] accesses = accesses.map (fun a => store.lookup a.ref) ↔
        store.Unconfused accesses) ∧
      ((∀ a ∈ accesses, ':' ∉ (store.providerName a.ref).toList) →
        store.resolveAll [] accesses = accesses.map fun a => store.lookup a.ref) ∧
      ∀ r,
        (store.providers.get? (store.providerName r) = none →
          store.lookup r = .error (.secretProviderNotConfigured (store.providerName r))) ∧
        ∀ values, store.providers.get? (store.providerName r) = some (.ofValues values) →
          store.lookup r =
            match values.get? r.storeKey with
            | some value => .ok value
            | none => .error (.secretNotFound r.storeKey) := by
  have hexact : store.resolveAll [] accesses = accesses.map (fun a => store.lookup a.ref) ↔
      store.Unconfused accesses := by
    rw [resolveAll_eq_map_iff h]
    exact and_iff_left fun _ _ hk => nomatch hk
  refine ⟨hexact, fun hplain => hexact.mpr (unconfused_of_plain hplain), fun r => ⟨?_, ?_⟩⟩
  · intro hnone
    rw [lookup, hnone]
  · intro values hsome
    rw [lookup, hsome]
    rfl

/-- Two providers, the name of one of which goes on from that of the other with a colon. -/
def twoVaults : SecretStore :=
  (empty.register "a" (.ofValues [("b:c", "two")])).register "a:b" (.ofValues [("c", "one")])

/-- The same reference twice, and in between one to a value that is not there. -/
theorem resolveAll_eq_lookups_iff_vault :
    0 < twoVaults.lifetimeSeconds ∧
      twoVaults.resolveAll [] [⟨[], ⟨"TOKEN", some "b:c", some "a", true⟩⟩,
        ⟨[], ⟨"OTHER", some "c", some "a", true⟩⟩,
        ⟨["a:b:c"], ⟨"AGAIN", some "b:c", some "a", true⟩⟩] =
      [.ok "two", .error (.secretNotFound "c"), .ok "two"] :=
  ⟨by decide, ((resolveAll_eq_lookups_iff twoVaults (by decide) _).2.1 (by decide)).trans rfl⟩

/-- A reference to the one provider is answered with what the other one holds. -/
theorem resolveAll_confuses_colons :
    0 < twoVaults.lifetimeSeconds ∧
      twoVaults.resolveAll [] [⟨[], ⟨"FIRST", some "c", some "a:b", true⟩⟩,
        ⟨[], ⟨"SECOND", some "b:c", some "a", true⟩⟩] = [.ok "one", .ok "one"] ∧
      twoVaults.lookup ⟨"SECOND", some "b:c", some "a", true⟩ = .ok "two" :=
  ⟨by decide, rfl, rfl⟩

end SecretStore

/-- What happens to a store that is in use: a reference is looked up, or the providers answer
differently from now on. -/
inductive StoreEvent where
  | lookedUp (r : SecretRef)
  | changed (answers : String → SecretProvider)

namespace SecretStore

/-- The registered providers stay, and each of them answers as it is told by its name. -/
def withAnswers (s : SecretStore) (answers : String → SecretProvider) : SecretStore :=
  { s with providers := s.providers.map fun p => (p.1, answers p.1) }

/-- The provider of the reference is registered and has a value for it now. -/
def Holds (s : SecretStore) (r : SecretRef) : Prop :=
  ∃ provider, s.providers.get? (s.providerName r) = some provider ∧
    ∃ value, provider r.storeKey = .ok value

theorem lookup_ok_iff_holds {s : SecretStore} {r : SecretRef} :
    (∃ value, s.lookup r = .ok value) ↔ s.Holds r := by
  rw [lookup, Holds]
  cases s.providers.get? (s.providerName r) with
  | none => simp
  | some provider => simp

/-- Two references to what one provider holds for one key. -/
def SameSecret (s : SecretStore) (r r' : SecretRef) : Prop :=
  s.providerName r = s.providerName r' ∧ r.storeKey = r'.storeKey

instance (s : SecretStore) (r r' : SecretRef) : Decidable (s.SameSecret r r') :=
  inferInstanceAs (Decidable (s.providerName r = s.providerName r' ∧ r.storeKey = r'.storeKey))

theorem SameSecret.cacheKey_eq {s : SecretStore} {r r' : SecretRef} (h : s.SameSecret r r') :
    s.cacheKey r = s.cacheKey r' := by
  rw [cacheKey, cacheKey, h.1, h.2]

end SecretStore

/-- References that were looked up, each with the answer that was given. -/
abbrev LookupLog := List (SecretRef × Except Error String)

/-- The first value that was found for the provider and the key of a reference. -/
def LookupLog.firstFound? (s : SecretStore) (r : SecretRef) (log : LookupLog) : Option String :=
  log.findSome? fun p => if s.SameSecret p.1 r then p.2.toOption else none

/-- A store together with what it remembers. -/
structure StoreInUse where
  store : SecretStore
  cache : SecretCache

namespace StoreInUse

def opened (s : SecretStore) : StoreInUse := ⟨s, []⟩

def answer (u : StoreInUse) (r : SecretRef) : Except Error String := (u.store.resolve u.cache r).1

def step (u : StoreInUse) : StoreEvent → StoreInUse
  | .lookedUp r => { u with cache := (u.store.resolve u.cache r).2 }
  | .changed answers => { u with store := u.store.withAnswers answers }

def after (u : StoreInUse) (events : List StoreEvent) : StoreInUse := events.foldl step u

def log : StoreInUse → List StoreEvent → LookupLog
  | _, [] => []
  | u, .lookedUp r :: rest => (r, u.answer r) :: log (u.step (.lookedUp r)) rest
  | u, .changed answers :: rest => log (u.step (.changed answers)) rest

/-- What is remembered for a reference is what was found for it first. -/
def Remembers (u : StoreInUse) (seen : LookupLog) : Prop :=
  ∀ r, u.store.Plain r → u.cache.get? (u.store.cacheKey r) = seen.firstFound? u.store r

variable {u : StoreInUse} {seen : LookupLog} {r r' : SecretRef} {events : List StoreEvent}

theorem remembers_opened (s : SecretStore) : (opened s).Remembers [] := fun _ _ => rfl

theorem firstFound?_append_singleton (s : SecretStore) (r r' : SecretRef) (seen : LookupLog)
    (answer : Except Error String) : (seen ++ [(r', answer)]).firstFound? s r =
      (seen.firstFound? s r).or (if s.SameSecret r' r then answer.toOption else none) := by
  rw [LookupLog.firstFound?, List.findSome?_append, List.findSome?_singleton]
  rfl

@[simp] theorem step_lookedUp_store (u : StoreInUse) (r : SecretRef) :
    (u.step (.lookedUp r)).store = u.store := rfl

theorem answer_of_get? (h : 0 < u.store.lifetimeSeconds) {value : String}
    (hv : u.cache.get? (u.store.cacheKey r) = some value) : u.answer r = .ok value := by
  rw [answer, SecretStore.resolve_of_get? h hv]

theorem answer_of_get?_eq_none (hv : u.cache.get? (u.store.cacheKey r) = none) :
    u.answer r = u.store.lookup r := by
  cases hl : u.store.lookup r with
  | ok value => rw [answer, SecretStore.resolve_of_lookup_ok hv hl]
  | error e => rw [answer, SecretStore.resolve_of_lookup_error hv hl]

/-- Without a lifetime nothing that is remembered is read. -/
theorem answer_of_lifetime_zero (h : u.store.lifetimeSeconds = 0) :
    u.answer r = u.store.lookup r := by
  have hr : u.store.remembered? u.cache r = none := by
    rw [SecretStore.remembered?, if_neg (by omega)]
  rw [answer, SecretStore.resolve, hr]
  cases u.store.lookup r <;> rfl

/-- Only a value that is found is written down. -/
theorem step_of_answer_error {e : Error} (h : u.answer r = .error e) :
    u.step (.lookedUp r) = u := by
  have hcache : (u.store.resolve u.cache r).2 = u.cache := by
    simp only [answer, SecretStore.resolve] at h ⊢
    split at h
    · cases h
    · split at h
      · cases h
      · rfl
  rw [step, hcache]

/-- A lookup changes what is remembered as it changes what was found first. -/
theorem Remembers.lookedUp (h : u.Remembers seen) (hl : 0 < u.store.lifetimeSeconds)
    (hr : u.store.Plain r) : (u.step (.lookedUp r)).Remembers (seen ++ [(r, u.answer r)]) := by
  intro r' hr'
  rw [step_lookedUp_store] at hr' ⊢
  rw [firstFound?_append_singleton, ← h r' hr']
  change (u.store.resolve u.cache r).2.get? (u.store.cacheKey r') = _
  cases hget : u.cache.get? (u.store.cacheKey r) with
  | some value =>
    rw [SecretStore.resolve_of_get? hl hget]
    by_cases hs : u.store.SameSecret r r'
    · rw [← hs.cacheKey_eq, hget, Option.some_or]
    · rw [if_neg hs, Option.or_none]
  | none =>
    rw [answer_of_get?_eq_none hget]
    cases hlookup : u.store.lookup r with
    | error e =>
      rw [SecretStore.resolve_of_lookup_error hget hlookup, Except.toOption, ite_self,
        Option.or_none]
    | ok value =>
      rw [SecretStore.resolve_of_lookup_ok hget hlookup]
      by_cases hs : u.store.SameSecret r r'
      · rw [← hs.cacheKey_eq, Bindings.get?_insert_self, hget, if_pos hs, Option.none_or,
          Except.toOption]
      · have hkey : u.store.cacheKey r' ≠ u.store.cacheKey r :=
          fun he => hs (hr.cacheKey_inj hr' he.symm)
        rw [Bindings.get?_insert_of_ne hkey, if_neg hs, Option.or_none]

/-- Nothing that is remembered depends on what the providers answer now. -/
theorem Remembers.changed (h : u.Remembers seen) (answers : String → SecretProvider) :
    (u.step (.changed answers)).Remembers seen := h

theorem log_append (u : StoreInUse) (events later : List StoreEvent) :
    u.log (events ++ later) = u.log events ++ (u.after events).log later := by
  induction events generalizing u with
  | nil => rfl
  | cons e rest ih =>
    cases e with
    | lookedUp r => exact congrArg _ (ih _)
    | changed answers => exact ih _

/-- Whatever happens, only what the providers answer and what is remembered changes. -/
theorem store_after (u : StoreInUse) (events : List StoreEvent) :
    ∃ providers, (u.after events).store = { u.store with providers } := by
  induction events generalizing u with
  | nil => exact ⟨_, rfl⟩
  | cons e rest ih =>
    obtain ⟨providers, h⟩ := ih (u.step e)
    cases e with
    | lookedUp r => exact ⟨providers, h⟩
    | changed answers => exact ⟨providers, h⟩

theorem Remembers.after (h : u.Remembers seen) (hl : 0 < u.store.lifetimeSeconds)
    (hplain : ∀ r, .lookedUp r ∈ events → u.store.Plain r) :
    (u.after events).Remembers (seen ++ u.log events) := by
  -- The log up to these events is carried along.
  induction events generalizing u seen with
  | nil => rwa [log, List.append_nil]
  | cons e rest ih =>
    have hrest : ∀ r, .lookedUp r ∈ rest → u.store.Plain r :=
      fun r hr => hplain r (List.mem_cons_of_mem e hr)
    cases e with
    | lookedUp r =>
      have hstep := h.lookedUp hl (hplain r List.mem_cons_self)
      rw [log, List.append_cons]
      exact ih hstep hl hrest
    | changed answers => exact ih (h.changed answers) hl hrest

/-- There was a first value exactly if there was any. -/
theorem isSome_firstFound?_iff (s : SecretStore) (r : SecretRef) (seen : LookupLog) :
    (∃ value, seen.firstFound? s r = some value) ↔
      ∃ p ∈ seen, s.SameSecret p.1 r ∧ ∃ value, p.2 = .ok value := by
  rw [← Option.isSome_iff_exists, LookupLog.firstFound?, List.findSome?_isSome_iff]
  refine exists_congr fun p => and_congr_right fun _ => ?_
  obtain ⟨r', x⟩ := p
  by_cases hs : s.SameSecret r' r
  · cases x <;> simp [hs, Except.toOption]
  · simp [hs]

theorem Remembers.answer_eq (h : u.Remembers seen) (hl : 0 < u.store.lifetimeSeconds)
    (hr : u.store.Plain r) :
    u.answer r = match seen.firstFound? u.store r with
      | some value => .ok value
      | none => u.store.lookup r := by
  rw [← h r hr]
  split
  · rename_i hget
    exact answer_of_get? hl hget
  · rename_i hget
    exact answer_of_get?_eq_none hget

theorem Remembers.answer_ok_iff (h : u.Remembers seen) (hl : 0 < u.store.lifetimeSeconds)
    (hr : u.store.Plain r) :
    (∃ value, u.answer r = .ok value) ↔
      (∃ p ∈ seen, u.store.SameSecret p.1 r ∧ ∃ value, p.2 = .ok value) ∨ u.store.Holds r := by
  rw [h.answer_eq hl hr, ← isSome_firstFound?_iff, ← SecretStore.lookup_ok_iff_holds]
  cases seen.firstFound? u.store r with
  | some value => simp
  | none => simp

/-- The answer to a reference after any events is the first value that was found for the same
provider and key, and what the provider answers now where none was; so there is a value exactly if
one was found before or the provider is registered and has one now. Without a lifetime it is always
the answer of the provider. A lookup that fails changes nothing, so without it all others get the
same answers. -/
theorem lookups_remember_successes (s : SecretStore) (before : List StoreEvent) (r : SecretRef) :
    let u := (opened s).after before
    let seen := (opened s).log before
    (0 < s.lifetimeSeconds → (∀ r', .lookedUp r' ∈ before ++ [.lookedUp r] → s.Plain r') →
      (u.answer r = match seen.firstFound? s r with
        | some value => .ok value
        | none => u.store.lookup r) ∧
      ((∃ value, u.answer r = .ok value) ↔
        (∃ p ∈ seen, s.SameSecret p.1 r ∧ ∃ value, p.2 = .ok value) ∨ u.store.Holds r)) ∧
    (s.lifetimeSeconds = 0 → u.answer r = u.store.lookup r) ∧
    ∀ e, u.answer r = .error e → u.step (.lookedUp r) = u ∧
      ∀ later,
        (opened s).log (before ++ .lookedUp r :: later) = seen ++ (r, .error e) :: u.log later ∧
        (opened s).log (before ++ later) = seen ++ u.log later := by
  intro u seen
  obtain ⟨providers, hstore⟩ : ∃ providers, u.store = { s with providers } :=
    store_after (opened s) before
  refine ⟨fun hl hplain => ?_, fun hl => ?_, fun e he => ?_⟩
  · have hbefore : ∀ r', .lookedUp r' ∈ before → s.Plain r' :=
      fun r' hr' => hplain r' (List.mem_append_left _ hr')
    have hr : s.Plain r := hplain r List.mem_concat_self
    have hknown : u.Remembers seen := (remembers_opened s).after hl hbefore
    have hanswer := hknown.answer_eq (r := r) (by rwa [hstore]) (by rwa [hstore])
    have hfound := hknown.answer_ok_iff (r := r) (by rwa [hstore]) (by rwa [hstore])
    rw [hstore] at hanswer hfound ⊢
    exact ⟨hanswer, hfound⟩
  · exact answer_of_lifetime_zero (by rwa [hstore])
  · have hstep := step_of_answer_error he
    refine ⟨hstep, fun later => ⟨?_, log_append (opened s) before later⟩⟩
    calc (opened s).log (before ++ .lookedUp r :: later)
        = seen ++ (r, u.answer r) :: (u.step (.lookedUp r)).log later := log_append _ _ _
      _ = seen ++ (r, .error e) :: u.log later := by rw [he, hstep]

def bareVault : SecretStore := SecretStore.empty.register "env" (.ofValues [])

/-- A key that is not there, a first value for it, a second one, and then none. -/
def rewritten : List StoreEvent :=
  [.lookedUp (.named "A"), .changed fun _ => .ofValues [("A", "first")],
    .lookedUp ⟨"B", some "A", some "env", true⟩, .changed fun _ => .ofValues [("A", "second")],
    .lookedUp (.named "A"), .changed fun _ => .ofValues []]

/-- The first value stays the answer. Without a lifetime there is none at the end, and the lookup
that fails then is not missed by the one after it. -/
theorem lookups_remember_successes_rewritten :
    ((opened bareVault).after rewritten).answer (.named "A") = .ok "first" ∧
    ((opened { bareVault with lifetimeSeconds := 0 }).after rewritten).answer (.named "A") =
      .error (.secretNotFound "A") ∧
    (opened bareVault).log (rewritten ++ [.lookedUp (.named "C"), .lookedUp (.named "A")]) =
      (opened bareVault).log rewritten ++
        [(.named "C", .error (.secretNotFound "C")), (.named "A", .ok "first")] := by
  have hplain : ∀ r, .lookedUp r ∈ rewritten ++ [.lookedUp (.named "A")] → bareVault.Plain r := by
    intro r hr
    simp only [rewritten, List.cons_append, List.nil_append, List.mem_cons, List.not_mem_nil,
      StoreEvent.lookedUp.injEq, reduceCtorEq, or_false, false_or] at hr
    rcases hr with rfl | rfl | rfl | rfl <;> decide
  have hmissing : ((opened bareVault).after rewritten).answer (.named "C") =
      .error (.secretNotFound "C") := rfl
  refine ⟨?_, ?_, ?_⟩
  · exact ((lookups_remember_successes bareVault rewritten _).1 (by decide) hplain).1.trans rfl
  · exact ((lookups_remember_successes { bareVault with lifetimeSeconds := 0 } rewritten
      _).2.1 rfl).trans rfl
  · exact (((lookups_remember_successes bareVault rewritten _).2.2 _ hmissing).2
      [.lookedUp (.named "A")]).1.trans rfl

end StoreInUse

end GatedPipeline
