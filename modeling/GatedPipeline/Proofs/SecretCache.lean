import GatedPipeline.Secret.Scope

namespace GatedPipeline

namespace SecretStore

/-- The provider of a reference has no colon in its name, so the reference is told from others by
the name under which its value is remembered. -/
def Plain (store : SecretStore) (r : SecretRef) : Prop := ':' ∉ (store.providerName r).toList

instance (store : SecretStore) (r : SecretRef) : Decidable (store.Plain r) :=
  inferInstanceAs (Decidable (':' ∉ (store.providerName r).toList))

/-- What is remembered for a reference is what its provider answers. -/
def Truthful (store : SecretStore) (cache : SecretCache) : Prop :=
  ∀ r, store.Plain r → ∀ value, cache.get? (store.cacheKey r) = some value →
    store.lookup r = .ok value

variable {store : SecretStore} {cache : SecretCache} {r r' : SecretRef}

theorem truthful_nil (store : SecretStore) : store.Truthful [] := by
  intro r _ value h
  cases h

/-- The first colon of a key is the one that ends the name of the provider. -/
theorem Plain.cacheKey_inj (h : store.Plain r) (h' : store.Plain r')
    (he : store.cacheKey r = store.cacheKey r') :
    store.providerName r = store.providerName r' ∧ r.storeKey = r'.storeKey := by
  have hl := congrArg String.toList he
  simp only [cacheKey, String.toList_append, List.append_assoc] at hl
  obtain ⟨hp, hk⟩ := Text.append_cons_inj h h' hl
  exact ⟨String.toList_injective hp, String.toList_injective hk⟩

/-- With a colon in the name of a provider, two references can be taken for one another. -/
example : empty.cacheKey ⟨"A", some "b:c", some "a", true⟩ =
    empty.cacheKey ⟨"B", some "c", some "a:b", true⟩ := by decide

theorem lookup_congr (hp : store.providerName r = store.providerName r')
    (hk : r.storeKey = r'.storeKey) : store.lookup r = store.lookup r' := by
  simp only [lookup, hp, hk]

theorem Truthful.insert (h : store.Truthful cache) (hr : store.Plain r) {value : String}
    (hl : store.lookup r = .ok value) : store.Truthful (cache.insert (store.cacheKey r) value) := by
  intro r' hr' value' hv
  by_cases he : store.cacheKey r' = store.cacheKey r
  · obtain ⟨hp, hk⟩ := hr'.cacheKey_inj hr he
    rw [he, Bindings.get?_insert_self, Option.some.injEq] at hv
    rw [lookup_congr hp hk, hl, hv]
  · rw [Bindings.get?_insert_of_ne he] at hv
    exact h r' hr' value' hv

theorem Truthful.remembered? (h : store.Truthful cache) (hr : store.Plain r) {value : String}
    (hv : store.remembered? cache r = some value) : store.lookup r = .ok value := by
  unfold SecretStore.remembered? at hv
  split at hv
  · exact h r hr value hv
  · cases hv

/-- A reference gets what its provider answers, and the memory stays truthful. -/
theorem Truthful.resolve (h : store.Truthful cache) (hr : store.Plain r) :
    (store.resolve cache r).1 = store.lookup r ∧ store.Truthful (store.resolve cache r).2 := by
  unfold SecretStore.resolve
  split
  · rename_i value hv
    exact ⟨(h.remembered? hr hv).symm, h⟩
  · split
    · rename_i value hl
      exact ⟨hl.symm, h.insert hr hl⟩
    · rename_i e hl
      exact ⟨hl.symm, h⟩

end SecretStore

/-- Looking up what an instance declares leaves a truthful memory truthful. -/
theorem ScopedSecrets.truthful_resolveOnto {store : SecretStore} {cache : SecretCache}
    (h : store.Truthful cache) {declared : List SecretRef} (hp : ∀ r ∈ declared, store.Plain r)
    (values : Bindings String) : store.Truthful (resolveOnto store cache values declared).2 := by
  induction declared generalizing cache values with
  | nil => exact h
  | cons r rest ih =>
    have ht := (h.resolve (hp r List.mem_cons_self)).2
    have hrest : ∀ r ∈ rest, store.Plain r := fun r hr => hp r (List.mem_cons_of_mem _ hr)
    cases hx : store.resolve cache r with
    | mk x after =>
      rw [hx] at ht
      simp only [resolveOnto, hx]
      cases x with
      | ok value => exact ih ht hrest _
      | error e =>
        cases e with
        | secretNotFound =>
          dsimp only
          split
          · exact ht
          · exact ih ht hrest _
        | _ => exact ht

end GatedPipeline
