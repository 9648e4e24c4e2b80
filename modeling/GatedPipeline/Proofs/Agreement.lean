import GatedPipeline.Proofs.SecretCache
import Mathlib.Data.List.Forall2

namespace GatedPipeline

/-- The same names in the same order, with values that are related, name by name. -/
def Bindings.AlikeBy {α β : Type} (R : String → α → β → Prop) (m : Bindings α) (m' : Bindings β) :
    Prop :=
  List.Forall₂ (fun a b => a.1 = b.1 ∧ R a.1 a.2 b.2) m m'

namespace Bindings.AlikeBy

variable {α β : Type} {R : String → α → β → Prop} {m : Bindings α} {m' : Bindings β}

theorem insert (h : m.AlikeBy R m') (name : String) {v : α} {w : β} (hv : R name v w) :
    (m.insert name v).AlikeBy R (m'.insert name w) := by
  induction h with
  | nil => exact .cons ⟨rfl, hv⟩ .nil
  | @cons a b m m' hab hrest ih =>
    obtain ⟨n, x⟩ := a
    obtain ⟨n', y⟩ := b
    obtain ⟨rfl, hxy⟩ := hab
    unfold Bindings.insert
    dsimp only
    split
    · exact .cons ⟨rfl, hv⟩ hrest
    · split
      · exact .cons ⟨rfl, hv⟩ (.cons ⟨rfl, hxy⟩ hrest)
      · exact .cons ⟨rfl, hxy⟩ ih

theorem insertAll (h : m.AlikeBy R m') {pairs : List (String × α)} {pairs' : List (String × β)}
    (hp : AlikeBy R pairs pairs') : (m.insertAll pairs).AlikeBy R (m'.insertAll pairs') := by
  induction hp generalizing m m' with
  | nil => exact h
  | @cons a b pairs pairs' hab _ ih =>
    obtain ⟨n, v⟩ := a
    obtain ⟨n', w⟩ := b
    obtain ⟨rfl, hvw⟩ := hab
    exact ih (h.insert n hvw)

end Bindings.AlikeBy

theorem Bindings.AlikeBy.eq {α : Type} {m m' : Bindings α} (h : m.AlikeBy (fun _ => Eq) m') :
    m = m' := by
  induction h with
  | nil => rfl
  | cons hab _ ih => rw [Prod.ext hab.1 hab.2, ih]

theorem Bindings.alikeBy_refl {α : Type} {R : String → α → α → Prop} (h : ∀ name v, R name v v)
    (m : Bindings α) : m.AlikeBy R m :=
  List.forall₂_same.mpr fun a _ => ⟨rfl, h a.1 a.2⟩

/-- Answers of the same kind: both found, with related values, both missing, or failing with the
same error. -/
inductive SecretStore.AlikeBy (R : String → String → Prop) :
    Except Error String → Except Error String → Prop where
  | found {v w : String} (values : R v w) : AlikeBy R (.ok v) (.ok w)
  | missing (key key' : String) :
    AlikeBy R (.error (.secretNotFound key)) (.error (.secretNotFound key'))
  | failing (e : Error) : AlikeBy R (.error e) (.error e)

theorem SecretStore.AlikeBy.imp {R S : String → String → Prop} {x y : Except Error String}
    (h : AlikeBy R x y) (hRS : ∀ v w, R v w → S v w) : AlikeBy S x y := by
  cases h with
  | found values => exact .found (hRS _ _ values)
  | missing key key' => exact .missing key key'
  | failing e => exact .failing e

theorem SecretStore.alikeBy_refl {R : String → String → Prop} (h : ∀ v, R v v)
    (x : Except Error String) : AlikeBy R x x := by
  cases x with
  | ok v => exact .found (h v)
  | error e => exact .failing e

def SecretStore.holding (values : Bindings String) : SecretStore :=
  SecretStore.empty.register "env" (.ofValues values)

namespace ScopedSecrets

open SecretStore (Plain Truthful)

/-- Secrets by the same names, with related values, or the same reason for having none. -/
inductive AlikeBy (R : String → String → String → Prop) :
    Except SecretError ScopedSecrets → Except SecretError ScopedSecrets → Prop where
  | found {s s' : ScopedSecrets} (values : s.values.AlikeBy R s'.values) :
    AlikeBy R (.ok s) (.ok s')
  | failing (e : SecretError) : AlikeBy R (.error e) (.error e)

variable {R : String → String → String → Prop} {store store' : SecretStore}
  {cache cache' : SecretCache} {declared : List SecretRef}

/-- Stores that answer alike give an instance its secrets alike, whatever they remember. -/
theorem resolveOnto_alike (h : store.Truthful cache) (h' : store'.Truthful cache')
    (hp : ∀ r ∈ declared, store.Plain r) (hp' : ∀ r ∈ declared, store'.Plain r)
    (ha : ∀ r ∈ declared, SecretStore.AlikeBy (R r.name) (store.lookup r) (store'.lookup r))
    {values values' : Bindings String} (hv : values.AlikeBy R values') :
    AlikeBy R (resolveOnto store cache values declared).1
      (resolveOnto store' cache' values' declared).1 := by
  induction declared generalizing cache cache' values values' with
  | nil => exact .found hv
  | cons r rest ih =>
    simp only [List.mem_cons, forall_eq_or_imp] at hp hp' ha
    obtain ⟨he, ht⟩ := h.resolve hp.1
    obtain ⟨he', ht'⟩ := h'.resolve hp'.1
    have hr := ha.1
    rw [← he, ← he'] at hr
    cases hx : store.resolve cache r with
    | mk x after =>
      cases hy : store'.resolve cache' r with
      | mk y after' =>
        rw [hx] at ht hr
        rw [hy] at ht' hr
        simp only [resolveOnto, hx, hy]
        have hmissing : AlikeBy R
            (if r.required then (.error (.missingCredential r.name), after)
              else resolveOnto store after values rest).1
            (if r.required then (.error (.missingCredential r.name), after')
              else resolveOnto store' after' values' rest).1 := by
          split
          · exact .failing _
          · exact ih ht ht' hp.2 hp'.2 ha.2 hv
        cases hr with
        | found hvw => exact ih ht ht' hp.2 hp'.2 ha.2 (hv.insert r.name hvw)
        | missing => exact hmissing
        | failing e =>
          cases e with
          | secretNotFound => exact hmissing
          | _ => exact .failing _

theorem resolve_alike (h : store.Truthful cache) (h' : store'.Truthful cache')
    (hp : ∀ r ∈ declared, store.Plain r) (hp' : ∀ r ∈ declared, store'.Plain r)
    (ha : ∀ r ∈ declared, SecretStore.AlikeBy (R r.name) (store.lookup r) (store'.lookup r)) :
    AlikeBy R (resolve store cache declared).1 (resolve store' cache' declared).1 :=
  resolveOnto_alike h h' hp hp' ha List.Forall₂.nil

/-- Of a store, an instance sees nothing but the answers to what it declares. -/
theorem resolve_eq (h : store.Truthful cache) (h' : store'.Truthful cache')
    (hp : ∀ r ∈ declared, store.Plain r) (hp' : ∀ r ∈ declared, store'.Plain r)
    (ha : ∀ r ∈ declared, store.lookup r = store'.lookup r) :
    (resolve store cache declared).1 = (resolve store' cache' declared).1 := by
  have halike := resolve_alike (R := fun _ => Eq) h h' hp hp' fun r hr =>
    ha r hr ▸ SecretStore.alikeBy_refl Eq.refl (store.lookup r)
  generalize (resolve store cache declared).1 = x at halike ⊢
  generalize (resolve store' cache' declared).1 = y at halike ⊢
  cases halike with
  | found values => exact congrArg (Except.ok ∘ ScopedSecrets.mk) values.eq
  | failing e => rfl

end ScopedSecrets

end GatedPipeline
