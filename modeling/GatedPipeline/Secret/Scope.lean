import GatedPipeline.Secret.Store
import GatedPipeline.Text.Quoted
import GatedPipeline.Text.Affix

namespace GatedPipeline

inductive SecretError where
  | missingCredential (name : String)
  | providerNotConfigured (provider : String)
  | providerFailed (name : String) (cause : Error)
deriving DecidableEq, Repr

namespace SecretError

def message : SecretError → String
  | .missingCredential name => "missing credential " ++ Text.ticked name
  | .providerNotConfigured provider => "secret provider not configured: " ++ provider
  | .providerFailed name cause =>
    "secret provider failed for " ++ Text.ticked name ++ ": " ++ cause.message

end SecretError

/-- Values by the variable that shows them. -/
structure ScopedSecrets where
  values : Bindings String
deriving DecidableEq

namespace ScopedSecrets

def none : ScopedSecrets := ⟨[]⟩

/-- In an environment, secrets take the place of other variables. -/
def applyTo (s : ScopedSecrets) (env : Bindings String) : Bindings String := env.insertAll s.values

/-- The values to hide, long ones first, so that one that contains another is hidden whole. -/
def hidden (s : ScopedSecrets) : List String :=
  ((s.values.map Prod.snd).filter (!·.isEmpty)).mergeSort
    fun a b => b.utf8ByteSize ≤ a.utf8ByteSize

def stars : String := "***"

def mask (s : ScopedSecrets) (text : String) : String :=
  s.hidden.foldl (fun t value => Text.replaceAll value stars t) text

/-- Names alone; a value is never shown. -/
def shown (s : ScopedSecrets) : String :=
  "ScopedSecrets \x7b names: " ++ Text.quotedList s.values.names ++ " \x7d"

/-- Adds the declared secrets in their order, up to the first failure that is not passed over. -/
def resolveOnto (store : SecretStore) :
    SecretCache → Bindings String → List SecretRef → Except SecretError ScopedSecrets × SecretCache
  | cache, values, [] => (.ok ⟨values⟩, cache)
  | cache, values, r :: rest =>
    match store.resolve cache r with
    | (.ok value, cache) => resolveOnto store cache (values.insert r.name value) rest
    -- Only that a secret is not found can be passed over, and only if it is optional.
    | (.error (.secretNotFound _), cache) =>
      if r.required then (.error (.missingCredential r.name), cache)
      else resolveOnto store cache values rest
    | (.error (.secretProviderNotConfigured p), cache) => (.error (.providerNotConfigured p), cache)
    | (.error e, cache) => (.error (.providerFailed r.name e), cache)

def resolve (store : SecretStore) (cache : SecretCache) (declared : List SecretRef) :
    Except SecretError ScopedSecrets × SecretCache :=
  resolveOnto store cache [] declared

end ScopedSecrets

end GatedPipeline
