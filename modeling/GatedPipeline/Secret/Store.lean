import GatedPipeline.Definition.Basic
import GatedPipeline.Environment
import GatedPipeline.Error
import GatedPipeline.Json.Texts

namespace GatedPipeline

/-- A provider answers a key with a value or says why it has none. -/
abbrev SecretProvider := String → Except Error String

namespace SecretProvider

def ofValues (values : Bindings String) : SecretProvider := fun key =>
  match values.get? key with
  | some value => .ok value
  | none => .error (.secretNotFound key)

/-- Values from an object of texts; of members with equal names the last one counts. -/
def valuesOfText (content : String) : Except Error (Bindings String) :=
  ((Json.readTexts content).map Bindings.ofList).mapError .serialization

/-- Reads environment variables, whose names start with `lead`. -/
def ofEnvironment (environment : Environment) (lead : Option String) : SecretProvider :=
  fun key =>
    match environment.value? (lead.getD "" ++ key) with
    | some value => .ok value
    | none => .error (.secretNotFound key)

def failing (message : String) : SecretProvider := fun _ => .error (.internal message)

end SecretProvider

/-- The providers by name, and the one that is asked where a reference names none. A lifetime of
zero seconds switches the memory off. -/
structure SecretStore where
  defaultProvider : String
  lifetimeSeconds : Nat
  providers : Bindings SecretProvider

abbrev SecretCache := Bindings String

namespace SecretStore

def empty : SecretStore := ⟨"env", 300, []⟩

def register (s : SecretStore) (name : String) (p : SecretProvider) : SecretStore :=
  { s with providers := s.providers.insert name p }

def providerName (s : SecretStore) (r : SecretRef) : String := r.provider.getD s.defaultProvider

def shownValue : String := "SecretValue \x7b value: \"***\" \x7d"

/-- The name under which a value is remembered. -/
def cacheKey (s : SecretStore) (r : SecretRef) : String := s.providerName r ++ ":" ++ r.storeKey

def remembered? (s : SecretStore) (cache : SecretCache) (r : SecretRef) : Option String :=
  if 0 < s.lifetimeSeconds then cache.get? (s.cacheKey r) else none

/-- What the provider answers at this moment. -/
def lookup (s : SecretStore) (r : SecretRef) : Except Error String :=
  match s.providers.get? (s.providerName r) with
  | none => .error (.secretProviderNotConfigured (s.providerName r))
  | some provider => provider r.storeKey

/-- A remembered value or the one that the provider answers. -/
def resolve (s : SecretStore) (cache : SecretCache) (r : SecretRef) :
    Except Error String × SecretCache :=
  match s.remembered? cache r with
  | some value => (.ok value, cache)
  | none =>
    match s.lookup r with
    -- Failures are not remembered.
    | .ok value => (.ok value, cache.insert (s.cacheKey r) value)
    | .error e => (.error e, cache)

end SecretStore

end GatedPipeline
