import SenderPolicy.Text.Integer

/-!
The sizes and ages of caches, which the environment may set. The cache of a resolver is as large and
keeps as long as the other caches, if nothing else is set for it.
-/
namespace SenderPolicy

def version : Text := "1.0.0"

def defaultTimeoutRetries : Int := 2

structure Settings where
  cacheLength : Int
  cacheAge : Int
  resolverCacheLength : Int
  resolverCacheAge : Int

namespace Settings

def variableNames : List Text :=
  ["CACHE_MAX_LEN", "CACHE_MAX_AGE_SECONDS", "DNS_CACHE_MAX_LEN", "DNS_CACHE_MAX_AGE_SECONDS"]

def integer (environment : Text → Option Text) (name : Text) (default : Int) :
    Except Text.IntegerFault Int :=
  match environment name with
  | some t => Text.readInteger t
  | none => .ok default

def ofEnvironment (environment : Text → Option Text) : Except Text.IntegerFault Settings := do
  let cacheLength ← integer environment "CACHE_MAX_LEN" 200000
  let cacheAge ← integer environment "CACHE_MAX_AGE_SECONDS" 1800
  let resolverCacheLength ← integer environment "DNS_CACHE_MAX_LEN" cacheLength
  let resolverCacheAge ← integer environment "DNS_CACHE_MAX_AGE_SECONDS" cacheAge
  return { cacheLength, cacheAge, resolverCacheLength, resolverCacheAge }

end Settings
end SenderPolicy
