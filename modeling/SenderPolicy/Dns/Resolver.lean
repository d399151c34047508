import SenderPolicy.Address.ReverseName
import SenderPolicy.Dns.Cache
import SenderPolicy.Dns.Query
import SenderPolicy.Domain
import SenderPolicy.Text.Bytes

/-!
A resolver over a wire. It asks again after a timeout, as often as it is told, and keeps what it was
given in a cache; failures are not kept.
-/
namespace SenderPolicy.Dns

inductive RecordType
  | a | aaaa | txt | mx | ptr
  deriving DecidableEq

def RecordType.name : RecordType → Text
  | .a => "A"
  | .aaaa => "AAAA"
  | .txt => "TXT"
  | .mx => "MX"
  | .ptr => "PTR"

inductive WireDatum
  | text (t : Text)
  | strings (parts : List (List UInt8))
  | exchange (priority : Int) (host : Text)

inductive WireOutcome
  | data (all : List WireDatum)
  | noAnswer
  | noSuchDomain
  | timeout
  | failed (trouble : Trouble) (reason : Text)

/-- A wire whose answers may change with each question. -/
abbrev Wire (σ : Type) := RecordType → Text → σ → WireOutcome × σ

def withoutFinalDots (t : Text) : Text := Text.dropTrailing (· == '.') t

def WireDatum.read : WireDatum → Datum
  | .text t => .text (withoutFinalDots t)
  | .strings parts => .strings (parts.map Text.ofBytes)
  | .exchange priority host => .exchange priority (Text.lower (withoutFinalDots host))

/-- The key of the records of a name: one text, with the type behind the name. -/
def cacheKey (type : RecordType) (name : Text) : Text := Text.phrase [name, "_", type.name]

structure Resolver where
  timeoutRetries : Int := 2
  cache : Cache Text (List Datum) := { capacity := 200000, age := 1800 }

namespace Resolver

variable {σ : Type}

def ask (wire : Wire σ) (type : RecordType) (name : Text) : Nat → σ → WireOutcome × σ
  | 0, s => wire type name s
  | left + 1, s =>
    match wire type name s with
    | (.timeout, s) => ask wire type name left s
    | answered => answered

def recordsOf? : WireOutcome → Option (List Datum)
  | .data all => some (all.map WireDatum.read)
  | .noAnswer => some []
  | _ => none

def failureOf (name : Text) : WireOutcome → Reply
  | .data _ | .noAnswer => .nothing
  | .noSuchDomain => .noSuchDomain name
  | .timeout => .failed .dns "The resolution lifetime expired."
  | .failed trouble reason => .failed trouble reason

def lookUp (wire : Wire σ) (now : Int) (type : RecordType) (name : Text) (r : Resolver) (s : σ) :
    Reply × Resolver × σ :=
  let (kept, cache) := r.cache.read now (cacheKey type name)
  match kept with
  | some records => (.records records, { r with cache }, s)
  | none =>
    let (outcome, s) := ask wire type name r.timeoutRetries.toNat s
    match recordsOf? outcome with
    | some records =>
      (.records records, { r with cache := cache.store now (cacheKey type name) records }, s)
    | none => (failureOf name outcome, { r with cache }, s)

/-- The order of exchanges: by priority, then by host. -/
def exchangeBefore : Datum → Datum → Bool
  | .exchange p h, .exchange q k => p < q || (p == q && !Text.precedes k h)
  | _, _ => true

/-- The exchanges in order. A single exchange without a name means that there is none. -/
def orderedExchanges : List Datum → List Datum
  | [.exchange _ []] => []
  | records => records.mergeSort exchangeBefore

/-- Answers a query over a wire. An address without names has an empty list of them. -/
def reply (wire : Wire σ) (now : Int) (q : Query) (r : Resolver) (s : σ) : Reply × Resolver × σ :=
  match q.topic with
  | .texts => lookUp wire now .txt (Domain.normalized q.name) r s
  | .shortAddresses => lookUp wire now .a (Domain.normalized q.name) r s
  | .longAddresses => lookUp wire now .aaaa (Domain.normalized q.name) r s
  | .exchanges =>
    match lookUp wire now .mx (Domain.normalized q.name) r s with
    | (.records records, rest) => (.records (orderedExchanges records), rest)
    | other => other
  | .names =>
    match ReverseName.ofAddress? q.name with
    | none => (.failed .dns "Text input is malformed.", r, s)
    | some name =>
      match lookUp wire now .ptr name r s with
      | (.noSuchDomain _, rest) => (.records [], rest)
      | other => other

end Resolver
end SenderPolicy.Dns
