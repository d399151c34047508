import SenderPolicy.Dns.Plan
import SenderPolicy.Domain
import SenderPolicy.Record
import SenderPolicy.Text.Bytes

/-!
The record that a domain publishes: the one text of the domain that begins with the version tag.
-/
namespace SenderPolicy

/-- Why there is no record to be had. -/
inductive Unpublished
  | noDomain
  | noRecord
  | severalRecords
  | unresolved (reason : Text)
  deriving DecidableEq

namespace Unpublished

def message : Unpublished → Text
  | .noDomain => "The domain does not exist."
  | .noRecord => "An SPF record does not exist."
  | .severalRecords => "The domain has multiple SPF TXT records"
  | .unresolved reason => reason

def verdict : Unpublished → Verdict
  | .noDomain | .noRecord => .none
  | .severalRecords => .permerror
  | .unresolved _ => .temperror

def report (domain : Text) (u : Unpublished) : Text := Text.phrase [domain, ": ", u.message]

end Unpublished

inductive SizeWarning
  | longString (number : Nat) (domain : Text) (size : Nat)
  | overDatagram (domain : Text) (size : Nat)
  | nearDatagram (domain : Text) (size : Nat)
  deriving DecidableEq

open Text in
def SizeWarning.message : SizeWarning → Text
  | .longString number domain size =>
    phrase ["SPF TXT string chunk #", decimal number, " for ", domain, " is ", decimal size,
      " characters (>255). Each individual TXT character-string should be ≤ 255 characters (RFC 7208 § 3.3)."]
  | .overDatagram domain size =>
    phrase ["The SPF record for ", domain, " is > 512 bytes (", decimal size,
      " bytes). This likely exceeds the reliable UDP response size; some verifiers may ignore or fail it (RFC 7208 § 3.4)."]
  | .nearDatagram domain size =>
    phrase ["The SPF record for ", domain, " is ", decimal size,
      " bytes. RFC 7208 § 3.4 recommends keeping answers under ~450 bytes so the whole DNS message fits in 512 bytes."]

structure Publication where
  record : Text
  warnings : List SizeWarning
  deriving DecidableEq

namespace Publication

def longStrings (domain : Text) (number : Nat) : List Text → List SizeWarning
  | [] => []
  | t :: rest =>
    if 255 < Text.byteLength t then
      .longString number domain (Text.byteLength t) :: longStrings domain (number + 1) rest
    else longStrings domain (number + 1) rest

def sizeWarnings (domain : Text) (strings : List Text) : List SizeWarning :=
  let size := Text.byteLength strings.flatten
  longStrings domain 1 strings ++
    (if 512 < size then [.overDatagram domain size]
    else if 450 < size then [.nearDatagram domain size]
    else [])

/-- Is the text a record? The version tag ends with the text or at a space. -/
def isRecord (t : Text) : Bool :=
  t == Record.versionTag || (Record.versionTag ++ [' ']).isPrefixOf t

/-- The one record among the texts of a domain. -/
def ofAnswer (domain : Text) (a : Dns.Answer) : Except Unpublished Publication :=
  if a.isMissing then .error .noDomain
  else
    match a.error with
    | some reason => .error (.unresolved reason)
    | none =>
      match (a.records.map Dns.Datum.parts).filter (fun strings => isRecord strings.flatten) with
      | [] => .error .noRecord
      | [strings] => .ok ⟨strings.flatten, sizeWarnings domain strings⟩
      | _ => .error .severalRecords

end Publication

def published (domain : Text) : Dns.Plan (Except Unpublished Publication) := do
  let name := Domain.normalized domain
  let answer ← Dns.Plan.query .texts name
  return Publication.ofAnswer name answer

end SenderPolicy
