import SenderPolicy.Evaluation.Step

/-!
Matching one mechanism. An answer without records counts as a lookup in vain, and a failed lookup is a
temporary error, but for the names of an address, where a failure only means that nothing matches.
-/
namespace SenderPolicy.Evaluation

inductive Outcome
  | matched | unmatched | permerror | temperror
  deriving DecidableEq

def Outcome.ofBool (b : Bool) : Outcome := if b then .matched else .unmatched

def withRecords (s : Setting) (label : Text) (answer : Dns.Answer)
    (onRecords : List Dns.Datum → Step Outcome) : Step Outcome := do
  match answer.error with
  | some reason =>
    Step.note [label, ": ", reason, " (temperror)"]
    return .temperror
  | none =>
    if answer.isVoid then
      Step.note [label, ": void lookup"]
      Step.countVoid s.limits label
      return .unmatched
    else onRecords answer.records

def matchAddresses (s : Setting) (label target : Text) (t : Term) : Step Outcome := do
  let answer ← Step.query s.addressTopic target
  withRecords s label answer (fun records =>
    return .ofBool (s.matchesAny (records.map (·.asText)) t))

/-- Looks through the answers for the hosts in order: the first host that matches decides, whatever
failed before. -/
def matchHosts (s : Setting) (label : Text) (t : Term) (failed : Bool) :
    List (Text × Dns.Answer) → Step Outcome
  | [] => return if failed then .temperror else .unmatched
  | (host, answer) :: rest => do
    match answer.error with
    | some reason =>
      Step.note [label, ": ", host, ": ", reason]
      matchHosts s label t true rest
    | none =>
      if s.matchesAny (answer.records.map (·.asText)) t then return .matched
      else matchHosts s label t failed rest

def matchExchanges (s : Setting) (label target : Text) (t : Term) : Step Outcome := do
  let answer ← Step.query .exchanges target
  withRecords s label answer (fun records => do
    if maxExchanges < records.length then
      Step.note [label, ": ", target, " has more than ", Text.decimal maxExchanges,
        " MX records - (RFC 7208 § 4.6.4) (permerror)"]
      return .permerror
    else
      let hosts := records.map (fun r => Domain.normalized r.asText)
      let answers ← Step.queryAll s.addressTopic hosts
      matchHosts s label t false (hosts.zip answers))

def confirmNames (s : Setting) (label : Text) : List (Text × Dns.Answer) → Step Outcome
  | [] => return .unmatched
  | (name, answer) :: rest => do
    if (answer.records.map (fun r => Address.parse? r.asText)).contains (some s.address) then
      Step.note [label, ": ", name, " is forward-confirmed"]
      return .matched
    else
      Step.note [label, ": ", name, " is not forward-confirmed"]
      confirmNames s label rest

def candidates (target : Text) (records : List Dns.Datum) : List Text :=
  ((records.map (fun r => Domain.normalized r.asText)).take maxReverseNames).filter
    (Domain.isWithin target)

def matchNames (s : Setting) (label target : Text) : Step Outcome := do
  let answer ← Step.query .names s.address.text
  match answer.error with
  | some reason =>
    Step.note [label, ": ", reason]
    return .unmatched
  | none =>
    withRecords s label answer (fun records => do
      let names := candidates target records
      let answers ← Step.queryAll s.addressTopic names
      confirmNames s label (names.zip answers))

/-- Any address of the shorter family will do. -/
def matchExistence (s : Setting) (label target : Text) : Step Outcome := do
  let answer ← Step.query .shortAddresses target
  withRecords s label answer (fun _ => return .matched)

end SenderPolicy.Evaluation
