import SenderPolicy.Evaluation.Match

/-!
Evaluating the policy of a domain for one message. The mechanisms of the record are tried in order and
the first match decides; an include evaluates another record, and a redirect hands over to one. Each of
the two is counted before it is followed, so that the limit on lookups bounds the depth.
-/
namespace SenderPolicy.Evaluation

/-- The evaluation of a domain, with the path that led to it; the flag tells whether a failure is to be
explained. -/
abbrev Follow := Text → List Text → Bool → Step Verdict

def guardLoop (s : Setting) (stop : List Text → Stop) (path : List Text) (target : Text) : Step Unit :=
  if s.endsLoops ∧ path.contains target then throw (stop (path ++ [target])) else pure ()

def matchInclude (s : Setting) (follow : Follow) (label target : Text) (path : List Text) :
    Step Outcome := do
  guardLoop s .includeLoop path target
  let verdict ← follow target (path ++ [target]) false
  Step.note [label, " -> ", verdict.name]
  match verdict with
  | .pass => return .matched
  | .permerror => return .permerror
  | .temperror => return .temperror
  | .none =>
    Step.countVoid s.limits label
    return .unmatched
  | .fail | .softfail | .neutral => return .unmatched

def matchTerm (s : Setting) (follow : Follow) (domain : Text) (path : List Text) (t : Term) :
    Step Outcome := do
  match t.kind with
  | .all => return .matched
  | .ip4 | .ip6 => return .ofBool (Address.matchesNetwork s.address.text (t.value.getD []))
  | kind =>
    let label := Text.phrase [domain, ": ", t.compose]
    Step.count s.limits label
    let target ← Step.ofExcept (s.target t domain)
    match kind with
    | .a => matchAddresses s label target t
    | .mx => matchExchanges s label target t
    | .ptr => matchNames s label target
    | .inclusion => matchInclude s follow label target path
    | .existence => matchExistence s label target
    | _ => return .unmatched

def firstDecisive (attempt : Term → Step Outcome) : List Term → Step (Option (Term × Outcome))
  | [] => return none
  | t :: rest => do
    let outcome ← attempt t
    if outcome = .unmatched then firstDecisive attempt rest else return some (t, outcome)

def explain (s : Setting) (r : Record) (domain : Text) : Step Unit := do
  match r.exp with
  | none | some [] => pure ()
  | some value =>
    let target ← Step.ofExcept (s.expandName value domain)
    let answer ← Step.query .texts target
    match answer.error, answer.records with
    | none, [text] =>
      let explanation ← Step.ofExcept (s.expand text.asText domain)
      modify (fun progress => { progress with explanation := some explanation })
    | _, _ => Step.note [domain, ": no usable explanation at ", target]

/-- Hands over to the target of a redirect; a target without a record is a permanent error. -/
def redirect (s : Setting) (follow : Follow) (value domain : Text) (path : List Text) (explains : Bool) :
    Step Verdict := do
  let label := Text.phrase [domain, ": redirect=", value]
  Step.count s.limits label
  let target ← Step.ofExcept (s.expandName value domain)
  guardLoop s .redirectLoop path target
  Step.note [label, " -> ", target]
  let verdict ← follow target (path ++ [target]) explains
  if verdict = .none then
    Step.note [label, ": the redirect target has no SPF record (permerror)"]
    return .permerror
  else return verdict

def evaluateRecord (s : Setting) (follow : Follow) (r : Record) (domain : Text) (path : List Text)
    (explains : Bool) : Step Verdict := do
  match ← firstDecisive (matchTerm s follow domain path) (r.terms.filter (fun t => !t.isModifier)) with
  | some (_, .permerror) => return .permerror
  | some (_, .temperror) => return .temperror
  | some (t, _) =>
    let verdict := t.qualifier.verdict
    Step.note [domain, ": ", t.compose, " matched (", verdict.name, ")"]
    if verdict = .fail ∧ explains then explain s r domain
    return verdict
  | none =>
    match r.redirect with
    | some value => redirect s follow value domain path explains
    | none =>
      Step.note [domain, ": no mechanism matched (neutral)"]
      return .neutral

def noteAll (domain : Text) : List Text → Step Unit
  | [] => pure ()
  | problem :: rest => do
    Step.note [domain, ": ", problem]
    noteAll domain rest

def visit (s : Setting) (follow : Follow) : Follow := fun domain path explains => do
  match ← Step.ofPlan (published domain) with
  | .error u =>
    Step.note [u.report domain, " (", u.verdict.name, ")"]
    return u.verdict
  | .ok publication =>
    Step.note [domain, ": ", publication.record]
    let assessment ← Step.ofExcept (Audit.auditText publication.record)
    match Record.parse? publication.record, assessment.isValid with
    | some record, true => evaluateRecord s follow record domain path explains
    | _, _ =>
      noteAll domain (assessment.problems Audit.defaultMarker)
      return .permerror

/-- Evaluates a domain where so many lookups are left. With none left the next count ends the
evaluation, so that nothing is followed. -/
def checkHost (s : Setting) : Nat → Follow
  | 0 => visit s (fun _ _ _ => return .permerror)
  | left + 1 => visit s (checkHost s left)

structure Result where
  verdict : Verdict
  trail : List Text := []
  tally : Tally := {}
  explanation : Option Text := none

def Result.ofProgress (verdict : Verdict) (p : Progress) : Result :=
  { verdict, trail := p.trail, tally := p.tally,
    explanation := if verdict = .fail then p.explanation else none }

def Setting.ofRequest (request : Request) (address : Address) (limits : Limits) (now : Int) : Setting :=
  { address, sender := request.sender, helo := request.helo, limits, now }

def evaluateDomain (s : Setting) (domain : Text) : Dns.Plan (Except Fault Result) := do
  let (outcome, progress) ← (checkHost s s.limits.lookups.toNat domain [domain] true).run.run {}
  match outcome with
  | .ok verdict => return .ok (.ofProgress verdict progress)
  | .error (.fault f) => return .error f
  | .error stop =>
    let line := Text.phrase [stop.message?.getD [], " (permerror)"]
    return .ok (.ofProgress .permerror { progress with trail := progress.trail ++ [line] })

def evaluate (limits : Limits) (now : Int) (request : Request) : Dns.Plan (Except Fault Result) :=
  let domain := Domain.normalized request.domain
  if domain.isEmpty then return .ok { verdict := .none, trail := ["No domain to evaluate"] }
  else
    match Address.parse? request.ip with
    | none =>
      return .ok { verdict := .permerror,
                   trail := [Text.phrase [request.ip, " is not a valid IP address"]] }
    | some address => evaluateDomain (.ofRequest request address limits now) domain

end SenderPolicy.Evaluation
