import SenderPolicy.Audit.Record

/-!
The audit of a record together with the records that it leads to. Each term that costs a lookup is
counted; includes are followed, and so is the redirect of a record without a mechanism that matches
everything. The count goes up before a record is fetched, so that the limit bounds the depth.
-/
namespace SenderPolicy.Audit

structure WalkState where
  tally : Tally := {}
  seen : List Text := []
  findings : List Finding := []

inductive WalkStop
  | excess (e : Excess)
  | fault (f : Fault)

abbrev Walk := ExceptT WalkStop (StateT WalkState Dns.Plan)

namespace Walk

def find (f : Finding) : Walk Unit :=
  modify (fun s => { s with findings := s.findings ++ [f] })

def findAll (fs : List Finding) : Walk Unit :=
  modify (fun s => { s with findings := s.findings ++ fs })

def count (limits : Limits) (term : Text) : Walk Unit := do
  let (outcome, tally) := (← get).tally.count limits term
  modify (fun s => { s with tally })
  match outcome with
  | .ok () => pure ()
  | .error e => throw (.excess e)

def fetch (domain : Text) : Walk (Except Unpublished Publication) :=
  liftM (m := StateT WalkState Dns.Plan) (liftM (published domain))

end Walk

/-- The terms that are walked: the mechanisms, and the first redirect if nothing matches everything. -/
def walkedTerms (r : Record) : List Term :=
  r.terms.filter (fun t => !t.isModifier) ++
    (if hasAll r then [] else (r.terms.find? (fun t => t.kind == .redirect)).toList)

abbrev Follow := Record → Text → List Text → Walk Unit

def enter (follow : Follow) (kind : Kind) (target : Text) (path : List Text) : Walk Unit := do
  match ← Walk.fetch target with
  | .error u =>
    Walk.find ⟨u.verdict == .permerror, .unpublished target u⟩
  | .ok publication =>
    Walk.findAll (publication.warnings.map (fun w => .remark (.size w)))
    match Record.parse? publication.record with
    | none => pure ()
    | some record =>
      match recordFindings record with
      | .error f => throw (.fault f)
      | .ok findings =>
        if findings.any (·.isFatal) then
          Walk.find (.fatal (.badTarget target kind))
          Walk.findAll (findings.map (fun f => .remark (.inDomain target f.problem)))
        follow record target (path ++ [target])

def walkTarget (follow : Follow) (t : Term) (domain : Text) (path : List Text) : Walk Unit := do
  match t.value with
  | none | some [] => pure ()
  | some value =>
    if value.contains '%' then Walk.find (.remark (.macroTarget domain t.compose))
    else
      let target := Domain.normalized value
      if path.contains target then
        Walk.find (.fatal (if t.kind = .inclusion then .includeLoop (path ++ [target])
          else .redirectLoop (path ++ [target])))
      else
        if t.kind = .inclusion ∧ (← get).seen.contains target then
          Walk.find (.remark (.repeatedInclude target))
        modify (fun s => { s with seen := target :: s.seen })
        enter follow t.kind target path

def walkTerm (limits : Limits) (follow : Follow) (t : Term) (domain : Text) (path : List Text) :
    Walk Unit := do
  if t.countsLookup then
    Walk.count limits (Text.phrase [domain, ": ", t.compose])
    if t.kind = .inclusion ∨ t.kind = .redirect then walkTarget follow t domain path

def walkTerms (limits : Limits) (follow : Follow) (domain : Text) (path : List Text) :
    List Term → Walk Unit
  | [] => pure ()
  | t :: rest => do
    walkTerm limits follow t domain path
    walkTerms limits follow domain path rest

/-- Walks a record where so many lookups are left. With none left the next count ends the walk, so that
nothing is followed. -/
def walk (limits : Limits) : Nat → Follow
  | 0, record, domain, path => walkTerms limits (fun _ _ _ => pure ()) domain path (walkedTerms record)
  | left + 1, record, domain, path => walkTerms limits (walk limits left) domain path (walkedTerms record)

def auditContent (limits : Limits) (t domain : Text) : Dns.Plan (Except Fault Assessment) := do
  let domain := Domain.normalized domain
  match Record.parse? t with
  | none => return auditText t
  | some record =>
    match recordFindings record with
    | .error f => return .error f
    | .ok findings =>
      let (outcome, s) ← (walk limits limits.lookups.toNat record domain [domain]).run.run { findings }
      match outcome with
      | .ok () => return .ok { findings := s.findings, lookups := some s.tally.lookups }
      | .error (.excess e) =>
        return .ok { findings := s.findings ++ [.fatal (.excess e)], lookups := some s.tally.lookups }
      | .error (.fault f) => return .error f

def auditDomain (limits : Limits) (domain : Text) : Dns.Plan (Except Fault Assessment) := do
  let domain := Domain.normalized domain
  match ← published domain with
  | .error u => return .ok { findings := [.fatal (.unpublished domain u)] }
  | .ok publication =>
    match ← auditContent limits publication.record domain with
    | .error f => return .error f
    | .ok a =>
      return .ok { a with findings := publication.warnings.map (fun w => .remark (.size w)) ++ a.findings }

end SenderPolicy.Audit
