import SenderPolicy.Audit.Term

/-!
The audit of one record: each term by itself, and then the terms together.
-/
namespace SenderPolicy.Audit

def hasAll (r : Record) : Bool := r.terms.any (fun t => t.kind == .all)

def countOf (kind : Kind) (r : Record) : Nat := r.terms.countP (fun t => t.kind == kind)

def defectFindings (t : Term) : Except Fault (List Finding) :=
  match checkTerm t with
  | .ok () => .ok []
  | .error (.defect d) => .ok [.fatal (.defect d)]
  | .error (.fault f) => .error f

def remarks (allSeen : Bool) (t : Term) : List Finding :=
  (if t.kind = .all ∧ allSeen then [.remark .repeatedAll] else []) ++
  (if t.kind = .all ∧ t.qualifier = .pass then [.remark .passingAll] else []) ++
  (if t.kind = .ptr then [.remark .discouragedPtr] else [])

def termFindings (allSeen : Bool) : List Term → Except Fault (List Finding)
  | [] => .ok []
  | t :: rest => do
    let defects ← defectFindings t
    let others ← termFindings (allSeen || t.kind == .all) rest
    return defects ++ remarks allSeen t ++ others

def hasMechanismBehindAll : List Term → Bool
  | [] => false
  | t :: rest =>
    if t.kind = .all then rest.any (fun u => u.kind != .all && !u.isModifier)
    else hasMechanismBehindAll rest

def jointFindings (r : Record) : List Finding :=
  (if 1 < countOf .redirect r then [.fatal .severalRedirects] else []) ++
  (if 1 < countOf .exp r then [.fatal .severalExplanations] else []) ++
  (if hasMechanismBehindAll r.terms then [.remark .behindAll] else []) ++
  (if hasAll r ∧ 0 < countOf .redirect r then [.remark .idleRedirect] else []) ++
  (if !hasAll r ∧ countOf .redirect r = 0 then [.remark .noEnding] else [])

def recordFindings (r : Record) : Except Fault (List Finding) := do
  let findings ← termFindings false r.terms
  return findings ++ jointFindings r

def noRecordFinding (t : Text) : Finding :=
  match Text.words t with
  | tag :: _ =>
    if Text.lower tag = Record.versionTag then .fatal (.wrongVersion tag) else .fatal .noVersion
  | [] => .fatal .noVersion

/-- Audits the text of a record, without any lookup. -/
def auditText (t : Text) : Except Fault Assessment :=
  match Record.parse? t with
  | none => .ok { findings := [noRecordFinding t] }
  | some r => (recordFindings r).map (fun findings => { findings })

end SenderPolicy.Audit
