import SenderPolicy.Proofs.Audit.Depth
import SenderPolicy.Proofs.Dns.History

/-!
What a walk does, in the order in which it does it. A walk that keeps its history is the walk, as far as the
plan goes; the history tells that each question is asked for a term that has just been counted, and that no
path holds a name twice. So a limit bounds what an audit asks, whatever the resolver replies.
-/
namespace SenderPolicy.Audit
open Dns Dns.Work
variable {α β : Type} {limits : Limits}

inductive Event
  | counted (t : Term)
  | asked (target : Text)
  | entered (path : List Text)

def Event.query? : Event → Option Query
  | .asked target => some ⟨.texts, Domain.normalized target⟩
  | _ => none

def Event.isCount : Event → Bool
  | .counted _ => true
  | _ => false

/-- The questions of a history, which has the latest event first. -/
def questions (history : List Event) : List Query := history.reverse.filterMap Event.query?

@[simp] theorem questions_append (later earlier : List Event) :
    questions (later ++ earlier) = questions earlier ++ questions later := by
  simp [questions]

@[simp] theorem questions_cons (e : Event) (history : List Event) :
    questions (e :: history) = questions history ++ e.query?.toList := by
  rw [← List.singleton_append, questions_append]
  congr 1

abbrev Recorded := Work WalkStop (WalkState × List Event)

namespace Recorded

def count (limits : Limits) (t : Term) (domain : Text) : Recorded Unit := do
  mark (.counted t)
  still (Walk.count limits (Text.phrase [domain, ": ", t.compose]))

def fetch (target : Text) : Recorded (Except Unpublished Publication) := do
  mark (.asked target)
  still (Walk.fetch target)

abbrev Follow := Record → Text → List Text → Recorded Unit

def enter (follow : Follow) (kind : Kind) (target : Text) (path : List Text) : Recorded Unit := do
  match ← fetch target with
  | .error u => still (Walk.find ⟨u.verdict == .permerror, .unpublished target u⟩)
  | .ok publication =>
    still (Walk.findAll (publication.warnings.map (fun w => .remark (.size w))))
    match Record.parse? publication.record with
    | none => pure ()
    | some record =>
      match recordFindings record with
      | .error f => throw (.fault f)
      | .ok findings =>
        if findings.any (·.isFatal) then
          still (Walk.find (.fatal (.badTarget target kind)))
          still (Walk.findAll (findings.map (fun f => .remark (.inDomain target f.problem))))
        mark (.entered (path ++ [target]))
        follow record target (path ++ [target])

def walkTarget (follow : Follow) (t : Term) (domain : Text) (path : List Text) : Recorded Unit := do
  match t.value with
  | none | some [] => pure ()
  | some value =>
    if value.contains '%' then still (Walk.find (.remark (.macroTarget domain t.compose)))
    else
      let target := Domain.normalized value
      if path.contains target then
        still (Walk.find (.fatal (if t.kind = .inclusion then .includeLoop (path ++ [target])
          else .redirectLoop (path ++ [target]))))
      else
        if t.kind = .inclusion ∧ (← still get).seen.contains target then
          still (Walk.find (.remark (.repeatedInclude target)))
        still (modify (fun s => { s with seen := target :: s.seen }))
        enter follow t.kind target path

def walkTerm (limits : Limits) (follow : Follow) (t : Term) (domain : Text) (path : List Text) :
    Recorded Unit := do
  if t.countsLookup then
    count limits t domain
    if t.kind = .inclusion ∨ t.kind = .redirect then walkTarget follow t domain path

def walkTerms (limits : Limits) (follow : Follow) (domain : Text) (path : List Text) :
    List Term → Recorded Unit
  | [] => pure ()
  | t :: rest => do
    walkTerm limits follow t domain path
    walkTerms limits follow domain path rest

def walk (limits : Limits) : Nat → Follow
  | 0, record, domain, path => walkTerms limits (fun _ _ _ => pure ()) domain path (walkedTerms record)
  | left + 1, record, domain, path => walkTerms limits (walk limits left) domain path (walkedTerms record)

end Recorded

/-- The audit of a text, with its history. -/
def auditRecorded (limits : Limits) (text domain : Text) :
    Plan (Except Fault Assessment × List Event) := do
  let domain := Domain.normalized domain
  match Record.parse? text with
  | none => return (auditText text, [])
  | some record =>
    match recordFindings record with
    | .error f => return (.error f, [])
    | .ok findings =>
      let (outcome, s, history) ←
        (Recorded.walk limits limits.lookups.toNat record domain [domain]).run.run
          ({ findings }, [.entered [domain]])
      match outcome with
      | .ok () => return (.ok { findings := s.findings, lookups := some s.tally.lookups }, history)
      | .error (.excess e) =>
        return (.ok { findings := s.findings ++ [.fatal (.excess e)], lookups := some s.tally.lookups }, history)
      | .error (.fault f) => return (.error f, history)

/-! Without its history -/

namespace Recorded.Retells
variable {follow : Recorded.Follow} {follow' : Audit.Follow} {path : List Text} {domain target : Text} {t : Term}

def Follows (follow : Recorded.Follow) (follow' : Audit.Follow) : Prop :=
  ∀ record domain path, Retells (follow record domain path) (follow' record domain path)

theorem enter (h : Follows follow follow') (kind : Kind) :
    Retells (enter follow kind target path) (Audit.enter follow' kind target path) := by
  refine (Retells.marked (.still _)).bind fun fetched => ?_
  cases fetched with
  | error u => exact .still _
  | ok publication =>
    refine (Retells.still _).bind fun _ => ?_
    cases Record.parse? publication.record with
    | none => exact .pure ()
    | some record =>
      dsimp only
      cases recordFindings record with
      | error f => exact .throw _
      | ok findings =>
        dsimp only
        by_cases hfatal : findings.any (·.isFatal)
        · simp only [if_pos hfatal]
          exact (Retells.still _).bind fun _ => (Retells.still _).bind fun _ => .marked (h _ _ _)
        · simp only [if_neg hfatal]
          exact .marked (h _ _ _)

theorem walkTarget (h : Follows follow follow') :
    Retells (walkTarget follow t domain path) (Audit.walkTarget follow' t domain path) := by
  unfold Recorded.walkTarget Audit.walkTarget
  cases t.value with
  | none => exact .pure ()
  | some value =>
    cases value with
    | nil => exact .pure ()
    | cons c cs =>
      dsimp only
      by_cases hpercent : (c :: cs).contains '%'
      · simp only [if_pos hpercent]
        exact .still _
      · simp only [if_neg hpercent]
        by_cases hloop : path.contains (Domain.normalized (c :: cs))
        · simp only [if_pos hloop]
          exact .still _
        · simp only [if_neg hloop]
          refine (Retells.still _).bind fun s => ?_
          by_cases hseen : t.kind = .inclusion ∧ s.seen.contains (Domain.normalized (c :: cs))
          · simp only [if_pos hseen]
            exact (Retells.still _).bind fun _ => (Retells.still _).bind fun _ => enter h _
          · simp only [if_neg hseen]
            exact (Retells.still _).bind fun _ => enter h _

theorem walkTerm (h : Follows follow follow') :
    Retells (walkTerm limits follow t domain path) (Audit.walkTerm limits follow' t domain path) := by
  unfold Recorded.walkTerm Audit.walkTerm
  by_cases hcounts : t.countsLookup
  · simp only [if_pos hcounts]
    refine (Retells.marked (.still _)).bind fun _ => ?_
    by_cases hleads : t.kind = .inclusion ∨ t.kind = .redirect
    · simp only [if_pos hleads]
      exact walkTarget h
    · simp only [if_neg hleads]
      exact .pure ()
  · simp only [if_neg hcounts]
    exact .pure ()

theorem walkTerms (h : Follows follow follow') (ts : List Term) :
    Retells (walkTerms limits follow domain path ts) (Audit.walkTerms limits follow' domain path ts) := by
  induction ts with
  | nil => exact .pure ()
  | cons t rest ih => exact (walkTerm h).bind fun _ => ih

theorem walk (limits : Limits) (left : Nat) : Follows (walk limits left) (Audit.walk limits left) := by
  induction left with
  | zero => exact fun record domain path => walkTerms (fun _ _ _ => .pure ()) _
  | succ left ih => exact fun record domain path => walkTerms ih _

end Recorded.Retells

/-- An audit that keeps its history is the audit. -/
theorem auditRecorded_fst (limits : Limits) (text domain : Text) :
    Prod.fst <$> auditRecorded limits text domain = auditContent limits text domain := by
  unfold auditRecorded auditContent
  cases Record.parse? text with
  | none => rfl
  | some record =>
    dsimp only
    cases recordFindings record with
    | error f => rfl
    | ok findings =>
      have hwalk := Recorded.Retells.walk limits limits.lookups.toNat record (Domain.normalized domain)
        [Domain.normalized domain] { findings } [.entered [Domain.normalized domain]]
      dsimp only
      rw [← hwalk, map_bind, bind_map_left]
      congr 1
      funext r
      obtain ⟨o, s, history⟩ := r
      cases o with
      | ok u => rfl
      | error stop => cases stop <;> rfl

end SenderPolicy.Audit
