import SenderPolicy.Evaluation
import SenderPolicy.Proofs.Dns.History

/-!
What an evaluation expands, at whatever depth. An evaluation that puts down each text that it expands, with
what the letters stand for there, is the evaluation; and in every one of them the letters stand for what the
setting makes of the domain whose record is read.
-/
namespace SenderPolicy.Evaluation
open Dns Dns.Work

/-- A text to be expanded, and what the letters stand for in it. -/
structure Expansion where
  context : Macro.Context
  template : Text

def Expansion.text (e : Expansion) : Except Fault Text := Macro.expand e.context e.template

abbrev Recorded := Work Stop (Progress × List Expansion)

namespace Recorded

def expand (s : Setting) (t domain : Text) : Recorded Text :=
  if t.contains '%' then do
    let e : Expansion := ⟨s.context domain, t⟩
    mark e
    still (Step.ofExcept e.text)
  else pure t

def expandName (s : Setting) (t domain : Text) : Recorded Text := do
  let name ← expand s t domain
  return Domain.normalized name

def target (s : Setting) (t : Term) (domain : Text) : Recorded Text :=
  match t.value with
  | none | some [] => pure domain
  | some value => expandName s value domain

abbrev Follow := Text → List Text → Bool → Recorded Verdict

def matchInclude (s : Setting) (follow : Follow) (label target : Text) (path : List Text) :
    Recorded Outcome := do
  still (guardLoop s .includeLoop path target)
  let verdict ← follow target (path ++ [target]) false
  still (Step.note [label, " -> ", verdict.name])
  match verdict with
  | .pass => return .matched
  | .permerror => return .permerror
  | .temperror => return .temperror
  | .none =>
    still (Step.countVoid s.limits label)
    return .unmatched
  | .fail | .softfail | .neutral => return .unmatched

def matchTerm (s : Setting) (follow : Follow) (domain : Text) (path : List Text) (t : Term) :
    Recorded Outcome := do
  match t.kind with
  | .all => return .matched
  | .ip4 | .ip6 => return .ofBool (Address.matchesNetwork s.address.text (t.value.getD []))
  | kind =>
    let label := Text.phrase [domain, ": ", t.compose]
    still (Step.count s.limits label)
    let target ← target s t domain
    match kind with
    | .a => still (matchAddresses s label target t)
    | .mx => still (matchExchanges s label target t)
    | .ptr => still (matchNames s label target)
    | .inclusion => matchInclude s follow label target path
    | .existence => still (matchExistence s label target)
    | _ => return .unmatched

def firstDecisive (attempt : Term → Recorded Outcome) : List Term → Recorded (Option (Term × Outcome))
  | [] => return none
  | t :: rest => do
    let outcome ← attempt t
    if outcome = .unmatched then firstDecisive attempt rest else return some (t, outcome)

def explain (s : Setting) (r : Record) (domain : Text) : Recorded Unit := do
  match r.exp with
  | none | some [] => pure ()
  | some value =>
    let target ← expandName s value domain
    let answer ← still (Step.query .texts target)
    match answer.error, answer.records with
    | none, [text] =>
      let explanation ← expand s text.asText domain
      still (modify (fun progress => { progress with explanation := some explanation }))
    | _, _ => still (Step.note [domain, ": no usable explanation at ", target])

def redirect (s : Setting) (follow : Follow) (value domain : Text) (path : List Text) (explains : Bool) :
    Recorded Verdict := do
  let label := Text.phrase [domain, ": redirect=", value]
  still (Step.count s.limits label)
  let target ← expandName s value domain
  still (guardLoop s .redirectLoop path target)
  still (Step.note [label, " -> ", target])
  let verdict ← follow target (path ++ [target]) explains
  if verdict = .none then
    still (Step.note [label, ": the redirect target has no SPF record (permerror)"])
    return .permerror
  else return verdict

def evaluateRecord (s : Setting) (follow : Follow) (r : Record) (domain : Text) (path : List Text)
    (explains : Bool) : Recorded Verdict := do
  match ← firstDecisive (matchTerm s follow domain path) (r.terms.filter (fun t => !t.isModifier)) with
  | some (_, .permerror) => return .permerror
  | some (_, .temperror) => return .temperror
  | some (t, _) =>
    let verdict := t.qualifier.verdict
    still (Step.note [domain, ": ", t.compose, " matched (", verdict.name, ")"])
    if verdict = .fail ∧ explains then explain s r domain
    return verdict
  | none =>
    match r.redirect with
    | some value => redirect s follow value domain path explains
    | none =>
      still (Step.note [domain, ": no mechanism matched (neutral)"])
      return .neutral

def visit (s : Setting) (follow : Follow) : Follow := fun domain path explains => do
  match ← still (Step.ofPlan (published domain)) with
  | .error u =>
    still (Step.note [u.report domain, " (", u.verdict.name, ")"])
    return u.verdict
  | .ok publication =>
    still (Step.note [domain, ": ", publication.record])
    let assessment ← still (Step.ofExcept (Audit.auditText publication.record))
    match Record.parse? publication.record, assessment.isValid with
    | some record, true => evaluateRecord s follow record domain path explains
    | _, _ =>
      still (noteAll domain (assessment.problems Audit.defaultMarker))
      return .permerror

def checkHost (s : Setting) : Nat → Follow
  | 0 => visit s (fun _ _ _ => return .permerror)
  | left + 1 => visit s (checkHost s left)

end Recorded

def evaluateDomainRecorded (s : Setting) (domain : Text) : Plan (Except Fault Result × List Expansion) := do
  let (outcome, progress, history) ←
    (Recorded.checkHost s s.limits.lookups.toNat domain [domain] true).run.run ({}, [])
  match outcome with
  | .ok verdict => return (.ok (.ofProgress verdict progress), history)
  | .error (.fault f) => return (.error f, history)
  | .error stop =>
    let line := Text.phrase [stop.message?.getD [], " (permerror)"]
    return (.ok (.ofProgress .permerror { progress with trail := progress.trail ++ [line] }), history)

def evaluateRecorded (limits : Limits) (now : Int) (request : Request) :
    Plan (Except Fault Result × List Expansion) :=
  let domain := Domain.normalized request.domain
  if domain.isEmpty then return (.ok { verdict := .none, trail := ["No domain to evaluate"] }, [])
  else
    match Address.parse? request.ip with
    | none =>
      return (.ok { verdict := .permerror,
                    trail := [Text.phrase [request.ip, " is not a valid IP address"]] }, [])
    | some address => evaluateDomainRecorded (.ofRequest request address limits now) domain

/-! Without its history -/

variable {α β : Type} {s : Setting} {follow : Recorded.Follow} {follow' : Evaluation.Follow} {path : List Text}
  {domain : Text}

/-- The recorded step is the step, but for its history; what it puts down there has the letters of the setting. -/
structure Recorded.Recounts (s : Setting) (y : Recorded α) (x : Step α) : Prop where
  retells : Retells y x
  marks : Marks (fun e => e.context = s.context e.context.domain) y

namespace Recorded.Recounts

theorem still (x : Step α) : Recounts s (still x) x := ⟨.still x, .still x⟩

theorem pure (a : α) : Recounts s (pure a) (Pure.pure a : Step α) := ⟨.pure a, .pure a⟩

theorem bind {y : Recorded α} {x : Step α} {g : α → Recorded β} {f : α → Step β} (h : Recounts s y x)
    (hf : ∀ a, Recounts s (g a) (f a)) : Recounts s (y >>= g) (x >>= f) :=
  ⟨h.retells.bind fun a => (hf a).retells, h.marks.bind fun a => (hf a).marks⟩

theorem expand (t domain : Text) : Recounts s (expand s t domain) (Step.ofExcept (s.expand t domain)) := by
  unfold Recorded.expand Setting.expand
  by_cases hpercent : t.contains '%'
  · simp only [if_pos hpercent]
    exact ⟨.marked (.still _), .marked rfl (.still _)⟩
  · simp only [if_neg hpercent]
    exact pure t

theorem expandName (t domain : Text) :
    Recounts s (expandName s t domain) (Step.ofExcept (s.expandName t domain)) := by
  have hmap : Step.ofExcept (s.expandName t domain) =
      Step.ofExcept (s.expand t domain) >>= fun name => Pure.pure (Domain.normalized name) := by
    unfold Setting.expandName
    cases s.expand t domain <;> rfl
  rw [hmap]
  exact (expand t domain).bind fun name => pure _

theorem target (t : Term) (domain : Text) :
    Recounts s (target s t domain) (Step.ofExcept (s.target t domain)) := by
  unfold Recorded.target Setting.target
  cases t.value with
  | none => exact pure domain
  | some value =>
    cases value with
    | nil => exact pure domain
    | cons c r => exact expandName (c :: r) domain

def Follows (s : Setting) (follow : Recorded.Follow) (follow' : Evaluation.Follow) : Prop :=
  ∀ domain path explains, Recounts s (follow domain path explains) (follow' domain path explains)

theorem matchInclude (h : Follows s follow follow') (label target : Text) :
    Recounts s (matchInclude s follow label target path) (Evaluation.matchInclude s follow' label target path) := by
  refine (still _).bind fun _ => (h _ _ _).bind fun verdict => (still _).bind fun _ => ?_
  cases verdict with
  | none => exact (still _).bind fun _ => pure _
  | _ => exact pure _

theorem matchTerm (h : Follows s follow follow') (t : Term) :
    Recounts s (matchTerm s follow domain path t) (Evaluation.matchTerm s follow' domain path t) := by
  unfold Recorded.matchTerm Evaluation.matchTerm
  cases t.kind with
  | all | ip4 | ip6 => exact pure _
  | a | mx | ptr | existence => exact (still _).bind fun _ => (target t domain).bind fun found => still _
  | inclusion => exact (still _).bind fun _ => (target t domain).bind fun found => matchInclude h _ found
  | redirect | exp | unknown | unknownModifier =>
    exact (still _).bind fun _ => (target t domain).bind fun found => pure _

theorem firstDecisive {attempt : Term → Recorded Outcome} {attempt' : Term → Step Outcome}
    (h : ∀ t, Recounts s (attempt t) (attempt' t)) (ts : List Term) :
    Recounts s (firstDecisive attempt ts) (Evaluation.firstDecisive attempt' ts) := by
  induction ts with
  | nil => exact pure _
  | cons t rest ih =>
    refine (h t).bind fun outcome => ?_
    split
    · exact ih
    · exact pure _

theorem explain (r : Record) (domain : Text) :
    Recounts s (explain s r domain) (Evaluation.explain s r domain) := by
  unfold Recorded.explain Evaluation.explain
  cases r.exp with
  | none => exact pure _
  | some value =>
    cases value with
    | nil => exact pure _
    | cons c cs =>
      refine (expandName (c :: cs) domain).bind fun target => (still _).bind fun answer => ?_
      match answer.error, answer.records with
      | none, [text] => exact (expand _ domain).bind fun explanation => still _
      | none, [] | none, _ :: _ :: _ | some _, _ => exact still _

theorem redirect (h : Follows s follow follow') (value : Text) (explains : Bool) :
    Recounts s (redirect s follow value domain path explains)
      (Evaluation.redirect s follow' value domain path explains) := by
  refine (still _).bind fun _ => (expandName value domain).bind fun target => (still _).bind fun _ => ?_
  refine (still _).bind fun _ => (h _ _ _).bind fun verdict => ?_
  split
  · exact (still _).bind fun _ => pure _
  · exact pure _

theorem evaluateRecord (h : Follows s follow follow') (r : Record) (explains : Bool) :
    Recounts s (evaluateRecord s follow r domain path explains)
      (Evaluation.evaluateRecord s follow' r domain path explains) := by
  refine (firstDecisive (matchTerm h) _).bind fun found => ?_
  match found with
  | some (_, .permerror) | some (_, .temperror) => exact pure _
  | some (t, .matched) | some (t, .unmatched) =>
    refine (still _).bind fun _ => ?_
    dsimp only
    split
    · exact (explain r domain).bind fun _ => pure _
    · exact pure _
  | none =>
    dsimp only
    cases r.redirect with
    | none => exact (still _).bind fun _ => pure _
    | some value => exact redirect h value explains

theorem visit (h : Follows s follow follow') : Follows s (visit s follow) (Evaluation.visit s follow') := by
  intro domain path explains
  refine (still _).bind fun fetched => ?_
  cases fetched with
  | error u => exact (still _).bind fun _ => pure _
  | ok publication =>
    refine (still _).bind fun _ => (still _).bind fun assessment => ?_
    match Record.parse? publication.record, assessment.isValid with
    | some record, true => exact evaluateRecord h record explains
    | some _, false | none, _ => exact (still _).bind fun _ => pure _

theorem checkHost (s : Setting) (left : Nat) : Follows s (checkHost s left) (Evaluation.checkHost s left) := by
  induction left with
  | zero => exact visit fun _ _ _ => pure _
  | succ left ih => exact visit ih

end Recorded.Recounts

theorem evaluateDomainRecorded_fst (s : Setting) (domain : Text) :
    Prod.fst <$> evaluateDomainRecorded s domain = evaluateDomain s domain := by
  have hretells := (Recorded.Recounts.checkHost s s.limits.lookups.toNat domain [domain] true).retells {} []
  unfold evaluateDomainRecorded evaluateDomain
  rw [← hretells, map_bind, bind_map_left]
  congr 1
  funext r
  obtain ⟨o, progress, history⟩ := r
  cases o with
  | ok verdict => rfl
  | error stop => cases stop <;> rfl

/-- An evaluation that keeps its history is the evaluation. -/
theorem evaluateRecorded_fst (limits : Limits) (now : Int) (request : Request) :
    Prod.fst <$> evaluateRecorded limits now request = evaluate limits now request := by
  unfold evaluateRecorded evaluate
  dsimp only
  split
  · rfl
  · cases Address.parse? request.ip with
    | none => rfl
    | some address => exact evaluateDomainRecorded_fst _ _

/-! The contexts of a history -/

theorem evaluateDomainRecorded_contexts (s : Setting) (domain : Text) :
    (evaluateDomainRecorded s domain).Ensures
      fun _ told => ∀ e ∈ told.2, e.context = s.context e.context.domain := by
  have hmarks := (Recorded.Recounts.checkHost s s.limits.lookups.toNat domain [domain] true).marks {} []
    fun e he => nomatch he
  refine Plan.ensures_bind (hmarks.mono fun n r hr => ?_)
  obtain ⟨o, progress, history⟩ := r
  cases o with
  | ok verdict => exact hr
  | error stop => cases stop <;> exact hr

def Expansion.IsMadeFor (e : Expansion) (limits : Limits) (now : Int) (request : Request) : Prop :=
  ∃ address, Address.parse? request.ip = some address ∧
    e.context = (Setting.ofRequest request address limits now).context e.context.domain

theorem evaluateRecorded_contexts (limits : Limits) (now : Int) (request : Request) :
    (evaluateRecorded limits now request).Ensures fun _ told => ∀ e ∈ told.2, e.IsMadeFor limits now request := by
  unfold evaluateRecorded
  dsimp only
  split
  · exact fun e he => nomatch he
  · cases hip : Address.parse? request.ip with
    | none => exact fun e he => nomatch he
    | some address =>
      refine (evaluateDomainRecorded_contexts _ _).mono fun n told htold e he => ?_
      exact ⟨address, hip, htold e he⟩

end SenderPolicy.Evaluation
