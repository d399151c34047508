import SenderPolicy.Proofs.Audit.Cost
import SenderPolicy.Proofs.Evaluation.Parallel

/-!
How an evaluation ends, told by the outcome of its first domain; and what evaluating a domain comes to where
it publishes a record.
-/
namespace SenderPolicy.Evaluation
open Dns Dns.Work
variable {s : Setting} {replies : Query → Reply} {domain : Text} {path : List Text} {r : Record}

/-- The verdict that an outcome stands for, or the fault: a stop without a fault is a permanent error. -/
def endVerdict : Except Stop Verdict → Except Fault Verdict
  | .ok verdict => .ok verdict
  | .error stop =>
    match stop.fault? with
    | some f => .error f
    | none => .ok .permerror

theorem endVerdict_of_stop {stop : Stop} (h : stop.fault? = none) :
    endVerdict (.error stop) = .ok .permerror := by
  simp only [endVerdict, h]

theorem endVerdict_eq_ok_iff {o : Except Stop Verdict} {v : Verdict} (hv : v ≠ .permerror) :
    endVerdict o = .ok v ↔ o = .ok v := by
  cases o with
  | ok verdict => simp [endVerdict]
  | error stop => cases stop <;> simp [endVerdict, Stop.fault?, hv.symm]

def closing : Except Stop Verdict × Progress → Except Fault Result
  | (.ok verdict, p) => .ok (.ofProgress verdict p)
  | (.error (.fault f), _) => .error f
  | (.error stop, p) =>
    let line := Text.phrase [stop.message?.getD [], " (permerror)"]
    .ok (.ofProgress .permerror { p with trail := p.trail ++ [line] })

theorem evaluateDomain_eq (s : Setting) (domain : Text) : evaluateDomain s domain =
    closing <$> (checkHost s s.limits.lookups.toNat domain [domain] true).run.run {} := by
  unfold evaluateDomain
  rw [map_eq_pure_bind]
  congr 1
  funext reached
  obtain ⟨o, p⟩ := reached
  cases o with
  | ok verdict => rfl
  | error stop => cases stop <;> rfl

theorem closing_tells (reached : Except Stop Verdict × Progress) :
    (closing reached).map (fun r => (r.verdict, r.tally, r.explanation)) =
      (endVerdict reached.1).map fun verdict =>
        (verdict, reached.2.tally, if verdict = .fail then reached.2.explanation else none) := by
  obtain ⟨o, p⟩ := reached
  cases o with
  | ok verdict => rfl
  | error stop => cases stop <;> rfl

theorem of_closing_eq_ok {reached : Except Stop Verdict × Progress} {result : Result}
    (h : closing reached = .ok result) :
    endVerdict reached.1 = .ok result.verdict ∧ result.tally = reached.2.tally := by
  have htells := closing_tells reached
  rw [h] at htells
  obtain ⟨verdict, hverdict, heq⟩ := of_map_eq_ok htells.symm
  obtain ⟨rfl, hrest⟩ := Prod.mk.inj heq
  exact ⟨hverdict, (Prod.mk.inj hrest).1⟩

theorem evaluateDomain_tells (s : Setting) (replies : Query → Reply) (domain : Text) :
    ((evaluateDomain s domain).value replies).map (fun r => (r.verdict, r.tally, r.explanation)) =
      let reached := outcome replies (checkHost s s.limits.lookups.toNat domain [domain] true) {}
      (endVerdict reached.1).map fun verdict =>
        (verdict, reached.2.tally, if verdict = .fail then reached.2.explanation else none) := by
  rw [evaluateDomain_eq, Plan.value_map]
  exact closing_tells _

theorem evaluateDomain_queries (s : Setting) (replies : Query → Reply) (domain : Text) :
    (evaluateDomain s domain).queries replies =
      asks replies (checkHost s s.limits.lookups.toNat domain [domain] true) {} := by
  rw [evaluateDomain_eq, Plan.queries_map]
  rfl

theorem evaluateDomain_judges (s : Setting) (replies : Query → Reply) (domain : Text) :
    ((evaluateDomain s domain).value replies).map (fun r => (r.verdict, r.tally)) =
      let reached := outcome replies (checkHost s s.limits.lookups.toNat domain [domain] true) {}
      (endVerdict reached.1).map fun verdict => (verdict, reached.2.tally) := by
  have htells := congrArg (Except.map fun x => (x.1, x.2.1)) (evaluateDomain_tells s replies domain)
  dsimp only at htells ⊢
  generalize (evaluateDomain s domain).value replies = result at htells ⊢
  generalize outcome replies (checkHost s s.limits.lookups.toNat domain [domain] true) {} = reached at htells ⊢
  calc
    result.map (fun r => (r.verdict, r.tally)) =
        (result.map fun r => (r.verdict, r.tally, r.explanation)).map fun x => (x.1, x.2.1) := by
      cases result <;> rfl
    _ = _ := htells
    _ = (endVerdict reached.1).map fun verdict => (verdict, reached.2.tally) := by
      cases endVerdict reached.1 <;> rfl

theorem evaluateDomain_verdict (s : Setting) (replies : Query → Reply) (domain : Text) :
    ((evaluateDomain s domain).value replies).map (·.verdict) =
      endVerdict (outcome replies (checkHost s s.limits.lookups.toNat domain [domain] true) {}).1 := by
  have hjudges := congrArg (Except.map Prod.fst) (evaluateDomain_judges s replies domain)
  dsimp only at hjudges
  generalize (evaluateDomain s domain).value replies = result at hjudges ⊢
  generalize outcome replies (checkHost s s.limits.lookups.toNat domain [domain] true) {} = reached at hjudges ⊢
  calc
    result.map (·.verdict) = (result.map fun r => (r.verdict, r.tally)).map Prod.fst := by cases result <;> rfl
    _ = _ := hjudges
    _ = endVerdict reached.1 := by cases endVerdict reached.1 <;> rfl

theorem evaluate_eq_evaluateDomain {limits : Limits} {now : Int} {request : Request} {address : Address}
    (hname : Domain.normalized request.domain ≠ []) (hip : Address.parse? request.ip = some address) :
    evaluate limits now request =
      evaluateDomain (.ofRequest request address limits now) (Domain.normalized request.domain) := by
  have hsome : (Domain.normalized request.domain).isEmpty = false := by simpa using hname
  simp only [evaluate, hsome, hip]
  rfl

theorem visit_of_publishes (hp : Audit.Publishes replies domain r) (follow : Follow)
    (path : List Text) (explains : Bool) (p : Progress) :
    ∃ line, outcome replies (visit s follow domain path explains) p =
        outcome replies (evaluateRecord s follow r domain path explains) (p.noted line) ∧
      asks replies (visit s follow domain path explains) p = ⟨.texts, Domain.normalized domain⟩ ::
        asks replies (evaluateRecord s follow r domain path explains) (p.noted line) := by
  obtain ⟨publication, hpub, hparse, hvalid⟩ := hp
  obtain ⟨a, haudit, hvalid⟩ := hvalid.auditText hparse
  have hfetch : outcome replies (Step.ofPlan (published domain)) p = (.ok (.ok publication), p) :=
    hpub ▸ outcome_ofPlan replies _ p
  have hnote := Step.outcome_note replies p [domain, ": ", publication.record]
  refine ⟨Text.phrase [domain, ": ", publication.record], ?_⟩
  have hread : outcome replies (Step.ofExcept (.ok a))
      (p.noted (Text.phrase [domain, ": ", publication.record])) =
      (.ok a, p.noted (Text.phrase [domain, ": ", publication.record])) := rfl
  unfold visit
  rw [outcome_bind_of_ok hfetch, asks_bind_of_ok hfetch]
  dsimp only
  rw [outcome_bind_of_ok hnote, asks_bind_of_ok hnote, haudit, hparse, outcome_bind_of_ok hread,
    asks_bind_of_ok hread, hvalid]
  exact ⟨rfl, rfl⟩

theorem outcome_visit_of_publishes (hp : Audit.Publishes replies domain r) (follow : Follow)
    (path : List Text) (explains : Bool) (p : Progress) :
    ∃ line, outcome replies (visit s follow domain path explains) p =
      outcome replies (evaluateRecord s follow r domain path explains) (p.noted line) := by
  obtain ⟨line, hrun, -⟩ := visit_of_publishes hp follow path explains p
  exact ⟨line, hrun⟩

namespace Comparison
variable {C : Comparison}

theorem EndTogether.endVerdict_eq {x y : Except Stop Verdict × Progress} (h : C.EndTogether Eq x y) :
    endVerdict y.1 = endVerdict x.1 := by
  obtain ⟨o, p⟩ := x
  obtain ⟨o', q⟩ := y
  cases o with
  | ok v =>
    cases o' with
    | ok w => exact congrArg (fun v => endVerdict (.ok v)) h.1.symm
    | error e' => exact h.elim
  | error e =>
    cases o' with
    | ok w => exact h.elim
    | error e' => simp only [endVerdict, show e'.fault? = e.fault? from h.1]

theorem EndTogether.near {x y : Except Stop Verdict × Progress} (h : C.EndTogether Eq x y) :
    C.Near x.2 y.2 := by
  obtain ⟨o, p⟩ := x
  obtain ⟨o', q⟩ := y
  cases o <;> cases o'
  · exact h.2
  · exact h.elim
  · exact h.elim
  · exact h.2

theorem EndTogether.tells_eq {x y : Except Stop Verdict × Progress} (h : C.EndTogether Eq x y)
    (hlead : C.lead = 0) (hexplained : C.explained = true) :
    (endVerdict y.1).map (fun v => (v, y.2.tally, if v = .fail then y.2.explanation else none)) =
      (endVerdict x.1).map (fun v => (v, x.2.tally, if v = .fail then x.2.explanation else none)) := by
  have hlookups : y.2.tally.lookups = x.2.tally.lookups := by rw [h.near.lookups, hlead, Nat.add_zero]
  have htally : y.2.tally = x.2.tally :=
    calc
      y.2.tally = ⟨y.2.tally.lookups, y.2.tally.voids⟩ := rfl
      _ = ⟨x.2.tally.lookups, x.2.tally.voids⟩ := by rw [hlookups, h.near.voids]
      _ = x.2.tally := rfl
  rw [h.endVerdict_eq, htally, h.near.explanation hexplained]

end Comparison
end SenderPolicy.Evaluation
