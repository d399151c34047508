import SenderPolicy.Proofs.Evaluation.Budget
import SenderPolicy.Proofs.Evaluation.Ending
import SenderPolicy.Proofs.Evaluation.Notes

/-!
Where an evaluation says that there is no policy. The verdict comes from the domain that was asked about, whose record
is missing. The domains that its record leads to may have none either, but what follows from that is another verdict.
-/
namespace SenderPolicy

theorem Qualifier.verdict_ne_none (q : Qualifier) : q.verdict ≠ .none := by
  cases q <;> decide

end SenderPolicy

namespace SenderPolicy.Evaluation
open Dns Dns.Work
variable {α σ : Type} {s : Setting} {follow : Follow} {r : Record} {domain : Text} {path : List Text}
  {explains : Bool} {reply : Query → σ → Reply × σ} {state : σ} {p : Progress} {u : Unpublished}
  {publication : Publication}

/-- The domain is asked for its record, and has none. -/
def HasNoRecord (reply : Query → σ → Reply × σ) (state : σ) (domain : Text) : Prop :=
  ∃ u : Unpublished, ((published domain).run reply state).1 = .error u ∧ u.verdict = .none

/-! Steps that never come to the verdict -/

/-- Whatever the resolver replies, the step does not come to the verdict that there is no policy. -/
def NeverNone (x : Step Verdict) : Prop := ∀ p, x.Ensures p fun _ o _ => o ≠ .ok .none

namespace NeverNone
variable {verdict : Verdict}

theorem pure (h : verdict ≠ .none) : NeverNone (pure verdict) := fun _ heq => h (Except.ok.inj heq)

theorem behind {x : Step α} {f : α → Step Verdict} (h : ∀ a, NeverNone (f a)) : NeverNone (x >>= f) := by
  refine fun p => Step.ensures_bind (Plan.ensures_of_forall fun n e => ?_)
  obtain ⟨o, p'⟩ := e
  cases o with
  | ok a => exact h a p'
  | error stop => exact nofun

end NeverNone

theorem redirect_neverNone (value : Text) : NeverNone (redirect s follow value domain path explains) := by
  refine .behind fun _ => .behind fun target => .behind fun _ => .behind fun _ => .behind fun verdict => ?_
  split
  · exact .behind fun _ => .pure (by decide)
  · rename_i h
    exact .pure h

/-- Once a record is there, no verdict on what it leads to makes it one without a policy. -/
theorem evaluateRecord_neverNone : NeverNone (evaluateRecord s follow r domain path explains) := by
  refine .behind fun found => ?_
  split
  · exact .pure (by decide)
  · exact .pure (by decide)
  · refine .behind fun _ => ?_
    split
    · exact .behind fun _ => .pure (Qualifier.verdict_ne_none _)
    · exact .pure (Qualifier.verdict_ne_none _)
  · split
    · exact redirect_neverNone _
    · exact .behind fun _ => .pure (by decide)

/-! Visiting a domain -/

def visitFetched (s : Setting) (follow : Follow) (domain : Text) (path : List Text) (explains : Bool) :
    Except Unpublished Publication → Step Verdict
  | .error u => do
    Step.note [u.report domain, " (", u.verdict.name, ")"]
    return u.verdict
  | .ok publication => do
    Step.note [domain, ": ", publication.record]
    let assessment ← Step.ofExcept (Audit.auditText publication.record)
    match Record.parse? publication.record, assessment.isValid with
    | some record, true => evaluateRecord s follow record domain path explains
    | _, _ =>
      noteAll domain (assessment.problems Audit.defaultMarker)
      return .permerror

theorem visit_eq : visit s follow domain path explains =
    Step.ofPlan (published domain) >>= visitFetched s follow domain path explains := rfl

theorem visitFetched_neverNone : NeverNone (visitFetched s follow domain path explains (.ok publication)) := by
  refine .behind fun _ => .behind fun assessment => ?_
  split
  · exact evaluateRecord_neverNone
  · exact .behind fun _ => .pure (by decide)

theorem run_visit : ((visit s follow domain path explains).run.run p).run reply state =
    ((visitFetched s follow domain path explains ((published domain).run reply state).1).run.run p).run reply
      ((published domain).run reply state).2 := by
  rw [visit_eq, run_bind, Step.ofPlan_eq, run_ofPlan, Plan.run_bind, Plan.run_bind]
  rfl

theorem visit_none_iff : (((visit s follow domain path explains).run.run p).run reply state).1.1 = .ok .none ↔
    HasNoRecord reply state domain := by
  rw [run_visit]
  unfold HasNoRecord
  cases ((published domain).run reply state).1 with
  | error u =>
    constructor
    · exact fun h => ⟨u, rfl, Except.ok.inj h⟩
    · rintro ⟨u', hu, hnone⟩
      cases hu
      exact congrArg Except.ok hnone
  | ok publication => exact iff_of_false ((visitFetched_neverNone p).of_run reply _) nofun

theorem visit_none_costs : (visit s follow domain path explains).Ensures p fun n o p' =>
    o = .ok .none → n ≤ 1 ∧ p'.tally = p.tally := by
  rw [visit_eq]
  refine Step.ensures_bind (Step.ensures_ofPlan ((published_questions domain).mono fun n fetched hn => ?_))
  cases fetched with
  | error u => exact fun _ => ⟨hn, rfl⟩
  | ok publication => exact (visitFetched_neverNone p).mono fun _ o _ hne heq => absurd heq hne

theorem checkHost_none_iff (left : Nat) :
    (((checkHost s left domain path explains).run.run p).run reply state).1.1 = .ok .none ↔
      HasNoRecord reply state domain := by
  rw [checkHost_eq_visit]
  exact visit_none_iff

theorem checkHost_none_costs (left : Nat) : (checkHost s left domain path explains).Ensures p fun n o p' =>
    o = .ok .none → n ≤ 1 ∧ p'.tally = p.tally := by
  rw [checkHost_eq_visit]
  exact visit_none_costs

theorem checkHost_tally_of_none {replies : Query → Reply} {left : Nat} {p' : Progress}
    (h : outcome replies (checkHost s left domain path explains) p = (.ok .none, p')) : p'.tally = p.tally := by
  have hcosts : (checkHost s left domain path explains).Ensures p _ := checkHost_none_costs left
  have hend := hcosts.of_outcome replies
  rw [h] at hend
  exact (hend rfl).2

/-! The whole evaluation -/

theorem evaluateDomain_none {start : σ} {result : Result}
    (h : ((evaluateDomain s domain).run reply start).1 = .ok result) :
    (result.verdict = .none ↔ HasNoRecord reply start domain) ∧
      (result.verdict = .none → ((evaluateDomain s domain).asked reply start).length ≤ 1 ∧ result.tally = {}) := by
  rw [evaluateDomain_eq, Plan.run_map] at h
  obtain ⟨hend, htally⟩ := of_closing_eq_ok h
  have hverdict : result.verdict = .none ↔
      (((checkHost s s.limits.lookups.toNat domain [domain] true).run.run {}).run reply start).1.1 = .ok .none := by
    rw [← endVerdict_eq_ok_iff (by decide), hend, Except.ok.injEq]
  refine ⟨hverdict.trans (checkHost_none_iff _), fun hnone => ?_⟩
  rw [evaluateDomain_eq, Plan.asked_map, htally]
  exact (checkHost_none_costs _).of_run reply start (hverdict.mp hnone)

/-- An evaluation says that there is no policy if no domain was given, or if that very domain has no record, and the
address can be read; it has then asked one question at most, and counted nothing. Wherever a domain with a record leads,
the verdict is another one; so at every level of includes and redirects it is said of the domain visited there only. -/
theorem none_iff_no_policy (reply : Query → σ → Reply × σ) (start : σ) :
    (∀ (limits : Limits) (now : Int) (request : Request) (result : Result),
      ((evaluate limits now request).run reply start).1 = .ok result →
      (result.verdict = .none ↔ Domain.normalized request.domain = [] ∨
        (Address.parse? request.ip).isSome = true ∧ HasNoRecord reply start (Domain.normalized request.domain)) ∧
      (result.verdict = .none →
        ((evaluate limits now request).asked reply start).length ≤ 1 ∧ result.tally = {})) ∧
    (∀ (s : Setting) (follow : Follow) (r : Record) (domain : Text) (path : List Text) (explains : Bool) (p : Progress),
      (((evaluateRecord s follow r domain path explains).run.run p).run reply start).1.1 ≠ .ok .none) ∧
    ∀ (s : Setting) (left : Nat) (domain : Text) (path : List Text) (explains : Bool) (p : Progress),
      (((checkHost s left domain path explains).run.run p).run reply start).1.1 = .ok .none ↔
        HasNoRecord reply start domain := by
  refine ⟨fun limits now request result h => ?_, fun _ _ _ _ _ _ p => (evaluateRecord_neverNone p).of_run reply start,
    fun _ left _ _ _ _ => checkHost_none_iff left⟩
  unfold evaluate at h ⊢
  dsimp only at h ⊢
  split at h
  · rename_i hempty
    cases h
    rw [if_pos hempty]
    exact ⟨iff_of_true rfl (.inl (List.isEmpty_iff.mp hempty)), fun _ => ⟨Nat.zero_le 1, rfl⟩⟩
  · rename_i hempty
    rw [if_neg hempty]
    have hne : Domain.normalized request.domain ≠ [] := fun h => hempty (List.isEmpty_iff.mpr h)
    cases hip : Address.parse? request.ip with
    | none =>
      rw [hip] at h
      cases h
      exact ⟨iff_of_false nofun (by simp [hne]), nofun⟩
    | some address =>
      rw [hip] at h
      obtain ⟨hiff, hcosts⟩ := evaluateDomain_none h
      exact ⟨hiff.trans (by simp [hne]), hcosts⟩

def leadingNowhere (q : Query) : Unit → Reply × Unit := fun _ =>
  (if q.name = "d.example" then .records [.text "v=spf1 include:gone.example redirect=lost.example"]
  else .noSuchDomain q.name, ())

theorem leadingNowhere_is_a_policy :
    (∃ result, ((evaluate ⟨10, 2⟩ 0 { domain := "d.example", ip := "192.0.2.1" }).run leadingNowhere ()).1 =
      .ok result ∧ result.verdict ≠ .none ∧ result.tally = ⟨2, 1⟩) ∧
    ∃ result, ((evaluate ⟨10, 2⟩ 0 { domain := "Gone.Example.", ip := "192.0.2.1" }).run leadingNowhere ()).1 =
      .ok result ∧ result.verdict = .none ∧ result.tally = {} := by
  obtain ⟨hevaluate, -, -⟩ := none_iff_no_policy leadingNowhere ()
  constructor
  · have hrun : ((evaluate ⟨10, 2⟩ 0 { domain := "d.example", ip := "192.0.2.1" }).run leadingNowhere ()).1.toOption.map
        Result.tally = some ⟨2, 1⟩ := by decide +kernel
    obtain ⟨result, hresult, htally⟩ := Option.map_eq_some_iff.mp hrun
    have hok := eq_ok_of_toOption hresult
    refine ⟨result, hok, fun hnone => ?_, htally⟩
    obtain hempty | ⟨-, u, hu, -⟩ := (hevaluate _ _ _ result hok).1.mp hnone
    · exact absurd hempty (by decide +kernel)
    · have hpublished : ((published "d.example").run leadingNowhere ()).1.toOption.isSome = true := by decide +kernel
      rw [show ((published "d.example").run leadingNowhere ()).1 = .error u from hu] at hpublished
      cases hpublished
  · have hrun : ((evaluate ⟨10, 2⟩ 0 { domain := "Gone.Example.", ip := "192.0.2.1" }).run leadingNowhere
        ()).1.toOption.isSome = true := by decide +kernel
    obtain ⟨result, hresult⟩ := Option.isSome_iff_exists.mp hrun
    have hok := eq_ok_of_toOption hresult
    obtain ⟨hnone, hcosts⟩ := hevaluate _ _ _ result hok
    have habsent := hnone.mpr (.inr ⟨by decide +kernel, .noDomain, by decide +kernel, rfl⟩)
    exact ⟨result, hok, habsent, (hcosts habsent).2⟩

end SenderPolicy.Evaluation
