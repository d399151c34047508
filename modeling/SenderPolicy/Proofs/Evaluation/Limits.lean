import SenderPolicy.Proofs.Evaluation.Congruence
import SenderPolicy.Proofs.Evaluation.Depth

/-!
Limits cut an evaluation off, and do nothing else. An evaluation that stays within its limits is the same under all
higher ones, in what it comes to and in what it asks.
-/
namespace SenderPolicy

/-- Neither of the limits is above the other's. -/
structure Limits.AtMost (limits limits' : Limits) : Prop where
  lookups : limits.lookups ≤ limits'.lookups
  voids : limits.voids ≤ limits'.voids

namespace Evaluation
open Dns Dns.Work
variable {α β : Type} {replies : Query → Reply} {limits limits' : Limits} {s : Setting}

/-- From progress within the limits, the first step stops over one of them, or the second asks the same and comes to the
same, still within the limits. -/
def Cut (replies : Query → Reply) (limits : Limits) (x y : Step α) : Prop :=
  ∀ p, Fits limits p.tally →
    (∃ e p', outcome replies x p = (.error (.excess e), p') ∧ ¬ Fits limits p'.tally) ∨
      (outcome replies y p = outcome replies x p ∧ asks replies y p = asks replies x p ∧
        Fits limits (outcome replies x p).2.tally)

namespace Cut

theorem of_kept {x : Step α} (h : ∀ p, (outcome replies x p).2.tally = p.tally) : Cut replies limits x x :=
  fun p hp => .inr ⟨rfl, rfl, (h p).symm ▸ hp⟩

theorem throw (e : Stop) : Cut replies limits (throw e : Step α) (throw e) := of_kept fun _ => rfl

theorem ofExcept (x : Except Fault α) : Cut replies limits (Step.ofExcept x) (Step.ofExcept x) := by
  cases x with
  | ok a => exact of_kept fun _ => rfl
  | error f => exact throw _

theorem bind {x y : Step α} {f g : α → Step β} (h : Cut replies limits x y)
    (hf : ∀ a, Cut replies limits (f a) (g a)) : Cut replies limits (x >>= f) (y >>= g) := by
  intro p hp
  obtain ⟨e, p', hx, hover⟩ | ⟨hsame, hasks, hfits⟩ := h p hp
  · exact .inl ⟨e, p', outcome_bind_of_error hx, hover⟩
  · cases hx : outcome replies x p with
    | mk o p' =>
      rw [hx] at hsame hfits
      cases o with
      | error e =>
        refine .inr ⟨?_, ?_, ?_⟩
        · rw [outcome_bind_of_error hx, outcome_bind_of_error hsame]
        · rw [asks_bind_of_error hx, asks_bind_of_error hsame, hasks]
        · rwa [outcome_bind_of_error hx]
      | ok a =>
        rw [outcome_bind_of_ok hx, outcome_bind_of_ok hsame, asks_bind_of_ok hx, asks_bind_of_ok hsame, hasks]
        obtain hcut | ⟨hsame', hasks', hfits'⟩ := hf a p' hfits
        · exact .inl hcut
        · exact .inr ⟨hsame', congrArg _ hasks', hfits'⟩

theorem count (h : limits.AtMost limits') (label : Text) :
    Cut replies limits (Step.count limits label) (Step.count limits' label) := by
  intro p hp
  have hle := h.lookups
  rw [Step.outcome_count, Step.outcome_count]
  by_cases hover : limits.lookups < (p.tally.lookups + 1 : Nat)
  · rw [if_pos hover]
    refine .inl ⟨_, _, rfl, fun hfits => ?_⟩
    have hl := hfits.lookups
    rw [Progress.counted_lookups] at hl
    omega
  · have hwithin : ¬ limits'.lookups < (p.tally.lookups + 1 : Nat) := by omega
    rw [if_neg hover, if_neg hwithin]
    have hasks : asks replies (Step.count limits' label) p = asks replies (Step.count limits label) p := by
      simp only [asks, Step.run_count]
      rfl
    exact .inr ⟨rfl, hasks, ⟨by rw [Progress.counted_lookups]; omega, hp.voids⟩⟩

theorem countVoid (h : limits.AtMost limits') (label : Text) :
    Cut replies limits (Step.countVoid limits label) (Step.countVoid limits' label) := by
  intro p hp
  have hle := h.voids
  rw [Step.outcome_countVoid, Step.outcome_countVoid]
  by_cases hover : limits.voids < (p.tally.voids + 1 : Nat)
  · rw [if_pos hover]
    refine .inl ⟨_, _, rfl, fun hfits => ?_⟩
    have hv := hfits.voids
    rw [Progress.voided_voids] at hv
    omega
  · have hwithin : ¬ limits'.voids < (p.tally.voids + 1 : Nat) := by omega
    rw [if_neg hover, if_neg hwithin]
    have hasks : asks replies (Step.countVoid limits' label) p = asks replies (Step.countVoid limits label) p := by
      simp only [asks, Step.run_countVoid]
      rfl
    exact .inr ⟨rfl, hasks, ⟨hp.lookups, by rw [Progress.voided_voids]; omega⟩⟩

theorem ofPlan (p : Plan α) : Cut replies limits (Step.ofPlan p) (Step.ofPlan p) := by
  refine of_kept fun q => ?_
  have hplan : outcome replies (Step.ofPlan p) q = (.ok (p.value replies), q) := outcome_ofPlan replies p q
  rw [hplan]

end Cut

def cutting (replies : Query → Reply) (s : Setting) (h : s.limits.AtMost limits') : Congruence s limits' where
  Rel := Cut replies s.limits
  pure _ := .of_kept fun _ => rfl
  bind := .bind
  note _ := .of_kept fun _ => rfl
  query _ _ := .ofPlan _
  queryAll _ _ := .ofPlan _
  count := .count h
  countVoid := .countVoid h
  includeLoop _ := .throw _
  redirectLoop _ := .throw _

theorem explain_cut (s : Setting) (r : Record) (domain : Text) :
    Cut replies limits (explain s r domain) (explain s r domain) := by
  unfold explain
  split
  · exact .of_kept fun _ => rfl
  · exact .of_kept fun _ => rfl
  · refine .bind (.ofExcept _) fun target => .bind (.ofPlan _) fun answer => ?_
    split
    · exact .bind (.ofExcept _) fun explanation => .of_kept fun _ => rfl
    · exact .of_kept fun _ => rfl

theorem visit_cut (h : s.limits.AtMost limits') {follow follow' : Follow}
    (hf : (cutting replies s h).Follows follow follow') :
    (cutting replies s h).Follows (visit s follow) (visit (s.withLimits limits') follow') := by
  intro domain path explains
  refine Cut.bind (.ofPlan _) fun fetched => ?_
  cases fetched with
  | error u => exact (cutting replies s h).noted _ ((cutting replies s h).pure _)
  | ok publication =>
    refine (cutting replies s h).noted _ (Cut.bind (.ofExcept _) fun assessment => ?_)
    split
    · have hreads {α : Type} (x : Except Fault α) : (cutting replies s h).Reads x :=
        (cutting replies s h).reads_of_fault (fun _ => .throw _) x
      exact (cutting replies s h).evaluateRecord
        ⟨fun _ _ _ _ _ _ => hreads _, fun _ _ _ target _ path => hf target path false, fun _ _ => hreads _,
          fun _ _ target _ path => hf target path explains⟩
        rfl rfl fun _ => explain_cut s _ _
    · exact Cut.bind ((cutting replies s h).noteAll _ _) fun _ => (cutting replies s h).pure _

theorem checkHost_cut (replies : Query → Reply) (h : s.limits.AtMost limits') (depth : Nat) :
    (cutting replies s h).Follows (checkHost s depth) (checkHost (s.withLimits limits') depth) := by
  induction depth with
  | zero => exact visit_cut h fun _ _ _ => Congruence.pure _ _
  | succ depth ih => exact visit_cut h ih

/-- The evaluation of a domain that has gone over a limit comes to a result that tells so; else it is the same under
all higher limits. -/
theorem evaluateDomain_cut (h : s.limits.AtMost limits') (domain : Text) :
    (∃ result, (evaluateDomain s domain).value replies = .ok result ∧ ¬ Fits s.limits result.tally) ∨
      ((evaluateDomain (s.withLimits limits') domain).value replies = (evaluateDomain s domain).value replies ∧
        (evaluateDomain (s.withLimits limits') domain).queries replies =
          (evaluateDomain s domain).queries replies) := by
  have hdepth : s.limits.lookups.toNat ≤ limits'.lookups.toNat := Int.toNat_le_toNat h.lookups
  have hrun : (checkHost s limits'.lookups.toNat domain [domain] true).run.run {} =
      (checkHost s s.limits.lookups.toNat domain [domain] true).run.run {} := by
    rw [checkHost_eq_above s limits'.lookups.toNat]
    exact checkHostAbove_run s _ hdepth domain [domain] true
  have hcut := checkHost_cut replies h limits'.lookups.toNat domain [domain] true {}
    ⟨Nat.zero_le _, Nat.zero_le _⟩
  simp only [Work.outcome, Work.asks, hrun] at hcut
  unfold evaluateDomain
  simp only [Plan.value_bind, Plan.queries_bind, Setting.withLimits_limits]
  obtain ⟨e, p, hover, hfits⟩ | ⟨hsame, hasks, -⟩ := hcut
  · rw [hover]
    exact .inl ⟨_, rfl, hfits⟩
  · rw [hsame, hasks]
    exact .inr ⟨rfl, rfl⟩

theorem evaluate_cut (replies : Query → Reply) (h : limits.AtMost limits') (now : Int) (request : Request)
    (hfits : ∀ result, (evaluate limits now request).value replies = .ok result → Fits limits result.tally) :
    (evaluate limits' now request).value replies = (evaluate limits now request).value replies ∧
      (evaluate limits' now request).queries replies = (evaluate limits now request).queries replies := by
  unfold evaluate at hfits ⊢
  dsimp only at hfits ⊢
  split
  · exact ⟨rfl, rfl⟩
  · rename_i hname
    rw [if_neg hname] at hfits
    cases hip : Address.parse? request.ip with
    | none => exact ⟨rfl, rfl⟩
    | some address =>
      rw [hip] at hfits
      let s := Setting.ofRequest request address limits now
      obtain ⟨result, hresult, hover⟩ | hsame := evaluateDomain_cut (s := s) h (Domain.normalized request.domain)
      · exact absurd (hfits result hresult) hover
      · exact hsame

end Evaluation
end SenderPolicy
