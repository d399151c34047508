import SenderPolicy.Proofs.Evaluation.Budget

/-!
The depth of an evaluation. Each level below the first has been paid for with a lookup, so that the levels
never run out before the lookups do: whatever stands below the last level is never reached. The evaluation
thus ends by itself, within a budget that the limits set.
-/
namespace SenderPolicy.Evaluation
open Dns
variable {α β σ : Type} {limits : Limits} {s : Setting} {q v k : Nat} {follow follow' : Follow}

/-- Two steps that are the same where the tally is within the limits and has so many lookups; they go on
only where this is still so. -/
def AgreeFrom (limits : Limits) (k : Nat) (x y : Step α) : Prop :=
  ∀ p, Fits limits p.tally → k ≤ p.tally.lookups →
    x.run.run p = y.run.run p ∧
    x.Ensures p fun _ o p' => ∀ a, o = .ok a → Fits limits p'.tally ∧ k ≤ p'.tally.lookups

/-- Following is the same; at a count over the limit nothing is followed any more. -/
def FollowsAgree (limits : Limits) (k : Nat) (follow follow' : Follow) : Prop :=
  ∀ domain path explains, AgreeFrom limits k (follow domain path explains) (follow' domain path explains)

theorem followsAgree_beyond (h : limits.lookups.toNat < k) (follow follow' : Follow) :
    FollowsAgree limits k follow follow' := by
  intro domain path explains p hp hk
  have hl := hp.lookups
  omega

namespace AgreeFrom

theorem of_frugal {x : Step α} (h : Frugal limits q v x) : AgreeFrom limits k x x := by
  intro p hp hk
  refine ⟨rfl, (h p hp).mono ?_⟩
  rintro n o p' ⟨ha, hfit⟩ a ho
  exact ⟨hfit a ho, Nat.le_trans hk ha.increasing⟩

theorem pure (a : α) : AgreeFrom limits k (pure a : Step α) (Pure.pure a) :=
  of_frugal (Frugal.pure (q := 0) (v := 0) a)

theorem bind {x y : Step α} {f g : α → Step β} (h : AgreeFrom limits k x y)
    (hf : ∀ a, AgreeFrom limits k (f a) (g a)) : AgreeFrom limits k (x >>= f) (y >>= g) := by
  intro p hp hk
  obtain ⟨heq, hgo⟩ := h p hp hk
  constructor
  · rw [Dns.Work.run_bind, Dns.Work.run_bind, ← heq]
    refine Plan.bind_congr_of_ensures (Plan.Ensures.mono hgo ?_)
    rintro n ⟨o, p'⟩ ho
    cases o with
    | error e => rfl
    | ok a => exact (hf a p' (ho a rfl).1 (ho a rfl).2).1
  · refine Step.ensures_bind (hgo.mono fun n o p' ho => ?_)
    cases o with
    | error e => exact fun _ h => nomatch h
    | ok a => exact (hf a p' (ho a rfl).1 (ho a rfl).2).2

theorem counted {x y : Unit → Step α} {term : Text} (h : AgreeFrom limits (k + 1) (x ()) (y ())) :
    AgreeFrom limits k (Step.count limits term >>= x) (Step.count limits term >>= y) := by
  intro p hp hk
  have behind (hw : (p.tally.lookups + 1 : Nat) ≤ limits.lookups) :=
    h p.counted ⟨by rw [Progress.counted_lookups]; omega, hp.voids⟩ (Nat.succ_le_succ hk)
  constructor
  · rw [Dns.Work.run_bind, Dns.Work.run_bind, Step.run_count, pure_bind, pure_bind]
    by_cases hw : limits.lookups < (p.tally.lookups + 1 : Nat)
    · simp only [if_pos hw]
    · simp only [if_neg hw]
      exact (behind (Int.not_lt.mp hw)).1
  · refine Step.ensures_bind (Step.ensures_count (fun _ _ h => nomatch h) fun hw => ?_)
    refine (behind hw).2.mono fun n o p' ho a ha => ?_
    exact ⟨(ho a ha).1, Nat.le_of_succ_le (ho a ha).2⟩

end AgreeFrom

theorem guardLoop_agree (stop : List Text → Stop) (path : List Text) (target : Text) :
    AgreeFrom s.limits k (guardLoop s stop path target) (guardLoop s stop path target) :=
  .of_frugal (guardLoop_frugal stop path target)

theorem note_agree (parts : List Text) : AgreeFrom limits k (Step.note parts) (Step.note parts) :=
  .of_frugal (Frugal.note parts)

theorem matchInclude_agree (h : FollowsAgree s.limits k follow follow') (label target : Text)
    (path : List Text) :
    AgreeFrom s.limits k (matchInclude s follow label target path)
      (matchInclude s follow' label target path) := by
  refine (guardLoop_agree _ path target).bind fun _ => (h _ _ _).bind fun verdict => ?_
  refine (note_agree _).bind fun _ => ?_
  cases verdict with
  | none => exact (AgreeFrom.of_frugal (Frugal.countVoid label)).bind fun _ => .pure _
  | _ => exact .pure _

theorem matchTerm_agree (h : FollowsAgree s.limits (k + 1) follow follow') (domain : Text)
    (path : List Text) (t : Term) :
    AgreeFrom s.limits k (matchTerm s follow domain path t) (matchTerm s follow' domain path t) := by
  unfold matchTerm
  split
  · exact .pure _
  · exact .pure _
  · exact .pure _
  · refine AgreeFrom.counted ((AgreeFrom.of_frugal (Frugal.ofExcept _)).bind ?_)
    intro target
    split
    · exact .of_frugal (matchAddresses_frugal _ _ _)
    · exact .of_frugal (matchExchanges_frugal _ _ _)
    · exact .of_frugal (matchNames_frugal _ _)
    · exact matchInclude_agree h _ _ _
    · exact .of_frugal (matchExistence_frugal _ _)
    · exact .pure _

theorem firstDecisive_agree {attempt attempt' : Term → Step Outcome}
    (h : ∀ t, AgreeFrom limits k (attempt t) (attempt' t)) (ts : List Term) :
    AgreeFrom limits k (firstDecisive attempt ts) (firstDecisive attempt' ts) := by
  induction ts with
  | nil => exact .pure _
  | cons t rest ih =>
    refine (h t).bind fun outcome => ?_
    split
    · exact ih
    · exact .pure _

theorem redirect_agree (h : FollowsAgree s.limits (k + 1) follow follow') (value domain : Text)
    (path : List Text) (explains : Bool) :
    AgreeFrom s.limits k (redirect s follow value domain path explains)
      (redirect s follow' value domain path explains) := by
  refine AgreeFrom.counted ((AgreeFrom.of_frugal (Frugal.ofExcept _)).bind ?_)
  intro target
  refine (guardLoop_agree _ path target).bind fun _ => (note_agree _).bind fun _ => ?_
  refine (h _ _ _).bind fun verdict => ?_
  split
  · exact (note_agree _).bind fun _ => .pure _
  · exact .pure _

theorem evaluateRecord_agree (h : FollowsAgree s.limits (k + 1) follow follow') (r : Record)
    (domain : Text) (path : List Text) (explains : Bool) :
    AgreeFrom s.limits k (evaluateRecord s follow r domain path explains)
      (evaluateRecord s follow' r domain path explains) := by
  refine (firstDecisive_agree (matchTerm_agree h domain path) _).bind fun found => ?_
  split
  · exact .pure _
  · exact .pure _
  · refine (note_agree _).bind fun _ => ?_
    split
    · exact (AgreeFrom.of_frugal (explain_frugal r domain)).bind fun _ => .pure _
    · exact .pure _
  · split
    · exact redirect_agree h _ _ _ _
    · exact (note_agree _).bind fun _ => .pure _

theorem visit_agree (h : FollowsAgree s.limits (k + 1) follow follow') :
    FollowsAgree s.limits k (visit s follow) (visit s follow') := by
  intro domain path explains
  refine (AgreeFrom.of_frugal (Frugal.ofPlan (published_questions domain))).bind fun fetched => ?_
  cases fetched with
  | error u => exact (note_agree _).bind fun _ => .pure _
  | ok publication =>
    refine (note_agree _).bind fun _ => ?_
    refine (AgreeFrom.of_frugal (Frugal.ofExcept _)).bind fun assessment => ?_
    split
    · exact evaluateRecord_agree h _ _ _ _
    · exact (AgreeFrom.of_frugal (noteAll_frugal _ _)).bind fun _ => .pure _

/-- The evaluation of a domain with so many levels, below which something else stands. -/
def checkHostAbove (s : Setting) (floor : Follow) : Nat → Follow
  | 0 => visit s floor
  | depth + 1 => visit s (checkHostAbove s floor depth)

theorem checkHost_eq_above (s : Setting) (depth : Nat) :
    checkHost s depth = checkHostAbove s (fun _ _ _ => return .permerror) depth := by
  induction depth with
  | zero => rfl
  | succ depth ih => rw [checkHost, checkHostAbove, ih]

/-- As many levels as there are lookups left are enough. -/
theorem checkHostAbove_agree (s : Setting) (floor floor' : Follow) (depth depth' k : Nat)
    (h : s.limits.lookups.toNat ≤ depth + k) (h' : s.limits.lookups.toNat ≤ depth' + k) :
    FollowsAgree s.limits k (checkHostAbove s floor depth) (checkHostAbove s floor' depth') := by
  -- At the last level of either evaluation the next count goes over the limit.
  induction depth generalizing depth' k with
  | zero =>
    have hk : s.limits.lookups.toNat < k + 1 := by omega
    cases depth' with
    | zero => exact visit_agree (followsAgree_beyond hk _ _)
    | succ depth' => exact visit_agree (followsAgree_beyond hk _ _)
  | succ depth ih =>
    cases depth' with
    | zero =>
      have hk : s.limits.lookups.toNat < k + 1 := by omega
      exact visit_agree (followsAgree_beyond hk _ _)
    | succ depth' => exact visit_agree (ih depth' (k + 1) (by omega) (by omega))

/-- Whatever stands below the last level, and however many levels there are beyond the lookups that the
limits allow, the evaluation is the same. -/
theorem checkHostAbove_run (s : Setting) (floor : Follow) {depth : Nat}
    (h : s.limits.lookups.toNat ≤ depth) (domain : Text) (path : List Text) (explains : Bool) :
    (checkHostAbove s floor depth domain path explains).run.run {} =
      (checkHost s s.limits.lookups.toNat domain path explains).run.run {} := by
  rw [checkHost_eq_above]
  exact (checkHostAbove_agree s _ _ depth _ 0 h (Nat.le_refl _) domain path explains {}
    ⟨Nat.zero_le _, Nat.zero_le _⟩ (Nat.zero_le _)).1

/-- What a result has counted, on every path that ends in one. -/
structure WithinBudget (limits : Limits) (result : Result) : Prop where
  lookups : result.tally.lookups ≤ limits.lookups.toNat + 1
  voids : result.tally.voids ≤ limits.voids.toNat + 1
  voids_le_lookups : result.tally.voids ≤ result.tally.lookups
  lookups_le_limit : result.verdict ≠ .permerror →
    (result.tally.lookups : Int) ≤ limits.lookups ∨ result.tally.lookups = 0
  voids_le_limit : result.verdict ≠ .permerror →
    (result.tally.voids : Int) ≤ limits.voids ∨ result.tally.voids = 0

theorem evaluateDomain_bounds (s : Setting) (domain : Text) :
    (evaluateDomain s domain).Ensures fun n end? =>
      n ≤ 2 + 11 * s.limits.lookups.toNat ∧ ∀ result, end? = .ok result → WithinBudget s.limits result := by
  refine Plan.ensures_bind (Plan.Ensures.mono (checkHost_bounds s _ domain [domain]) ?_)
  rintro n ⟨o, p⟩ ⟨hn, hl, hv, hvl, hfit⟩
  cases o with
  | ok verdict =>
    refine ⟨hn, fun result hr => ?_⟩
    cases hr
    have hfl : p.tally.lookups ≤ s.limits.lookups.toNat := (hfit verdict rfl).lookups
    have hfv : p.tally.voids ≤ s.limits.voids.toNat := (hfit verdict rfl).voids
    exact ⟨hl, hv, hvl, fun _ => by simp only [Result.ofProgress]; omega,
      fun _ => by simp only [Result.ofProgress]; omega⟩
  | error stop =>
    cases stop with
    | fault f => exact ⟨hn, fun result hr => nomatch hr⟩
    | _ =>
      refine ⟨hn, fun result hr => ?_⟩
      cases hr
      exact ⟨hl, hv, hvl, fun h => absurd rfl h, fun h => absurd rfl h⟩

theorem evaluate_bounds (limits : Limits) (now : Int) (request : Request) :
    (evaluate limits now request).Ensures fun n end? =>
      n ≤ 2 + 11 * limits.lookups.toNat ∧ ∀ result, end? = .ok result → WithinBudget limits result := by
  have hfree (verdict : Verdict) (trail : List Text) : WithinBudget limits { verdict, trail } :=
    ⟨Nat.zero_le _, Nat.zero_le _, Nat.le_refl _, fun _ => .inr rfl, fun _ => .inr rfl⟩
  unfold evaluate
  dsimp only
  split
  · exact ⟨Nat.zero_le _, fun result hr => by cases hr; exact hfree _ _⟩
  · split
    · exact ⟨Nat.zero_le _, fun result hr => by cases hr; exact hfree _ _⟩
    · exact evaluateDomain_bounds (.ofRequest request _ limits now) _

/-- An evaluation ends by itself and within its budget, against every resolver, also one that changes with
each question. It ends by itself: with as many levels as there are lookups allowed, or any greater number,
nothing that stands below the last level is reached. -/
theorem evaluate_ends_within_budget (limits : Limits) (now : Int) (request : Request) :
    (∀ address floor depth, limits.lookups.toNat ≤ depth →
      let s := Setting.ofRequest request address limits now
      let domain := Domain.normalized request.domain
      (checkHostAbove s floor depth domain [domain] true).run.run {} =
        (checkHost s s.limits.lookups.toNat domain [domain] true).run.run {}) ∧
    ∀ (σ : Type) (reply : Query → σ → Reply × σ) (start : σ),
      let run := (evaluate limits now request).run reply start
      ((evaluate limits now request).asked reply start).length ≤ 2 + 11 * limits.lookups.toNat ∧
      ∀ result, run.1 = .ok result →
        result.tally.lookups ≤ limits.lookups.toNat + 1 ∧
        result.tally.voids ≤ limits.voids.toNat + 1 ∧
        result.tally.voids ≤ result.tally.lookups ∧
        (result.verdict ≠ .permerror →
          ((result.tally.lookups : Int) ≤ limits.lookups ∨ result.tally.lookups = 0) ∧
          ((result.tally.voids : Int) ≤ limits.voids ∨ result.tally.voids = 0)) := by
  constructor
  · intro address floor depth hdepth
    exact checkHostAbove_run (.ofRequest request address limits now) floor hdepth _ _ _
  · intro σ reply start
    obtain ⟨hn, hresult⟩ := (evaluate_bounds limits now request).of_run reply start
    refine ⟨hn, fun result hr => ?_⟩
    obtain ⟨hl, hv, hvl, hll, hvv⟩ := hresult result hr
    exact ⟨hl, hv, hvl, fun hne => ⟨hll hne, hvv hne⟩⟩

def freshIncludes (count : Nat) (_ : Query) (asked : Nat) : Reply × Nat :=
  (.records [.text (if asked < count then Text.phrase ["v=spf1 include:", Text.decimal asked, ".example"]
    else "v=spf1 ip4:192.0.2.0/24")], asked + 1)

theorem freshIncludes_end_within_budget :
    let limits : Limits := ⟨2, 0⟩
    let request : Request := { domain := "a.example", ip := "192.0.2.1" }
    let s := Setting.ofRequest request (.v4 0xC0000201#32) limits 0
    (checkHostAbove s (fun _ _ _ => return .pass) 3 (Domain.normalized request.domain)
        [Domain.normalized request.domain] true).run.run {} =
      (checkHost s 2 (Domain.normalized request.domain)
        [Domain.normalized request.domain] true).run.run {} ∧
    ∃ result, ((evaluate limits 0 request).run (freshIncludes 2) 0).1 = .ok result ∧
      result.verdict = .pass ∧ result.tally = ⟨2, 0⟩ ∧
      ((evaluate limits 0 request).asked (freshIncludes 2) 0).length ≤ 24 ∧
      result.tally.lookups ≤ 3 ∧ result.tally.voids ≤ 1 ∧ result.tally.voids ≤ result.tally.lookups ∧
      ((result.tally.lookups : Int) ≤ 2 ∨ result.tally.lookups = 0) ∧
      ((result.tally.voids : Int) ≤ 0 ∨ result.tally.voids = 0) := by
  intro limits request s
  obtain ⟨hdepth, hrun⟩ := evaluate_ends_within_budget limits 0 request
  obtain ⟨hasked, hresult⟩ := hrun Nat (freshIncludes 2) 0
  have hkept : (((evaluate limits 0 request).run (freshIncludes 2) 0).1.toOption.map
      fun result => (result.verdict, result.tally)) = some (.pass, ⟨2, 0⟩) := by decide +kernel
  refine ⟨hdepth (.v4 0xC0000201#32) (fun _ _ _ => return .pass) 3 (by decide), ?_⟩
  cases hr : ((evaluate limits 0 request).run (freshIncludes 2) 0).1 with
  | error f => rw [hr] at hkept; cases hkept
  | ok result =>
    rw [hr] at hkept
    obtain ⟨hverdict, htally⟩ := Prod.mk.inj (Option.some.inj hkept)
    obtain ⟨hl, hv, hvl, hlimits⟩ := hresult result hr
    have hne : result.verdict ≠ .permerror := by rw [hverdict]; decide
    exact ⟨result, rfl, hverdict, htally, hasked, hl, hv, hvl, hlimits hne⟩

end SenderPolicy.Evaluation
