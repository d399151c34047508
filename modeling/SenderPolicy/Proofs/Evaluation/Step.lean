import SenderPolicy.Evaluation
import SenderPolicy.Proofs.Dns.Outcome
import SenderPolicy.Proofs.Dns.Paths

/-!
Steps of an evaluation, run. For each elementary step the plan that it comes to is told; from there on a
step is reasoned about either on all paths, whatever the resolver replies, or at its one outcome, where
every question has a fixed reply.
-/
namespace SenderPolicy.Evaluation
open Dns Dns.Work

namespace Progress

def counted (p : Progress) : Progress := { p with tally := { p.tally with lookups := p.tally.lookups + 1 } }

def voided (p : Progress) : Progress := { p with tally := { p.tally with voids := p.tally.voids + 1 } }

def noted (line : Text) (p : Progress) : Progress := { p with trail := p.trail ++ [line] }

@[simp] theorem counted_lookups (p : Progress) : p.counted.tally.lookups = p.tally.lookups + 1 := rfl
@[simp] theorem counted_voids (p : Progress) : p.counted.tally.voids = p.tally.voids := rfl
@[simp] theorem voided_lookups (p : Progress) : p.voided.tally.lookups = p.tally.lookups := rfl
@[simp] theorem voided_voids (p : Progress) : p.voided.tally.voids = p.tally.voids + 1 := rfl

end Progress

namespace Step
variable {α β : Type}

theorem ofPlan_eq (x : Plan α) : ofPlan x = Work.ofPlan x := rfl

@[simp] theorem run_count (limits : Limits) (term : Text) (p : Progress) :
    (count limits term).run.run p =
      pure (if limits.lookups < (p.tally.lookups + 1 : Nat) then
          .error (.excess (.lookups (p.tally.lookups + 1) limits.lookups term))
        else .ok (), p.counted) := by
  simp only [count, Tally.count, run_bind, run_get, run_modify, pure_bind]
  by_cases h : limits.lookups < (p.tally.lookups + 1 : Nat)
  · simp only [if_pos h, run_throw, Progress.counted]
  · simp only [if_neg h, run_pure, Progress.counted]

@[simp] theorem run_countVoid (limits : Limits) (term : Text) (p : Progress) :
    (countVoid limits term).run.run p =
      pure (if limits.voids < (p.tally.voids + 1 : Nat) then
          .error (.excess (.voids (p.tally.voids + 1) limits.voids term))
        else .ok (), p.voided) := by
  simp only [countVoid, Tally.countVoid, run_bind, run_get, run_modify, pure_bind]
  by_cases h : limits.voids < (p.tally.voids + 1 : Nat)
  · simp only [if_pos h, run_throw, Progress.voided]
  · simp only [if_neg h, run_pure, Progress.voided]

@[simp] theorem run_note (parts : List Text) (p : Progress) :
    (note parts).run.run p = pure (.ok (), p.noted (Text.phrase parts)) := rfl

/-! On all paths -/

/-- On every path from the progress the condition holds of the number of questions, the outcome and the
progress that is reached. -/
def Ensures (x : Step α) (p : Progress) (post : Nat → Except Stop α → Progress → Prop) : Prop :=
  (x.run.run p).Ensures fun n r => post n r.1 r.2

theorem Ensures.mono {x : Step α} {p : Progress} {post post' : Nat → Except Stop α → Progress → Prop}
    (h : x.Ensures p post) (hp : ∀ n o p', post n o p' → post' n o p') : x.Ensures p post' :=
  Plan.Ensures.mono h fun n r => hp n r.1 r.2

theorem Ensures.of_outcome {x : Step α} {p : Progress} {post : Nat → Except Stop α → Progress → Prop}
    (h : x.Ensures p post) (replies : Query → Reply) :
    post (asks replies x p).length (outcome replies x p).1 (outcome replies x p).2 :=
  Plan.Ensures.of_value h replies

theorem ensures_bind {x : Step α} {f : α → Step β} {p : Progress}
    {post : Nat → Except Stop β → Progress → Prop}
    (h : x.Ensures p fun n o p' =>
      match o with
      | .ok a => (f a).Ensures p' fun m => post (n + m)
      | .error e => post n (.error e) p') : (x >>= f).Ensures p post := by
  unfold Ensures
  rw [run_bind]
  refine Plan.ensures_bind (Plan.Ensures.mono h ?_)
  rintro n ⟨o, p'⟩ hn
  cases o with
  | ok a => exact hn
  | error e => exact hn

theorem ensures_ofPlan {x : Plan α} {p : Progress} {post : Nat → Except Stop α → Progress → Prop}
    (h : x.Ensures fun n a => post n (.ok a) p) : (ofPlan x).Ensures p post := by
  unfold Ensures
  rw [ofPlan_eq, Work.run_ofPlan]
  exact Plan.ensures_bind (h.mono fun n a hn => hn)

theorem ensures_count {limits : Limits} {term : Text} {p : Progress}
    {post : Nat → Except Stop Unit → Progress → Prop}
    (beyond : limits.lookups < (p.tally.lookups + 1 : Nat) →
      post 0 (.error (.excess (.lookups (p.tally.lookups + 1) limits.lookups term))) p.counted)
    (within : (p.tally.lookups + 1 : Nat) ≤ limits.lookups → post 0 (.ok ()) p.counted) :
    (count limits term).Ensures p post := by
  unfold Ensures
  rw [run_count]
  split
  · rename_i h
    exact beyond h
  · rename_i h
    exact within (Int.not_lt.mp h)

theorem ensures_countVoid {limits : Limits} {term : Text} {p : Progress}
    {post : Nat → Except Stop Unit → Progress → Prop}
    (beyond : limits.voids < (p.tally.voids + 1 : Nat) →
      post 0 (.error (.excess (.voids (p.tally.voids + 1) limits.voids term))) p.voided)
    (within : (p.tally.voids + 1 : Nat) ≤ limits.voids → post 0 (.ok ()) p.voided) :
    (countVoid limits term).Ensures p post := by
  unfold Ensures
  rw [run_countVoid]
  split
  · rename_i h
    exact beyond h
  · rename_i h
    exact within (Int.not_lt.mp h)

/-! At the one outcome -/

variable (replies : Query → Reply) (p : Progress)

@[simp] theorem outcome_query (topic : Topic) (name : Text) :
    outcome replies (query topic name) p = (.ok (Answer.ofReply (replies ⟨topic, name⟩)), p) :=
  outcome_ofPlan replies _ p

theorem value_queryAll (topic : Topic) (names : List Text) :
    (Plan.queryAll topic names).value replies =
      names.map fun name => Answer.ofReply (replies ⟨topic, name⟩) := by
  induction names with
  | nil => rfl
  | cons name rest ih =>
    simp only [Plan.queryAll, Plan.value_bind, ih, List.map_cons]
    rfl

theorem queries_queryAll (topic : Topic) (names : List Text) :
    (Plan.queryAll topic names).queries replies = names.map (⟨topic, ·⟩) := by
  induction names with
  | nil => rfl
  | cons name rest ih =>
    rw [Plan.queryAll, Plan.queries_bind, Plan.queries_bind, ih]
    exact congrArg (_ :: ·) (List.append_nil _)

@[simp] theorem outcome_queryAll (topic : Topic) (names : List Text) :
    outcome replies (queryAll topic names) p =
      (.ok (names.map fun name => Answer.ofReply (replies ⟨topic, name⟩)), p) := by
  rw [← value_queryAll]
  exact outcome_ofPlan replies _ p

@[simp] theorem outcome_note (parts : List Text) :
    outcome replies (note parts) p = (.ok (), p.noted (Text.phrase parts)) := rfl

theorem outcome_count (limits : Limits) (term : Text) :
    outcome replies (count limits term) p =
      (if limits.lookups < (p.tally.lookups + 1 : Nat) then
          .error (.excess (.lookups (p.tally.lookups + 1) limits.lookups term))
        else .ok (), p.counted) := by
  rw [outcome, run_count]
  rfl

theorem outcome_countVoid (limits : Limits) (term : Text) :
    outcome replies (countVoid limits term) p =
      (if limits.voids < (p.tally.voids + 1 : Nat) then
          .error (.excess (.voids (p.tally.voids + 1) limits.voids term))
        else .ok (), p.voided) := by
  rw [outcome, run_countVoid]
  rfl

@[simp] theorem outcome_ofExcept {α : Type} (x : Except Fault α) :
    outcome replies (ofExcept x) p = (x.mapError .fault, p) := by
  cases x <;> rfl

variable {replies p} in
theorem ofExcept_eq_ok {x : Except Fault α} {a : α} {p' : Progress}
    (h : outcome replies (ofExcept x) p = (.ok a, p')) : x = .ok a ∧ p' = p := by
  cases x with
  | ok b =>
    cases h
    exact ⟨rfl, rfl⟩
  | error f => cases h

end Step

/-! Names without macros -/

variable {s : Setting} {t : Term} {value : Text}

theorem expandName_of_plain (h : value.contains '%' = false) (domain : Text) :
    s.expandName value domain = .ok (Domain.normalized value) := by
  simp only [Setting.expandName, Setting.expand, h]
  rfl

theorem target_of_value (hv : t.value = some value) (hne : value ≠ []) (h : value.contains '%' = false)
    (domain : Text) : s.target t domain = .ok (Domain.normalized value) := by
  cases value with
  | nil => exact absurd rfl hne
  | cons c rest => simp only [Setting.target, hv, expandName_of_plain h]

end SenderPolicy.Evaluation
