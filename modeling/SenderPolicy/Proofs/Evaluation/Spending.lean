import SenderPolicy.Proofs.Evaluation.Step

/-!
Spending lookups. A step that has so many lookups at its disposal never goes over the limit on them: what
ends it early is a fault, or a lookup in vain too many.
-/
namespace SenderPolicy.Evaluation
open Dns Dns.Work
variable {α β : Type} {limits : Limits} {replies : Query → Reply} {p : Progress} {n m : Nat}

/-- A stop that no number of lookups prevents. -/
inductive Stop.Unavoidable (limits : Limits) (p : Progress) : Stop → Prop
  | fault (f : Fault) : Unavoidable limits p (.fault f)
  | voids (term : Text) : limits.voids < p.tally.voids →
      Unavoidable limits p (.excess (.voids p.tally.voids limits.voids term))

/-- With so many lookups left a step counts no more of them, and it goes on with the condition unless it
cannot be helped. -/
def Spends (limits : Limits) (replies : Query → Reply) (n : Nat) (x : Step α) (p : Progress)
    (post : α → Progress → Prop) : Prop :=
  p.tally.lookups + n ≤ limits.lookups.toNat → ∀ o p', outcome replies x p = (o, p') →
    p'.tally.lookups ≤ p.tally.lookups + n ∧
      match o with
      | .ok a => post a p'
      | .error stop => stop.Unavoidable limits p'

namespace Spends
variable {post : α → Progress → Prop}

theorem mono {post' : α → Progress → Prop} {x : Step α} (h : Spends limits replies n x p post)
    (hp : ∀ a p', post a p' → post' a p') : Spends limits replies n x p post' := by
  intro hl o p' hx
  obtain ⟨hle, hend⟩ := h hl o p' hx
  cases o with
  | ok a => exact ⟨hle, hp a p' hend⟩
  | error stop => exact ⟨hle, hend⟩

theorem weaken {x : Step α} (h : Spends limits replies m x p post) (hle : m ≤ n) :
    Spends limits replies n x p post := by
  intro hl o p' hx
  obtain ⟨hle', hrest⟩ := h (by omega) o p' hx
  exact ⟨by omega, hrest⟩

theorem and_of_ok {post' : α → Progress → Prop} {x : Step α} (h : Spends limits replies n x p post)
    (hok : ∀ a p', outcome replies x p = (.ok a, p') → post' a p') :
    Spends limits replies n x p fun a p' => post a p' ∧ post' a p' := by
  intro hl o p' hx
  obtain ⟨hle, hend⟩ := h hl o p' hx
  cases o with
  | ok a => exact ⟨hle, hend, hok a p' hx⟩
  | error stop => exact ⟨hle, hend⟩

theorem pure {a : α} (h : post a p) : Spends limits replies n (pure a : Step α) p post := by
  intro _ o p' hx
  cases hx
  exact ⟨Nat.le_add_right _ _, h⟩

theorem bind {post' : β → Progress → Prop} {x : Step α} {f : α → Step β}
    (h : Spends limits replies n x p post)
    (hf : ∀ a p', post a p' → Spends limits replies m (f a) p' post') :
    Spends limits replies (n + m) (x >>= f) p post' := by
  intro hl o p' hx
  cases hfirst : outcome replies x p with
  | mk o₁ p₁ =>
    obtain ⟨hle, hend⟩ := h (by omega) o₁ p₁ hfirst
    cases o₁ with
    | error stop =>
      rw [outcome_bind_of_error hfirst] at hx
      cases hx
      exact ⟨by omega, hend⟩
    | ok a =>
      rw [outcome_bind_of_ok hfirst] at hx
      obtain ⟨hle', hrest⟩ := hf a p₁ hend (by omega) o p' hx
      exact ⟨by omega, hrest⟩

theorem before {post' : β → Progress → Prop} {x : Step α} {f : α → Step β}
    (h : Spends limits replies n x p post)
    (hf : ∀ a p', post a p' → Spends limits replies 0 (f a) p' post') :
    Spends limits replies n (x >>= f) p post' :=
  h.bind hf

theorem count_bind {f : Unit → Step α} {term : Text} (h : Spends limits replies n (f ()) p.counted post) :
    Spends limits replies (1 + n) (Step.count limits term >>= f) p post := by
  intro hl o p' hx
  have hwithin : ¬ limits.lookups < (p.tally.lookups + 1 : Nat) := by omega
  have hcount := Step.outcome_count replies p limits term
  rw [if_neg hwithin] at hcount
  rw [outcome_bind_of_ok hcount] at hx
  obtain ⟨hle, hrest⟩ := h (by rw [Progress.counted_lookups]; omega) o p' hx
  rw [Progress.counted_lookups] at hle
  exact ⟨by omega, hrest⟩

theorem step_bind {post' : β → Progress → Prop} {x : Step α} {f : α → Step β} {a : α} {p' : Progress}
    (hx : outcome replies x p = (.ok a, p')) (ht : p'.tally.lookups = p.tally.lookups)
    (hf : Spends limits replies n (f a) p' post') : Spends limits replies n (x >>= f) p post' := by
  intro hl o p'' ho
  rw [outcome_bind_of_ok hx] at ho
  obtain ⟨hle, hrest⟩ := hf (by rwa [ht]) o p'' ho
  exact ⟨by omega, hrest⟩

theorem note_bind {f : Unit → Step α} {parts : List Text}
    (h : Spends limits replies n (f ()) (p.noted (Text.phrase parts)) post) :
    Spends limits replies n (Step.note parts >>= f) p post :=
  step_bind (Step.outcome_note replies p parts) rfl h

theorem query_bind {f : Answer → Step α} {topic : Topic} {name : Text}
    (h : Spends limits replies n (f (Answer.ofReply (replies ⟨topic, name⟩))) p post) :
    Spends limits replies n (Step.query topic name >>= f) p post :=
  step_bind (Step.outcome_query replies p topic name) rfl h

theorem queryAll_bind {f : List Answer → Step α} {topic : Topic} {names : List Text}
    (h : ∀ answers, Spends limits replies n (f answers) p post) :
    Spends limits replies n (Step.queryAll topic names >>= f) p post :=
  step_bind (Step.outcome_queryAll replies p topic names) rfl (h _)

theorem ofPlan_bind {x : Plan β} {f : β → Step α} (h : Spends limits replies n (f (x.value replies)) p post) :
    Spends limits replies n (Step.ofPlan x >>= f) p post :=
  step_bind (outcome_ofPlan replies x p) rfl h

theorem ofExcept_bind {x : Except Fault β} {f : β → Step α}
    (h : ∀ b, x = .ok b → Spends limits replies n (f b) p post) :
    Spends limits replies n (Step.ofExcept x >>= f) p post := by
  cases x with
  | error e =>
    intro _ o p' ho
    rw [outcome_bind_of_error (Step.outcome_ofExcept replies p (.error e))] at ho
    cases ho
    exact ⟨Nat.le_add_right _ _, .fault e⟩
  | ok b => exact step_bind (Step.outcome_ofExcept replies p (.ok b)) rfl (h b rfl)

theorem countVoid_bind {f : Unit → Step α} {term : Text} (h : Spends limits replies n (f ()) p.voided post) :
    Spends limits replies n (Step.countVoid limits term >>= f) p post := by
  have hcount := Step.outcome_countVoid replies p limits term
  by_cases hover : limits.voids < (p.tally.voids + 1 : Nat)
  · rw [if_pos hover] at hcount
    intro _ o p' ho
    rw [outcome_bind_of_error hcount] at ho
    cases ho
    exact ⟨Nat.le_add_right _ _, .voids term hover⟩
  · rw [if_neg hover] at hcount
    exact step_bind hcount rfl h

end Spends
end SenderPolicy.Evaluation
