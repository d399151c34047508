import SenderPolicy.Proofs.Dns.Rearrangement
import SenderPolicy.Proofs.Evaluation.Depth
import SenderPolicy.Proofs.Evaluation.Meaning

/-!
Two evaluations side by side. The second has counted more lookups by a lead, and may count more by as much;
its replies are rearranged; it may go on where the first ends in a way that is forgiven. Else the two come
to the same, step by step.
-/
namespace SenderPolicy.Evaluation
open Dns Dns.Work
variable {α β γ δ : Type}

def Stop.fault? : Stop → Option Fault
  | .fault f => some f
  | _ => none

structure Comparison where
  first : Setting
  second : Setting
  replies : Query → Reply
  replies' : Query → Reply
  /-- How many lookups the second has counted more. -/
  lead : Nat := 0
  /-- The stops of the first that the second need not end with. -/
  forgives : Stop → Prop := fun _ => False
  /-- Are explanations compared? -/
  explained : Bool := false
  address : second.address = first.address := by rfl
  sender : second.sender = first.sender := by rfl
  helo : second.helo = first.helo := by rfl
  now : second.now = first.now := by rfl
  lookups : second.limits.lookups = first.limits.lookups + lead
  voids : second.limits.voids = first.limits.voids
  rearranged : Rearranged replies replies'

namespace Comparison
variable (C : Comparison)

/-- The second evaluation is as far as the first, but for its lead. -/
structure Near (p q : Progress) : Prop where
  lookups : q.tally.lookups = p.tally.lookups + C.lead
  voids : q.tally.voids = p.tally.voids
  explanation : C.explained = true → q.explanation = p.explanation

/-- The two end together: with values that are related, or with the same fault, if any. -/
def EndTogether (R : α → β → Prop) : Except Stop α × Progress → Except Stop β × Progress → Prop
  | (.ok a, p), (.ok b, q) => R a b ∧ C.Near p q
  | (.error e, p), (.error e', q) => e'.fault? = e.fault? ∧ C.Near p q
  | _, _ => False

/-- The first step ends in a forgiven way, or the two end together. -/
def Parallel (R : α → β → Prop) (x : Step α) (y : Step β) : Prop :=
  ∀ p q, C.Near p q →
    (∃ e p', outcome C.replies x p = (.error e, p') ∧ C.forgives e) ∨
      C.EndTogether R (outcome C.replies x p) (outcome C.replies' y q)

abbrev Abreast (x y : Step Unit) : Prop := C.Parallel (fun _ _ => True) x y

variable {C}

namespace Parallel
variable {R : α → β → Prop} {S : γ → δ → Prop} {x : Step α} {y : Step β} {f : α → Step γ} {g : β → Step δ}

theorem pure {a : α} {b : β} (h : R a b) : C.Parallel R (pure a) (pure b) :=
  fun _ _ hn => .inr ⟨h, hn⟩

theorem bind (h : C.Parallel R x y) (hf : ∀ a b, R a b → C.Parallel S (f a) (g b)) :
    C.Parallel S (x >>= f) (y >>= g) := by
  intro p q hn
  obtain ⟨e, p', hx, he⟩ | hend := h p q hn
  · exact .inl ⟨e, p', outcome_bind_of_error hx, he⟩
  · cases hx : outcome C.replies x p with
    | mk o p' =>
      cases hy : outcome C.replies' y q with
      | mk o' q' =>
        rw [hx, hy] at hend
        cases o with
        | ok a =>
          cases o' with
          | ok b =>
            rw [outcome_bind_of_ok hx, outcome_bind_of_ok hy]
            exact hf a b hend.1 p' q' hend.2
          | error e' => exact hend.elim
        | error e =>
          cases o' with
          | ok b => exact hend.elim
          | error e' =>
            rw [outcome_bind_of_error hx, outcome_bind_of_error hy]
            exact .inr hend

theorem behind {x y : Step Unit} {f : Unit → Step γ} {g : Unit → Step δ} (h : C.Abreast x y)
    (hf : C.Parallel S (f ()) (g ())) : C.Parallel S (x >>= f) (y >>= g) :=
  h.bind fun _ _ _ => hf

theorem forgiven {e : Stop} (h : C.forgives e) : C.Parallel R (throw e) y :=
  fun p _ _ => .inl ⟨e, p, rfl, h⟩

theorem throw {e e' : Stop} (h : e'.fault? = e.fault?) : C.Parallel R (throw e) (throw e') :=
  fun _ _ hn => .inr ⟨h, hn⟩

theorem ofExcept (x : Except Fault α) : C.Parallel Eq (Step.ofExcept x) (Step.ofExcept x) := by
  cases x with
  | ok a => exact pure rfl
  | error f => exact throw rfl

theorem note (line line' : List Text) : C.Abreast (Step.note line) (Step.note line') :=
  fun _ _ hn => .inr ⟨trivial, ⟨hn.lookups, hn.voids, hn.explanation⟩⟩

theorem count (label label' : Text) :
    C.Abreast (Step.count C.first.limits label) (Step.count C.second.limits label') := by
  intro p q hn
  have hl := hn.lookups
  have hlimit := C.lookups
  have hcounted : C.Near p.counted q.counted :=
    ⟨by simp only [Progress.counted_lookups]; omega, hn.voids, hn.explanation⟩
  have hiff : C.second.limits.lookups < (q.tally.lookups + 1 : Nat) ↔
      C.first.limits.lookups < (p.tally.lookups + 1 : Nat) := by omega
  rw [Step.outcome_count, Step.outcome_count]
  by_cases hover : C.first.limits.lookups < (p.tally.lookups + 1 : Nat)
  · rw [if_pos hover, if_pos (hiff.mpr hover)]
    exact .inr ⟨rfl, hcounted⟩
  · rw [if_neg hover, if_neg (mt hiff.mp hover)]
    exact .inr ⟨trivial, hcounted⟩

theorem countVoid (label label' : Text) :
    C.Abreast (Step.countVoid C.first.limits label) (Step.countVoid C.second.limits label') := by
  intro p q hn
  have hvoided : C.Near p.voided q.voided :=
    ⟨hn.lookups, by simp only [Progress.voided_voids, hn.voids], hn.explanation⟩
  rw [Step.outcome_countVoid, Step.outcome_countVoid, C.voids, hn.voids]
  by_cases hover : C.first.limits.voids < (p.tally.voids + 1 : Nat)
  · rw [if_pos hover, if_pos hover]
    exact .inr ⟨rfl, hvoided⟩
  · rw [if_neg hover, if_neg hover]
    exact .inr ⟨trivial, hvoided⟩

end Parallel

/-! Steps that only note -/

def Steady (replies : Query → Reply) (x : Step α) (a : α) : Prop :=
  ∀ p : Progress, ∃ trail, outcome replies x p = (.ok a, { p with trail })

theorem parallel_of_steady {R : α → β → Prop} {x : Step α} {y : Step β} {a : α} {b : β}
    (hx : Steady C.replies x a) (hy : Steady C.replies' y b) (h : R a b) : C.Parallel R x y := by
  intro p q hn
  obtain ⟨trail, hp⟩ := hx p
  obtain ⟨trail', hq⟩ := hy q
  rw [hp, hq]
  exact .inr ⟨h, ⟨hn.lookups, hn.voids, hn.explanation⟩⟩

namespace Steady
variable {replies : Query → Reply} {s : Setting} {label : Text} {t : Term}

theorem pure (a : α) : Steady replies (pure a) a := fun p => ⟨p.trail, rfl⟩

theorem bind {x : Step α} {f : α → Step β} {a : α} {b : β} (h : Steady replies x a)
    (hf : Steady replies (f a) b) : Steady replies (x >>= f) b := by
  intro p
  obtain ⟨trail, hx⟩ := h p
  rw [outcome_bind_of_ok hx]
  exact hf { p with trail }

theorem note (line : List Text) : Steady replies (Step.note line) () :=
  fun p => ⟨_, Step.outcome_note replies p line⟩

theorem ofPlan (x : Plan α) : Steady replies (Step.ofPlan x) (x.value replies) :=
  fun p => ⟨p.trail, outcome_ofPlan replies x p⟩

theorem query (topic : Topic) (name : Text) :
    Steady replies (Step.query topic name) (answerOf replies topic name) :=
  fun p => ⟨p.trail, Step.outcome_query replies p topic name⟩

theorem queryAll (topic : Topic) (names : List Text) :
    Steady replies (Step.queryAll topic names) (names.map (answerOf replies topic)) :=
  fun p => ⟨p.trail, Step.outcome_queryAll replies p topic names⟩

theorem noteAll (domain : Text) (problems : List Text) : Steady replies (noteAll domain problems) () := by
  induction problems with
  | nil => exact .pure ()
  | cons problem rest ih => exact (note _).bind ih

theorem matchHosts (failed : Bool) (answers : List (Text × Answer)) :
    Steady replies (matchHosts s label t failed answers) (hostsOutcome s t failed answers) := by
  induction answers generalizing failed with
  | nil => exact .pure _
  | cons a rest ih =>
    obtain ⟨host, answer⟩ := a
    unfold Evaluation.matchHosts hostsOutcome
    cases answer.error with
    | some reason => exact (note _).bind (ih true)
    | none =>
      dsimp only
      split
      · exact .pure _
      · exact ih failed

theorem confirmNames (answers : List (Text × Answer)) :
    Steady replies (confirmNames s label answers) (namesOutcome s answers) := by
  induction answers with
  | nil => exact .pure _
  | cons a rest ih =>
    obtain ⟨name, answer⟩ := a
    unfold Evaluation.confirmNames namesOutcome
    split
    · exact (note _).bind (.pure _)
    · exact (note _).bind ih

end Steady
end Comparison
end SenderPolicy.Evaluation
