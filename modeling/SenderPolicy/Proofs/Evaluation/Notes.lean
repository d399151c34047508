import Mathlib.Data.List.Forall2
import SenderPolicy.Proofs.Evaluation.Comparison

/-!
What is noted steers nothing. Two evaluations whose terms look for the same ask the same questions and count the same,
whatever stands in their trails and in the texts that they count under; they differ in what a match means. Here the
questions are compared, too, and for all replies at once.
-/
namespace SenderPolicy.Evaluation
open Dns Dns.Work
variable {α β γ δ : Type}

def EndAlike (R : α → β → Prop) : Except Stop α × Progress → Except Stop β × Progress → Prop
  | (.ok a, p), (.ok b, q) => R a b ∧ q.tally = p.tally
  | (.error e, p), (.error e', q) => e'.fault? = e.fault? ∧ q.tally = p.tally
  | _, _ => False

namespace Step

/-- From progress with one tally, the two steps ask the same questions and end alike. -/
def Alike (R : α → β → Prop) (x : Step α) (y : Step β) : Prop :=
  ∀ p q : Progress, q.tally = p.tally → (x.run.run p).Alike (EndAlike R) (y.run.run q)

namespace Alike
variable {R : α → β → Prop} {S : γ → δ → Prop} {x : Step α} {y : Step β} {f : α → Step γ} {g : β → Step δ}

theorem pure {a : α} {b : β} (h : R a b) : Alike R (pure a) (pure b) :=
  fun _ _ htally => .done ⟨h, htally⟩

theorem throw {e e' : Stop} (h : e'.fault? = e.fault?) : Alike R (throw e) (throw e') :=
  fun _ _ htally => .done ⟨h, htally⟩

theorem bind (h : Alike R x y) (hf : ∀ a b, R a b → Alike S (f a) (g b)) : Alike S (x >>= f) (y >>= g) := by
  intro p q htally
  rw [run_bind, run_bind]
  refine (h p q htally).bind ?_
  rintro ⟨o, p'⟩ ⟨o', q'⟩ hend
  cases o with
  | ok a =>
    cases o' with
    | ok b => exact hf a b hend.1 p' q' hend.2
    | error e' => exact hend.elim
  | error e =>
    cases o' with
    | ok b => exact hend.elim
    | error e' => exact .done hend

theorem behind {x y : Step Unit} {f : Unit → Step γ} {g : Unit → Step δ} (h : Alike (fun _ _ => True) x y)
    (hf : Alike S (f ()) (g ())) : Alike S (x >>= f) (y >>= g) :=
  h.bind fun _ _ _ => hf

theorem ofPlan (x : Plan α) : Alike Eq (Step.ofPlan x) (Step.ofPlan x) := by
  intro p q htally
  rw [Step.ofPlan_eq, run_ofPlan, run_ofPlan]
  exact (Plan.Alike.refl (R := Eq) (fun _ => rfl) x).bind fun a b hab => .done ⟨hab, htally⟩

theorem ofExcept (x : Except Fault α) : Alike Eq (Step.ofExcept x) (Step.ofExcept x) := by
  cases x with
  | ok a => exact pure rfl
  | error f => exact throw rfl

theorem note (line line' : List Text) : Alike (fun _ _ => True) (Step.note line) (Step.note line') :=
  fun _ _ htally => .done ⟨trivial, htally⟩

theorem count (limits : Limits) (label label' : Text) :
    Alike (fun _ _ => True) (Step.count limits label) (Step.count limits label') := by
  intro p q htally
  have hcounted : q.counted.tally = p.counted.tally := by simp only [Progress.counted, htally]
  rw [run_count, run_count, htally]
  split
  · exact .done ⟨rfl, hcounted⟩
  · exact .done ⟨trivial, hcounted⟩

theorem countVoid (limits : Limits) (label label' : Text) :
    Alike (fun _ _ => True) (Step.countVoid limits label) (Step.countVoid limits label') := by
  intro p q htally
  have hvoided : q.voided.tally = p.voided.tally := by simp only [Progress.voided, htally]
  rw [run_countVoid, run_countVoid, htally]
  split
  · exact .done ⟨rfl, hvoided⟩
  · exact .done ⟨trivial, hvoided⟩

/-! Where every question has one fixed reply -/

variable {p q : Progress}

theorem outcome (h : Alike R x y) (htally : q.tally = p.tally) (replies : Query → Reply) :
    EndAlike R (Work.outcome replies x p) (Work.outcome replies y q) :=
  (h p q htally).value replies

theorem asks_eq (h : Alike R x y) (htally : q.tally = p.tally) (replies : Query → Reply) :
    asks replies y q = asks replies x p :=
  (h p q htally).queries_eq replies

theorem outcome_of_agree {replies replies' : Query → Reply} (h : Alike R x y) (htally : q.tally = p.tally)
    (hagree : ∀ q ∈ asks replies x p, replies' q = replies q) :
    EndAlike R (Work.outcome replies x p) (Work.outcome replies' y q) ∧ asks replies' y q = asks replies x p := by
  have hasks := h.asks_eq htally replies
  rw [← hasks] at hagree
  rw [outcome_congr hagree, asks_congr hagree]
  exact ⟨h.outcome htally replies, hasks⟩

end Alike
end Step

namespace EndAlike
variable {R : α → β → Prop} {x : Except Stop α × Progress} {y : Except Stop β × Progress}

theorem tally_eq (h : EndAlike R x y) : y.2.tally = x.2.tally := by
  obtain ⟨e, p⟩ := x
  obtain ⟨e', q⟩ := y
  cases e <;> cases e'
  · exact h.2
  · exact h.elim
  · exact h.elim
  · exact h.2

theorem of_ok {a : α} (h : EndAlike R x y) (hx : x.1 = .ok a) : ∃ b, y.1 = .ok b ∧ R a b := by
  obtain ⟨e, p⟩ := x
  obtain ⟨e', q⟩ := y
  subst hx
  cases e' with
  | ok b => exact ⟨b, rfl, h.1⟩
  | error stop => exact h.elim

theorem of_error {stop : Stop} (h : EndAlike R x y) (hx : x.1 = .error stop) :
    ∃ stop', y.1 = .error stop' ∧ stop'.fault? = stop.fault? := by
  obtain ⟨e, p⟩ := x
  obtain ⟨e', q⟩ := y
  subst hx
  cases e' with
  | ok b => exact h.elim
  | error stop' => exact ⟨stop', rfl, h.1⟩

end EndAlike

structure SameMechanism (t t' : Term) : Prop where
  kind : t'.kind = t.kind
  value : t'.value = t.value
  cidr : t'.cidr = t.cidr

def FollowsAlike (follow : Follow) : Prop :=
  ∀ target path explains, (follow target path explains).Alike Eq (follow target path explains)

variable {s : Setting} {t t' : Term} {label label' domain target : Text} {path : List Text} {follow : Follow}

namespace SameMechanism

theorem refl (t : Term) : SameMechanism t t := ⟨rfl, rfl, rfl⟩

theorem matchesAny_eq (h : SameMechanism t t') (addresses : List Text) :
    s.matchesAny addresses t' = s.matchesAny addresses t := by
  simp only [Setting.matchesAny, Setting.matchLength, Term.prefixLengths, h.cidr]

theorem target_eq (h : SameMechanism t t') (domain : Text) : s.target t' domain = s.target t domain := by
  simp only [Setting.target, h.value]

end SameMechanism

/-! Mechanisms that follow no record -/

theorem withRecords_alike {onRecords onRecords' : List Datum → Step Outcome} (answer : Answer)
    (h : (onRecords answer.records).Alike Eq (onRecords' answer.records)) :
    (withRecords s label answer onRecords).Alike Eq (withRecords s label' answer onRecords') := by
  unfold withRecords
  split
  · exact .behind (.note _ _) (.pure rfl)
  · split
    · exact .behind (.note _ _) (.behind (.countVoid _ _ _) (.pure rfl))
    · exact h

theorem matchAddresses_alike (h : SameMechanism t t') :
    (matchAddresses s label target t).Alike Eq (matchAddresses s label' target t') := by
  refine (Step.Alike.ofPlan _).bind fun answer _ heq => ?_
  subst heq
  refine withRecords_alike answer (.pure ?_)
  rw [h.matchesAny_eq]

theorem matchHosts_alike (h : SameMechanism t t') (failed : Bool) (answers : List (Text × Answer)) :
    (matchHosts s label t failed answers).Alike Eq (matchHosts s label' t' failed answers) := by
  induction answers generalizing failed with
  | nil => exact .pure rfl
  | cons a rest ih =>
    obtain ⟨host, answer⟩ := a
    unfold matchHosts
    split
    · exact .behind (.note _ _) (ih true)
    · rw [h.matchesAny_eq]
      split
      · exact .pure rfl
      · exact ih failed

theorem matchExchanges_alike (h : SameMechanism t t') :
    (matchExchanges s label target t).Alike Eq (matchExchanges s label' target t') := by
  refine (Step.Alike.ofPlan _).bind fun answer _ heq => ?_
  subst heq
  refine withRecords_alike answer ?_
  split
  · exact .behind (.note _ _) (.pure rfl)
  · refine (Step.Alike.ofPlan _).bind fun answers _ heq => ?_
    subst heq
    exact matchHosts_alike h false _

theorem confirmNames_alike (answers : List (Text × Answer)) :
    (confirmNames s label answers).Alike Eq (confirmNames s label' answers) := by
  induction answers with
  | nil => exact .pure rfl
  | cons a rest ih =>
    obtain ⟨name, answer⟩ := a
    unfold confirmNames
    split
    · exact .behind (.note _ _) (.pure rfl)
    · exact .behind (.note _ _) ih

theorem matchNames_alike : (matchNames s label target).Alike Eq (matchNames s label' target) := by
  refine (Step.Alike.ofPlan _).bind fun answer _ heq => ?_
  subst heq
  dsimp only
  split
  · exact .behind (.note _ _) (.pure rfl)
  · refine withRecords_alike answer ((Step.Alike.ofPlan _).bind fun answers _ heq => ?_)
    subst heq
    exact confirmNames_alike _

theorem matchExistence_alike : (matchExistence s label target).Alike Eq (matchExistence s label' target) := by
  refine (Step.Alike.ofPlan _).bind fun answer _ heq => ?_
  subst heq
  exact withRecords_alike answer (.pure rfl)

/-! Following records -/

theorem guardLoop_alike (stop : List Text → Stop) :
    (guardLoop s stop path target).Alike (fun _ _ => True) (guardLoop s stop path target) := by
  unfold guardLoop
  split
  · exact .throw rfl
  · exact .pure trivial

theorem matchInclude_alike (hf : FollowsAlike follow) :
    (matchInclude s follow label target path).Alike Eq (matchInclude s follow label' target path) := by
  refine .behind (guardLoop_alike _) ((hf _ _ _).bind fun verdict _ heq => ?_)
  subst heq
  refine .behind (.note _ _) ?_
  cases verdict with
  | none => exact .behind (.countVoid _ _ _) (.pure rfl)
  | _ => exact .pure rfl

theorem matchTerm_alike (hf : FollowsAlike follow) (h : SameMechanism t t') :
    (matchTerm s follow domain path t).Alike Eq (matchTerm s follow domain path t') := by
  have counted {f g : Text → Step Outcome} (hfg : ∀ target, (f target).Alike Eq (g target)) :
      Step.Alike Eq
        (do
          Step.count s.limits (Text.phrase [domain, ": ", t.compose])
          f (← Step.ofExcept (s.target t domain)))
        (do
          Step.count s.limits (Text.phrase [domain, ": ", t'.compose])
          g (← Step.ofExcept (s.target t' domain))) := by
    rw [h.target_eq]
    exact .behind (.count _ _ _) ((Step.Alike.ofExcept _).bind fun target _ heq => heq ▸ hfg target)
  have hk' := h.kind
  cases hk : t.kind with
  | all => simp only [matchTerm, hk', hk]; exact .pure rfl
  | ip4 | ip6 =>
    simp only [matchTerm, hk', hk, h.value]
    exact .pure rfl
  | a => simp only [matchTerm, hk', hk]; exact counted fun target => matchAddresses_alike h
  | mx => simp only [matchTerm, hk', hk]; exact counted fun target => matchExchanges_alike h
  | ptr => simp only [matchTerm, hk', hk]; exact counted fun target => matchNames_alike
  | inclusion => simp only [matchTerm, hk', hk]; exact counted fun target => matchInclude_alike hf
  | existence => simp only [matchTerm, hk', hk]; exact counted fun target => matchExistence_alike
  | redirect | exp | unknown | unknownModifier =>
    simp only [matchTerm, hk', hk]
    exact counted fun target => .pure rfl

def FoundAlike (R : Term → Term → Prop) : Option (Term × Outcome) → Option (Term × Outcome) → Prop
  | none, none => True
  | some (t, o), some (t', o') => R t t' ∧ o = o'
  | _, _ => False

theorem firstDecisive_alike {R : Term → Term → Prop} {attempt attempt' : Term → Step Outcome} {ts ts' : List Term}
    (hattempt : ∀ t t', R t t' → (attempt t).Alike Eq (attempt' t')) (h : List.Forall₂ R ts ts') :
    (firstDecisive attempt ts).Alike (FoundAlike R) (firstDecisive attempt' ts') := by
  induction h with
  | nil => exact .pure trivial
  | cons hterm _ ih =>
    refine (hattempt _ _ hterm).bind fun o _ heq => ?_
    subst heq
    split
    · exact ih
    · exact .pure ⟨hterm, rfl⟩

theorem FoundAlike.eq {found found' : Option (Term × Outcome)} (h : FoundAlike Eq found found') : found = found' := by
  cases found with
  | none =>
    cases found' with
    | none => rfl
    | some f' => exact h.elim
  | some f =>
    cases found' with
    | none => exact h.elim
    | some f' => exact congrArg some (Prod.ext h.1 h.2)

theorem explain_alike (r : Record) :
    (explain s r domain).Alike (fun _ _ => True) (explain s r domain) := by
  unfold explain
  split
  · exact .pure trivial
  · exact .pure trivial
  · refine (Step.Alike.ofExcept _).bind fun target _ heq => ?_
    subst heq
    refine (Step.Alike.ofPlan _).bind fun answer _ heq => ?_
    subst heq
    split
    · exact (Step.Alike.ofExcept _).bind fun explanation _ _ p q htally => .done ⟨trivial, htally⟩
    · exact .note _ _

theorem redirect_alike (hf : FollowsAlike follow) (value : Text) (explains : Bool) :
    (redirect s follow value domain path explains).Alike Eq (redirect s follow value domain path explains) := by
  refine .behind (.count _ _ _) ((Step.Alike.ofExcept _).bind fun target _ heq => ?_)
  subst heq
  refine .behind (guardLoop_alike _) (.behind (.note _ _) ((hf _ _ _).bind fun verdict _ heq => ?_))
  subst heq
  split
  · exact .behind (.note _ _) (.pure rfl)
  · exact .pure rfl

theorem evaluateRecord_alike (hf : FollowsAlike follow) (r : Record) (explains : Bool) :
    (evaluateRecord s follow r domain path explains).Alike Eq
      (evaluateRecord s follow r domain path explains) := by
  have hsame (t t' : Term) (h : t = t') :
      (matchTerm s follow domain path t).Alike Eq (matchTerm s follow domain path t') :=
    h ▸ matchTerm_alike hf (.refl t)
  refine (firstDecisive_alike hsame (List.forall₂_refl _)).bind fun found _ hfound => ?_
  obtain rfl := hfound.eq
  split
  · exact .pure rfl
  · exact .pure rfl
  · refine .behind (.note _ _) ?_
    split
    · exact .behind (explain_alike r) (.pure rfl)
    · exact .pure rfl
  · split
    · exact redirect_alike hf _ _
    · exact .behind (.note _ _) (.pure rfl)

theorem noteAll_alike (domain : Text) (problems : List Text) :
    (noteAll domain problems).Alike (fun _ _ => True) (noteAll domain problems) := by
  induction problems with
  | nil => exact .pure trivial
  | cons problem rest ih => exact .behind (.note _ _) ih

theorem visit_alike (hf : FollowsAlike follow) : FollowsAlike (visit s follow) := by
  intro domain path explains
  refine (Step.Alike.ofPlan _).bind fun fetched _ heq => ?_
  subst heq
  cases fetched with
  | error u => exact .behind (.note _ _) (.pure rfl)
  | ok publication =>
    refine .behind (.note _ _) ((Step.Alike.ofExcept _).bind fun assessment _ heq => ?_)
    subst heq
    split
    · exact evaluateRecord_alike hf _ _
    · exact .behind (noteAll_alike _ _) (.pure rfl)

def below (s : Setting) : Nat → Follow
  | 0 => fun _ _ _ => return .permerror
  | left + 1 => checkHost s left

theorem checkHost_eq_visit (s : Setting) (left : Nat) : checkHost s left = visit s (below s left) := by
  cases left <;> rfl

theorem below_succ (s : Setting) (left : Nat) : below s (left + 1) = visit s (below s left) :=
  checkHost_eq_visit s left

theorem below_alike (s : Setting) (left : Nat) : FollowsAlike (below s left) := by
  induction left with
  | zero => exact fun _ _ _ => .pure rfl
  | succ left ih =>
    rw [below_succ]
    exact visit_alike ih

end SenderPolicy.Evaluation
