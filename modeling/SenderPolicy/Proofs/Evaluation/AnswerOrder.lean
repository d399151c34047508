import Mathlib.Data.List.Forall2
import SenderPolicy.Proofs.Evaluation.Ending

/-!
The order of answers does not count, and neither does the way in which texts are cut into strings: with its
replies rearranged a resolver leads to the same result, at the same cost.
-/
namespace SenderPolicy.Dns

/-- Entry by entry the second zone answers the same questions with the same replies, rearranged. -/
def Zone.Rearranges (z z' : Zone) : Prop :=
  List.Forall₂ (fun e e' => e.1 = e'.1 ∧ e.2.Rearranges e'.2 ∧
    ∀ all, e.1.topic = .names → e.2 = .records all → maxReverseNames < all.length → e'.2 = .records all) z z'

theorem Zone.Rearranges.reply {z z' : Zone} (h : z.Rearranges z') : Rearranged z.reply z'.reply := by
  have found (q : Query) : (z.reply q).Rearranges (z'.reply q) ∧
      ∀ all, q.topic = .names → z.reply q = .records all → maxReverseNames < all.length →
        z'.reply q = .records all := by
    induction h with
    | nil => exact ⟨Reply.rearranges_refl _, fun all _ hr _ => hr⟩
    | @cons e e' rest rest' he _ ih =>
      obtain ⟨hq, hreply, hnames⟩ := he
      by_cases hfound : e.1 = q
      · have hz : Zone.reply (e :: rest) q = e.2 := by simp [Zone.reply, hfound]
        have hz' : Zone.reply (e' :: rest') q = e'.2 := by simp [Zone.reply, ← hq, hfound]
        rw [hz, hz', ← hfound]
        exact ⟨hreply, hnames⟩
      · have hz : Zone.reply (e :: rest) q = Zone.reply rest q := by simp [Zone.reply, hfound]
        have hz' : Zone.reply (e' :: rest') q = Zone.reply rest' q := by simp [Zone.reply, ← hq, hfound]
        rw [hz, hz']
        exact ih
  exact ⟨fun q => (found q).1, fun address all => (found ⟨.names, address⟩).2 all rfl⟩

end SenderPolicy.Dns

namespace SenderPolicy.Evaluation
open Dns Dns.Work
variable {replies replies' : Query → Reply}

def rearrangement (s : Setting) (h : Rearranged replies replies') : Comparison where
  first := s
  second := s
  replies := replies
  replies' := replies'
  explained := true
  lookups := (Int.add_zero _).symm
  voids := rfl
  rearranged := h

theorem evaluateDomain_of_rearranged (s : Setting) (h : Rearranged replies replies') (domain : Text) :
    ((evaluateDomain s domain).value replies).map (fun r => (r.verdict, r.tally, r.explanation)) =
      ((evaluateDomain s domain).value replies').map (fun r => (r.verdict, r.tally, r.explanation)) := by
  have hparallel := Comparison.checkHost_parallel (C := rearrangement s h) s.limits.lookups.toNat domain
    [domain] [domain] true true (.inl ⟨rfl, rfl⟩) (.inl rfl) {} {} ⟨rfl, rfl, fun _ => rfl⟩
  have hend := hparallel.resolve_left fun ⟨_, _, _, hforgiven⟩ => hforgiven
  rw [evaluateDomain_tells, evaluateDomain_tells]
  exact (hend.tells_eq rfl rfl).symm

/-- With its replies rearranged a resolver leads to the same verdict, the same counts and the same
explanation. -/
theorem evaluate_of_rearranged (h : Rearranged replies replies') (limits : Limits) (now : Int)
    (request : Request) :
    ((evaluate limits now request).value replies).map (fun r => (r.verdict, r.tally, r.explanation)) =
      ((evaluate limits now request).value replies').map (fun r => (r.verdict, r.tally, r.explanation)) := by
  unfold evaluate
  dsimp only
  split
  · rfl
  · split
    · rfl
    · exact evaluateDomain_of_rearranged _ h _

def orderedZone : Zone := [
  (⟨.texts, "d.example"⟩, .records [.text "site=1", .text "v=spf1 mx a:gone.example -all exp=why.example"]),
  (⟨.exchanges, "d.example"⟩, .records [.exchange 10 "m1.example", .exchange 20 "m2.example"]),
  (⟨.shortAddresses, "m1.example"⟩, .records [.text "192.0.2.1", .text "192.0.2.2"]),
  (⟨.shortAddresses, "gone.example"⟩, .nothing),
  (⟨.texts, "why.example"⟩, .records [.text "not from here"])]

/-- The same policy in another order, with its texts cut elsewhere. -/
def shuffledZone : Zone := [
  (⟨.texts, "d.example"⟩, .records
    [.strings ["v=spf1 mx a:gone", ".example -all exp=why.example"], .strings ["site", "=1"]]),
  (⟨.exchanges, "d.example"⟩, .records [.exchange 20 "m2.example", .exchange 10 "m1.example"]),
  (⟨.shortAddresses, "m1.example"⟩, .records [.text "192.0.2.2", .text "192.0.2.1"]),
  (⟨.shortAddresses, "gone.example"⟩, .nothing),
  (⟨.texts, "why.example"⟩, .records [.strings ["not ", "from here"]])]

theorem orderedZone_rearranges : orderedZone.Rearranges shuffledZone := by
  have reordered {q : Query} {all all' : List Datum} (hq : q.topic ≠ .names)
      (h : (all.map Datum.whole).Perm (all'.map Datum.whole)) :
      q = q ∧ (Reply.records all).Rearranges (.records all') ∧
        ∀ some', q.topic = .names → Reply.records all = .records some' →
          maxReverseNames < some'.length → Reply.records all' = .records some' :=
    ⟨rfl, .records h, fun _ hnames => absurd hnames hq⟩
  refine .cons (reordered (by decide) (by decide)) (.cons (reordered (by decide) (by decide))
    (.cons (reordered (by decide) (by decide)) (.cons ?_ (.cons (reordered (by decide) (by decide)) .nil))))
  exact ⟨rfl, .nothing, fun all _ h => nomatch h⟩

/-- A message that fails under both, with the same explanation. -/
theorem shuffledZone_evaluates_alike :
    let request : Request := { domain := "d.example", ip := "192.0.2.7" }
    let tells (replies : Query → Reply) :=
      (((evaluate {} 0 request).value replies).map fun r => (r.verdict, r.tally, r.explanation)).toOption
    let failure : Verdict × Tally × Option Text := (.fail, ⟨2, 1⟩, some "not from here")
    Rearranged orderedZone.reply shuffledZone.reply ∧
      tells orderedZone.reply = some failure ∧ tells shuffledZone.reply = some failure := by
  intro request tells failure
  have hordered : tells orderedZone.reply = some failure := by decide +kernel
  have hsame := evaluate_of_rearranged orderedZone_rearranges.reply {} 0 request
  exact ⟨orderedZone_rearranges.reply, hordered, (congrArg Except.toOption hsame).symm.trans hordered⟩

end SenderPolicy.Evaluation
