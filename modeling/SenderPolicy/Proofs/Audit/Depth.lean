import SenderPolicy.Proofs.Audit.Congruence
import SenderPolicy.Proofs.Dns.Paths

/-!
The depth of a walk. A record is followed only behind its count, so that a walk with as many levels as there
are lookups allowed ends by itself: whatever stands below the last level is never reached, whatever the
resolver replies.
-/
namespace SenderPolicy.Audit
open Dns Dns.Work
variable {α β : Type} {limits : Limits} {k : Nat}

def WalkState.IsWithin (limits : Limits) (k : Nat) (s : WalkState) : Prop :=
  k ≤ s.tally.lookups ∧ s.tally.lookups ≤ limits.lookups.toNat

theorem WalkState.IsWithin.counted {s : WalkState} (h : s.IsWithin limits k)
    (hw : ¬ limits.lookups < (s.tally.lookups + 1 : Nat)) : s.counted.IsWithin limits (k + 1) := by
  simp only [IsWithin, counted_lookups] at h ⊢
  omega

/-- Two walks that are the same within the limit; where they go on, they are still within it. -/
def SameWithin (limits : Limits) (k : Nat) (x y : Walk α) : Prop :=
  ∀ s, s.IsWithin limits k → x.run.run s = y.run.run s ∧
    (x.run.run s).Ensures fun _ r => ∀ a, r.1 = .ok a → r.2.IsWithin limits k

namespace SameWithin

theorem of_kept {x : Walk α} (h : ∀ s, ∃ o s', x.run.run s = pure (o, s') ∧ s'.tally = s.tally) :
    SameWithin limits k x x := by
  intro s hs
  obtain ⟨o, s', hx, ht⟩ := h s
  rw [hx]
  refine ⟨rfl, fun a _ => ?_⟩
  simpa only [WalkState.IsWithin, ht] using hs

theorem fetch (domain : Text) : SameWithin limits k (Walk.fetch domain) (Walk.fetch domain) := by
  intro s hs
  refine ⟨rfl, ?_⟩
  have hrun : (Walk.fetch domain).run.run s = published domain >>= fun a => pure (.ok a, s) :=
    run_ofPlan (published domain) s
  rw [hrun, published]
  exact Plan.ensures_bind (Plan.ensures_bind (Plan.ensures_query _ _ fun _ _ _ => hs))

theorem bind {x y : Walk α} {f g : α → Walk β} (h : SameWithin limits k x y)
    (hf : ∀ a, SameWithin limits k (f a) (g a)) : SameWithin limits k (x >>= f) (y >>= g) := by
  intro s hs
  obtain ⟨heq, hgo⟩ := h s hs
  constructor
  · rw [run_bind, run_bind, ← heq]
    apply Plan.bind_congr_of_ensures
    refine hgo.mono fun n r hr => ?_
    obtain ⟨o, s'⟩ := r
    cases o with
    | error e => rfl
    | ok a => exact (hf a s' (hr a rfl)).1
  · rw [run_bind]
    apply Plan.ensures_bind
    refine hgo.mono fun n r hr => ?_
    obtain ⟨o, s'⟩ := r
    cases o with
    | error e => exact fun _ h => nomatch h
    | ok a => exact (hf a s' (hr a rfl)).2.mono fun _ _ h => h

theorem counted {f g : Unit → Walk α} (term : Text) (h : SameWithin limits (k + 1) (f ()) (g ())) :
    SameWithin limits k (Walk.count limits term >>= f) (Walk.count limits term >>= g) := by
  intro s hs
  rw [run_bind, run_bind, Walk.run_count, pure_bind, pure_bind]
  by_cases hover : limits.lookups < (s.tally.lookups + 1 : Nat)
  · simp only [if_pos hover]
    exact ⟨trivial, fun _ h => nomatch h⟩
  · simp only [if_neg hover]
    obtain ⟨heq, hgo⟩ := h _ (hs.counted hover)
    refine ⟨heq, hgo.mono fun n r hr a ha => ?_⟩
    exact ⟨Nat.le_of_succ_le (hr a ha).1, (hr a ha).2⟩

theorem beyond {x y : Walk α} (h : limits.lookups.toNat < k) : SameWithin limits k x y := by
  intro s hs
  have := hs.1
  have := hs.2
  omega

end SameWithin

def sameWithin (limits : Limits) : Walk.Congruence limits limits where
  Rel k := SameWithin limits k
  pure _ := .of_kept fun s => ⟨_, s, rfl, rfl⟩
  bind := .bind
  get := .of_kept fun s => ⟨_, s, rfl, rfl⟩
  see _ := .of_kept fun _ => ⟨_, _, rfl, rfl⟩
  findAll _ := .of_kept fun _ => ⟨_, _, rfl, rfl⟩
  fetch := .fetch
  fault _ := .of_kept fun s => ⟨_, s, rfl, rfl⟩
  counted := .counted

/-- The walk of a record with so many levels, below which something else stands. -/
def walkAbove (limits : Limits) (floor : Follow) : Nat → Follow
  | 0, record, domain, path => walkTerms limits floor domain path (walkedTerms record)
  | depth + 1, record, domain, path =>
    walkTerms limits (walkAbove limits floor depth) domain path (walkedTerms record)

theorem walk_eq_above (limits : Limits) (depth : Nat) :
    walk limits depth = walkAbove limits (fun _ _ _ => pure ()) depth := by
  induction depth with
  | zero => rfl
  | succ depth ih =>
    funext record domain path
    rw [walk, walkAbove, ih]

/-- As many levels as there are lookups left are enough. -/
theorem walkAbove_same (limits : Limits) (floor floor' : Follow) (depth depth' k : Nat)
    (h : limits.lookups.toNat ≤ k + depth) (h' : limits.lookups.toNat ≤ k + depth') :
    (sameWithin limits).Follows k (walkAbove limits floor depth) (walkAbove limits floor' depth') := by
  -- At the last level of either walk the next count goes over the limit.
  induction depth generalizing depth' k with
  | zero =>
    intro record domain path
    have hbeyond (follow follow' : Follow) : (sameWithin limits).Follows (k + 1) follow follow' :=
      fun _ _ _ => .beyond (by omega)
    cases depth' with
    | zero => exact (sameWithin limits).walkTerms (hbeyond _ _) _
    | succ depth' => exact (sameWithin limits).walkTerms (hbeyond _ _) _
  | succ depth ih =>
    intro record domain path
    cases depth' with
    | zero =>
      have hbeyond : (sameWithin limits).Follows (k + 1) (walkAbove limits floor depth) floor' :=
        fun _ _ _ => .beyond (by omega)
      exact (sameWithin limits).walkTerms hbeyond _
    | succ depth' => exact (sameWithin limits).walkTerms (ih depth' (k + 1) (by omega) (by omega)) _

/-- Whatever stands below the last level, and however many levels there are beyond the lookups that are
allowed, the walk is the same. -/
theorem walkAbove_run (limits : Limits) (floor : Follow) {depth : Nat} (h : limits.lookups.toNat ≤ depth)
    (record : Record) (domain : Text) (path : List Text) (findings : List Finding) :
    (walkAbove limits floor depth record domain path).run.run { findings } =
      (walk limits limits.lookups.toNat record domain path).run.run { findings } := by
  rw [walk_eq_above]
  have hsame := walkAbove_same limits floor (fun _ _ _ => pure ()) depth limits.lookups.toNat 0
    (by omega) (by omega)
  exact (hsame record domain path { findings } ⟨Nat.zero_le _, Nat.zero_le _⟩).1

end SenderPolicy.Audit
