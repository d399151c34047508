import SenderPolicy.Proofs.Dns.Caching

/-!
What a resolver asks its wire. For a query one record type of one name is asked for, once and again after each timeout
while retries are left; nothing is asked for where the records are kept, or where there is nothing to look up.
-/
namespace SenderPolicy.Dns

variable {σ : Type} {type : RecordType} {name : Text}

abbrev Question := RecordType × Text

/-- The wire, with the questions that it is asked written down. -/
def Wire.recorded (wire : Wire σ) : Wire (σ × List Question) := fun type name s =>
  ((wire type name s.1).1, (wire type name s.1).2, s.2 ++ [(type, name)])

namespace Resolver
variable {wire : Wire σ} {now : Int} {r : Resolver} {s : σ}

def questions (wire : Wire σ) (now : Int) (q : Query) (r : Resolver) (s : σ) : List Question :=
  (reply wire.recorded now q r (s, [])).2.2.2

/-- The records of the name are kept in the cache, and are young enough to be read. -/
def IsKept (now : Int) (type : RecordType) (name : Text) (r : Resolver) : Prop :=
  (r.cache.read now (cacheKey type name)).1 ≠ none

instance (now : Int) (type : RecordType) (name : Text) (r : Resolver) : Decidable (IsKept now type name r) :=
  inferInstanceAs (Decidable (_ ≠ _))

/-- The outcome is the same where the questions are written down; one is asked, and one more for each retry. -/
theorem ask_recorded (wire : Wire σ) (type : RecordType) (name : Text) (retries : Nat) (s : σ)
    (asked : List Question) : ∃ k ≤ retries, ask wire.recorded type name retries (s, asked) =
      ((ask wire type name retries s).1, (ask wire type name retries s).2,
        asked ++ List.replicate (k + 1) (type, name)) := by
  induction retries generalizing s asked with
  | zero => exact ⟨0, Nat.le_refl 0, rfl⟩
  | succ left ih =>
    unfold ask
    generalize hfirst : wire type name s = first
    obtain ⟨outcome, after⟩ := first
    have hrecorded : wire.recorded type name (s, asked) = (outcome, after, asked ++ [(type, name)]) := by
      simp only [Wire.recorded, hfirst]
    rw [hrecorded]
    cases outcome with
    | timeout =>
      obtain ⟨k, hk, hrest⟩ := ih after (asked ++ [(type, name)])
      refine ⟨k + 1, Nat.succ_le_succ hk, hrest.trans ?_⟩
      rw [List.append_assoc, List.singleton_append, ← List.replicate_succ]
    | data | noAnswer | noSuchDomain | failed => exact ⟨0, Nat.zero_le _, rfl⟩

/-- What is kept is not asked for, and what is found is the same where the questions are written down. -/
theorem lookUp_recorded (wire : Wire σ) (now : Int) (type : RecordType) (name : Text) (r : Resolver) (s : σ) :
    ∃ k ≤ r.timeoutRetries.toNat + 1, (k = 0 ↔ IsKept now type name r) ∧
      lookUp wire.recorded now type name r (s, []) =
        ((lookUp wire now type name r s).1, (lookUp wire now type name r s).2.1,
          (lookUp wire now type name r s).2.2, List.replicate k (type, name)) := by
  unfold IsKept
  cases hread : r.cache.read now (cacheKey type name) with
  | mk kept cache =>
    cases kept with
    | some records =>
      refine ⟨0, Nat.zero_le _, by simp, ?_⟩
      simp only [lookUp, hread, List.replicate_zero]
    | none =>
      obtain ⟨k, hk, hasked⟩ := ask_recorded wire type name r.timeoutRetries.toNat s []
      refine ⟨k + 1, Nat.succ_le_succ hk, by simp, ?_⟩
      simp only [lookUp, hread, hasked, List.nil_append]
      cases recordsOf? (ask wire type name r.timeoutRetries.toNat s).1 <;> rfl

/-- Nothing is asked for a query without a subject, and for any other its subject, unless this is kept. -/
theorem questions_of_subject (wire : Wire σ) (now : Int) (q : Query) (r : Resolver) (s : σ) :
    match subject? q with
    | none => questions wire now q r s = []
    | some (type, name) => ∃ k ≤ r.timeoutRetries.toNat + 1, (k = 0 ↔ IsKept now type name r) ∧
        questions wire now q r s = List.replicate k (type, name) := by
  unfold questions
  rw [reply_eq]
  cases subject? q with
  | none => rfl
  | some subject =>
    obtain ⟨k, hk, hkept, hfound⟩ := lookUp_recorded wire now subject.1 subject.2 r s
    exact ⟨k, hk, hkept, congrArg (·.2.2.2) hfound⟩

end Resolver
end SenderPolicy.Dns
