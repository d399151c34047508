import SenderPolicy.Proofs.Reference.Thrift

/-!
What an audit leaves out of a record. It walks the mechanisms and one redirect, and this only if nothing matches
everything; all other redirects are counted nowhere. So a record is walked for all that its terms count exactly if it
has no such redirect.
-/
namespace SenderPolicy.Audit
open Dns Evaluation Reference
variable {replies : Query → Reply} {path : List Text} {t : Term} {ts : List Term} {r : Record} {m n : Nat}
  {p : Term → Bool}

/-- A redirect stands beside a term that matches everything, or behind another redirect. -/
def IgnoresRedirect (r : Record) : Prop := (hasAll r ∧ 0 < countOf .redirect r) ∨ 1 < countOf .redirect r

instance (r : Record) : Decidable (IgnoresRedirect r) := inferInstanceAs (Decidable (_ ∨ _))

/-! Terms left out -/

namespace Counts

theorem eq_zero_of_free (h : Counts replies path [t] n) (hfree : t.countsLookup = false) : n = 0 := by
  cases h with
  | free _ hnil =>
    cases hnil
    rfl
  | plain hcounts => exact Bool.noConfusion (hcounts.symm.trans hfree)
  | missing hl => exact (hl.not_free hfree).elim
  | followed hl => exact (hl.not_free hfree).elim

theorem one_le (h : Counts replies path [t] n) (hcounts : t.countsLookup = true) : 1 ≤ n := by
  cases h with
  | free hfree => exact Bool.noConfusion (hcounts.symm.trans hfree)
  | _ => omega

theorem partition (h : Counts replies path ts n) (p : Term → Bool) :
    ∃ a b, Counts replies path (ts.filter p) a ∧ Counts replies path (ts.filter fun t => !p t) b ∧ n = a + b := by
  induction ts generalizing n with
  | nil => exact ⟨0, n, .nil, h, (Nat.zero_add n).symm⟩
  | cons t rest ih =>
    obtain ⟨m, k, ht, hrest, rfl⟩ := h.uncons
    obtain ⟨a, b, ha, hb, rfl⟩ := ih hrest
    cases hp : p t with
    | true => exact ⟨m + a, b, by simpa [hp] using ht.cons ha, by simpa [hp] using hb, by omega⟩
    | false => exact ⟨a, m + b, by simpa [hp] using ha, by simpa [hp] using ht.cons hb, by omega⟩

theorem filter (h : Counts replies path ts n) (hfree : ∀ t ∈ ts, p t = false → t.countsLookup = false) :
    Counts replies path (ts.filter p) n := by
  induction ts generalizing n with
  | nil => exact h
  | cons t rest ih =>
    obtain ⟨ht, hrest⟩ := List.forall_mem_cons.mp hfree
    obtain ⟨m, k, hm, hk, rfl⟩ := h.uncons
    cases hp : p t with
    | true => simpa [hp] using hm.cons (ih hk hrest)
    | false =>
      rw [hm.eq_zero_of_free (ht hp), Nat.zero_add]
      simpa [hp] using ih hk hrest

theorem length_le (h : Counts replies path ts n) (hcounts : ∀ t ∈ ts, t.countsLookup = true) : ts.length ≤ n := by
  induction ts generalizing n with
  | nil => exact Nat.zero_le n
  | cons t rest ih =>
    obtain ⟨ht, hrest⟩ := List.forall_mem_cons.mp hcounts
    obtain ⟨m, k, hm, hk, rfl⟩ := h.uncons
    have hfirst := hm.one_le ht
    have hothers := ih hk hrest
    rw [List.length_cons]
    omega

theorem eq_zero_of_nil (h : Counts replies path [] n) : n = 0 := by
  cases h
  rfl

/-- The first of terms that count, by itself: it counts as much as all exactly if there is no other. -/
theorem head (h : Counts replies path ts n) (hcounts : ∀ t ∈ ts, t.countsLookup = true) :
    ∃ m, Counts replies path ts.head?.toList m ∧ m ≤ n ∧ (m = n ↔ ts.length ≤ 1) := by
  cases ts with
  | nil => exact ⟨n, h, Nat.le_refl n, by simp⟩
  | cons t rest =>
    obtain ⟨m, k, hm, hk, rfl⟩ := h.uncons
    have hothers := hk.length_le (List.forall_mem_cons.mp hcounts).2
    refine ⟨m, hm, Nat.le_add_right m k, ?_⟩
    rw [List.length_cons]
    constructor
    · intro hsame
      omega
    · intro hone
      obtain rfl := List.eq_nil_of_length_eq_zero (by omega : rest.length = 0)
      rw [hk.eq_zero_of_nil, Nat.add_zero]

/-! A record -/

theorem mechanisms_redirects (h : Counts replies path r.terms n) :
    ∃ a b, Counts replies path (mechanismsOf r.terms) a ∧
      Counts replies path (r.terms.filter fun t => t.kind == .redirect) b ∧ n = a + b := by
  obtain ⟨b, a, hb, ha, rfl⟩ := h.partition fun t => t.kind == .redirect
  refine ⟨a, b, ?_, hb, Nat.add_comm b a⟩
  have hfilter : mechanismsOf r.terms =
      (r.terms.filter fun t => !(t.kind == .redirect)).filter fun t => !t.isModifier := by
    rw [mechanismsOf, List.filter_filter]
    congr 1
    funext t
    cases hk : t.kind <;> simp [Term.isModifier, Kind.isModifier, hk]
  rw [hfilter]
  refine ha.filter fun t ht hm => ?_
  have hkind := (List.mem_filter.mp ht).2
  cases hk : t.kind <;> simp_all [Term.isModifier, Kind.isModifier, Term.countsLookup, Kind.countsLookup]

/-- The audit walks no more than the terms count, and as much exactly if no redirect is ignored. -/
theorem walkedTerms (h : Counts replies path r.terms n) :
    ∃ m, Counts replies path (walkedTerms r) m ∧ m ≤ n ∧ (m = n ↔ ¬ IgnoresRedirect r) := by
  obtain ⟨a, b, hmechanisms, hredirects, rfl⟩ := h.mechanisms_redirects
  have hcounts : ∀ t ∈ r.terms.filter (fun t => t.kind == .redirect), t.countsLookup = true := by
    intro t ht
    have hkind : t.kind = .redirect := by simpa using (List.mem_filter.mp ht).2
    rw [Term.countsLookup, hkind]
    rfl
  have hwalked : Audit.walkedTerms r = mechanismsOf r.terms ++
      if hasAll r then [] else (r.terms.filter fun t => t.kind == .redirect).head?.toList := by
    rw [List.head?_filter]
    rfl
  rw [hwalked, IgnoresRedirect, countOf, List.countP_eq_length_filter]
  cases hall : hasAll r with
  | true =>
    have hlength := hredirects.length_le hcounts
    refine ⟨a, by simpa using hmechanisms, Nat.le_add_right a b, fun hsame => ?_, fun hnone => ?_⟩
    · simp only [true_and]
      omega
    · have hzero : ¬ 0 < (r.terms.filter fun t => t.kind == .redirect).length := fun hpos => hnone (.inl ⟨rfl, hpos⟩)
      rw [List.eq_nil_of_length_eq_zero (Nat.eq_zero_of_not_pos hzero)] at hredirects
      rw [hredirects.eq_zero_of_nil, Nat.add_zero]
  | false =>
    obtain ⟨m, hm, hle, hsame⟩ := hredirects.head hcounts
    refine ⟨a + m, by simpa using hmechanisms.append hm, by omega, ?_⟩
    rw [Nat.add_left_cancel_iff, hsame]
    simp

end Counts
end SenderPolicy.Audit
