import SenderPolicy.Audit.Walk
import SenderPolicy.Proofs.Audit.Validity
import SenderPolicy.Proofs.Dns.Outcome

/-!
What the terms of a record cost, if all that they lead to is in order: one lookup for each term that counts,
and the cost of each record behind an include or a redirect. Terms with a cost lead round no loop.
-/
namespace SenderPolicy.Audit
open Dns

/-- The domain publishes a record, and it is valid. -/
def Publishes (replies : Query → Reply) (domain : Text) (r : Record) : Prop :=
  ∃ publication, (published domain).value replies = .ok publication ∧
    Record.parse? publication.record = some r ∧ IsValid r

/-- There is no record to be had, for a reason that is no permanent error. -/
def Lacks (replies : Query → Reply) (domain : Text) : Prop :=
  ∃ u, (published domain).value replies = .error u ∧ u.verdict ≠ .permerror

structure Leads (t : Term) (target : Text) : Prop where
  kind : t.kind = .inclusion ∨ t.kind = .redirect
  value : ∃ value, t.value = some value ∧ value ≠ [] ∧ value.contains '%' = false ∧
    target = Domain.normalized value

inductive Costs (replies : Query → Reply) : List Term → Nat → Prop
  | nil : Costs replies [] 0
  | free {t ts n} : t.countsLookup = false → Costs replies ts n → Costs replies (t :: ts) n
  | plain {t ts n} : t.countsLookup = true → t.kind ≠ .inclusion → t.kind ≠ .redirect →
      Costs replies ts n → Costs replies (t :: ts) (1 + n)
  | lacking {t target ts n} : Leads t target → Lacks replies target →
      Costs replies ts n → Costs replies (t :: ts) (1 + n)
  | followed {t target record ts m n} : Leads t target → Publishes replies target record →
      Costs replies (walkedTerms record) m → Costs replies ts n → Costs replies (t :: ts) (1 + m + n)

inductive Reached (replies : Query → Reply) (target : Text) : Nat → Prop
  | lacking : Lacks replies target → Reached replies target 0
  | followed {record : Record} {m : Nat} : Publishes replies target record →
      Costs replies (walkedTerms record) m → Reached replies target m

variable {replies : Query → Reply} {record record' : Record} {t : Term} {ts us : List Term}
  {target target' : Text} {m n : Nat}

theorem Publishes.unique (h : Publishes replies target record) (h' : Publishes replies target record') :
    record = record' := by
  obtain ⟨publication, hp, hr, -⟩ := h
  obtain ⟨publication', hp', hr', -⟩ := h'
  rw [hp] at hp'
  cases hp'
  exact Option.some.inj (hr.symm.trans hr')

/-- What is published, told by checks that can be run. -/
theorem publishes_of_checks
    (h : ((published target).value replies).toOption.bind (fun p => Record.parse? p.record) = some record)
    (hvalid : (recordFindings record).toOption.map (fun fs => fs.all fun f => !f.isFatal) = some true) :
    Publishes replies target record := by
  obtain ⟨publication, hpub, hparse⟩ := Option.bind_eq_some_iff.mp h
  obtain ⟨findings, hfindings, hall⟩ := Option.map_eq_some_iff.mp hvalid
  refine ⟨publication, eq_ok_of_toOption hpub, hparse, findings, eq_ok_of_toOption hfindings, fun f hf => ?_⟩
  simpa using List.all_eq_true.mp hall f hf

theorem Publishes.not_lacks (h : Publishes replies target record) : ¬ Lacks replies target := by
  rintro ⟨u, hu, -⟩
  obtain ⟨publication, hp, -⟩ := h
  rw [hp] at hu
  cases hu

theorem Leads.unique (h : Leads t target) (h' : Leads t target') : target = target' := by
  obtain ⟨value, hv, -, -, rfl⟩ := h.value
  obtain ⟨value', hv', -, -, rfl⟩ := h'.value
  rw [Option.some.inj (hv.symm.trans hv')]

theorem Leads.countsLookup (h : Leads t target) : t.countsLookup = true := by
  rcases h.kind with hk | hk <;> simp [Term.countsLookup, Kind.countsLookup, hk]

theorem Leads.not_free (h : Leads t target) (hfree : t.countsLookup = false) : False :=
  Bool.noConfusion (h.countsLookup.symm.trans hfree)

theorem Leads.not_plain (h : Leads t target) (hi : t.kind ≠ .inclusion) (hr : t.kind ≠ .redirect) :
    False :=
  h.kind.elim hi hr

namespace Costs

theorem unique (h : Costs replies ts m) (h' : Costs replies ts n) : m = n := by
  induction h generalizing n with
  | nil => cases h'; rfl
  | free hfree _ ih =>
    cases h' with
    | free _ h' => exact ih h'
    | plain hcounts => rw [hfree] at hcounts; cases hcounts
    | lacking hl => exact (hl.not_free hfree).elim
    | followed hl => exact (hl.not_free hfree).elim
  | plain hcounts hi hr _ ih =>
    cases h' with
    | free hfree => rw [hfree] at hcounts; cases hcounts
    | plain _ _ _ h' => rw [ih h']
    | lacking hl => exact (hl.not_plain hi hr).elim
    | followed hl => exact (hl.not_plain hi hr).elim
  | lacking hl hlacks _ ih =>
    cases h' with
    | free hfree => exact (hl.not_free hfree).elim
    | plain _ hi hr => exact (hl.not_plain hi hr).elim
    | lacking _ _ h' => rw [ih h']
    | followed hl' hp => exact (hp.not_lacks (hl.unique hl' ▸ hlacks)).elim
  | followed hl hp _ _ ihm ihn =>
    cases h' with
    | free hfree => exact (hl.not_free hfree).elim
    | plain _ hi hr => exact (hl.not_plain hi hr).elim
    | lacking hl' hlacks => exact (hp.not_lacks (hl'.unique hl ▸ hlacks)).elim
    | followed hl' hp' hm hn =>
      cases hl.unique hl'
      cases hp.unique hp'
      rw [ihm hm, ihn hn]

theorem append (h : Costs replies ts m) (h' : Costs replies us n) : Costs replies (ts ++ us) (m + n) := by
  induction h with
  | nil => simpa using h'
  | free hfree _ ih => exact .free hfree ih
  | plain hcounts hi hr _ ih =>
    rw [Nat.add_assoc]
    exact .plain hcounts hi hr ih
  | lacking hl hlacks _ ih =>
    rw [Nat.add_assoc]
    exact .lacking hl hlacks ih
  | followed hl hp hm _ _ ih =>
    rw [Nat.add_assoc]
    exact .followed hl hp hm ih

theorem cut (h : Costs replies (ts ++ us) n) :
    ∃ m k, Costs replies ts m ∧ Costs replies us k ∧ n = m + k := by
  induction ts generalizing n with
  | nil => exact ⟨0, n, .nil, h, (Nat.zero_add n).symm⟩
  | cons t rest ih =>
    cases h with
    | free hfree h =>
      obtain ⟨m, k, hm, hk, rfl⟩ := ih h
      exact ⟨m, k, .free hfree hm, hk, rfl⟩
    | plain hcounts hi hr h =>
      obtain ⟨m, k, hm, hk, rfl⟩ := ih h
      exact ⟨1 + m, k, .plain hcounts hi hr hm, hk, by omega⟩
    | lacking hl hlacks h =>
      obtain ⟨m, k, hm, hk, rfl⟩ := ih h
      exact ⟨1 + m, k, .lacking hl hlacks hm, hk, by omega⟩
    | followed hl hp hr h =>
      obtain ⟨m, k, hm, hk, rfl⟩ := ih h
      exact ⟨1 + _ + m, k, .followed hl hp hr hm, hk, by omega⟩

theorem leads (hl : Leads t target) (h : Reached replies target m) (hts : Costs replies ts n) :
    Costs replies (t :: ts) (1 + m + n) := by
  cases h with
  | lacking hlacks => exact .lacking hl hlacks hts
  | followed hp hm => exact .followed hl hp hm hts

theorem exists_reached (h : Costs replies [t] n) (hk : t.kind = .inclusion ∨ t.kind = .redirect) :
    ∃ target m, Leads t target ∧ Reached replies target m ∧ n = 1 + m := by
  cases h with
  | free hfree => rcases hk with hk | hk <;> simp [Term.countsLookup, Kind.countsLookup, hk] at hfree
  | plain _ hi hr => exact (hk.elim hi hr).elim
  | lacking hl hlacks h =>
    cases h
    exact ⟨_, 0, hl, .lacking hlacks, rfl⟩
  | followed hl hp hm h =>
    cases h
    exact ⟨_, _, hl, .followed hp hm, rfl⟩

theorem one_le (h : Costs replies [t] n) (hc : t.countsLookup = true) : 1 ≤ n := by
  cases h with
  | free hfree => rw [hfree] at hc; cases hc
  | _ => omega

end Costs
end SenderPolicy.Audit
