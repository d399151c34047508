import SenderPolicy.Proofs.Audit.Cost
import SenderPolicy.Proofs.Evaluation.Meaning

/-!
What terms decide, however many levels their meaning takes. Lists of terms are decided from left to right: a
list behind another counts only where nothing before it is decisive.
-/
namespace SenderPolicy.Evaluation
open Dns
variable {s : Setting} {replies : Query → Reply} {domain : Text} {t : Term} {ts us : List Term}
  {r : Record} {o : Outcome} {found : Option (Term × Outcome)} {n : Nat}

def Judges (s : Setting) (replies : Query → Reply) (domain : Text) (v : Verdict) : Prop :=
  ∃ n, judge s replies n domain = some v

/-- The term comes to the outcome in the domain. -/
def Yields (s : Setting) (replies : Query → Reply) (domain : Text) (t : Term) (o : Outcome) : Prop :=
  ∃ n, termOutcome s replies (judge s replies n) domain t = some o

/-- The first of the terms that is no mere mismatch in the domain, if any, and its outcome. -/
inductive Decides (s : Setting) (replies : Query → Reply) (domain : Text) :
    List Term → Option (Term × Outcome) → Prop
  | nil : Decides s replies domain [] none
  | past {t : Term} {ts : List Term} {found : Option (Term × Outcome)} :
      Yields s replies domain t .unmatched → Decides s replies domain ts found →
      Decides s replies domain (t :: ts) found
  | stop {t : Term} {o : Outcome} {ts : List Term} : Yields s replies domain t o → o ≠ .unmatched →
      Decides s replies domain (t :: ts) (some (t, o))

/-- The first of the terms that is no mere mismatch lets the message pass. -/
def Passes (s : Setting) (replies : Query → Reply) (domain : Text) (ts : List Term) : Prop :=
  ∃ t, t.qualifier = .pass ∧ Decides s replies domain ts (some (t, .matched))

theorem Yields.unique {o' : Outcome} (h : Yields s replies domain t o) (h' : Yields s replies domain t o') :
    o = o' := by
  obtain ⟨m, hm⟩ := h
  obtain ⟨n, hn⟩ := h'
  have hsame := termOutcome_mono (judge_mono (Nat.le_max_left m n)) hm
  rw [termOutcome_mono (judge_mono (Nat.le_max_right m n)) hn] at hsame
  exact (Option.some.inj hsame).symm

theorem exists_decisive (h : Decides s replies domain ts found) :
    ∃ n, decisive (termOutcome s replies (judge s replies n) domain) ts = some found := by
  induction h with
  | nil => exact ⟨0, rfl⟩
  | past ht _ ih =>
    obtain ⟨m, hm⟩ := ht
    obtain ⟨n, hn⟩ := ih
    refine ⟨max m n, ?_⟩
    rw [decisive, termOutcome_mono (judge_mono (Nat.le_max_left m n)) hm, Option.bind_some, if_pos rfl]
    exact decisive_mono (fun t o => termOutcome_mono (judge_mono (Nat.le_max_right m n))) hn
  | stop ht ho =>
    obtain ⟨n, hn⟩ := ht
    refine ⟨n, ?_⟩
    rw [decisive, hn, Option.bind_some, if_neg ho]

theorem decides_of_decisive
    (h : decisive (termOutcome s replies (judge s replies n) domain) ts = some found) :
    Decides s replies domain ts found := by
  induction ts with
  | nil => cases h; exact .nil
  | cons t rest ih =>
    obtain ⟨o, ho, hrest⟩ := Option.bind_eq_some_iff.mp h
    by_cases hu : o = .unmatched
    · rw [if_pos hu] at hrest
      exact .past ⟨n, hu ▸ ho⟩ (ih hrest)
    · rw [if_neg hu] at hrest
      cases hrest
      exact .stop ⟨n, ho⟩ hu

namespace Decides

theorem mem {x : Term × Outcome} (h : Decides s replies domain ts (some x)) : x.1 ∈ ts := by
  generalize hfound : some x = found at h
  induction h with
  | nil => cases hfound
  | past _ _ ih => exact List.mem_cons_of_mem _ (ih hfound)
  | stop => cases hfound; exact List.mem_cons_self

theorem append (h : Decides s replies domain ts none) (h' : Decides s replies domain us found) :
    Decides s replies domain (ts ++ us) found := by
  generalize hnone : (none : Option (Term × Outcome)) = undecided at h
  induction h with
  | nil => exact h'
  | past ht _ ih => exact .past ht (ih hnone)
  | stop => cases hnone

theorem append_right {x : Term × Outcome} (h : Decides s replies domain ts (some x)) (us : List Term) :
    Decides s replies domain (ts ++ us) (some x) := by
  generalize hfound : some x = found at h
  induction h with
  | nil => cases hfound
  | past ht _ ih => exact .past ht (ih hfound)
  | stop ht ho => cases hfound; exact .stop ht ho

theorem cut (h : Decides s replies domain (ts ++ us) found) :
    Decides s replies domain ts none ∧ Decides s replies domain us found ∨
      ∃ x, found = some x ∧ Decides s replies domain ts (some x) := by
  induction ts with
  | nil => exact .inl ⟨.nil, h⟩
  | cons t rest ih =>
    cases h with
    | past ht h =>
      rcases ih h with ⟨hnone, h⟩ | ⟨x, hx, h⟩
      · exact .inl ⟨.past ht hnone, h⟩
      · exact .inr ⟨x, hx, .past ht h⟩
    | stop ht ho => exact .inr ⟨_, rfl, .stop ht ho⟩

theorem behind (h : Decides s replies domain (t :: ts) found) (ht : Yields s replies domain t .unmatched) :
    Decides s replies domain ts found := by
  cases h with
  | past _ h => exact h
  | stop ho hne => exact absurd (ho.unique ht) hne

theorem yields_of_none (h : Decides s replies domain (t :: ts) none) :
    Yields s replies domain t .unmatched := by
  cases h with
  | past ht _ => exact ht

theorem yields_of_mem {ts : List Term} (h : Decides s replies domain ts none) :
    ∀ t ∈ ts, Yields s replies domain t .unmatched := by
  generalize hnone : (none : Option (Term × Outcome)) = undecided at h
  induction h with
  | nil => exact fun t ht => nomatch ht
  | past ht _ ih =>
    intro u hu
    cases hu with
    | head => exact ht
    | tail _ hu => exact ih hnone u hu
  | stop => cases hnone

theorem of_not_unmatched {x : Term × Outcome} (h : Decides s replies domain (t :: ts) (some x))
    (ht : ¬ Yields s replies domain t .unmatched) : t = x.1 ∧ Yields s replies domain t x.2 := by
  cases h with
  | past ho _ => exact absurd ho ht
  | stop ho _ => exact ⟨rfl, ho⟩

theorem of_map {domain' : Text} {form : Term → Term}
    (h : ∀ t ∈ ts, ∀ o, Yields s replies domain (form t) o → Yields s replies domain' t o)
    (hd : Decides s replies domain (ts.map form) found) :
    ∃ found', Decides s replies domain' ts found' ∧
      found = found'.map fun x => (form x.1, x.2) := by
  induction ts with
  | nil => cases hd; exact ⟨none, .nil, rfl⟩
  | cons t rest ih =>
    cases hd with
    | past ht hd =>
      obtain ⟨found', hfound, heq⟩ := ih (fun u hu => h u (List.mem_cons_of_mem t hu)) hd
      exact ⟨found', .past (h t List.mem_cons_self _ ht) hfound, heq⟩
    | stop ht ho => exact ⟨some (t, _), .stop (h t List.mem_cons_self _ ht) ho, rfl⟩

theorem map {domain' : Text} {form : Term → Term}
    (h : ∀ t ∈ ts, ∀ o, Yields s replies domain' t o → Yields s replies domain (form t) o)
    (hd : Decides s replies domain' ts found) :
    Decides s replies domain (ts.map form) (found.map fun x => (form x.1, x.2)) := by
  induction hd with
  | nil => exact .nil
  | past ht _ ih =>
    exact .past (h _ List.mem_cons_self _ ht) (ih fun u hu => h u (List.mem_cons_of_mem _ hu))
  | stop ht ho => exact .stop (h _ List.mem_cons_self _ ht) ho

theorem ne_unmatched {x : Term × Outcome} (h : Decides s replies domain ts (some x)) :
    x.2 ≠ .unmatched := by
  generalize hfound : some x = found at h
  induction h with
  | nil => cases hfound
  | past _ _ ih => exact ih hfound
  | stop _ ho => cases hfound; exact ho

end Decides

theorem Passes.append (h : Decides s replies domain ts none) (h' : Passes s replies domain us) :
    Passes s replies domain (ts ++ us) := by
  obtain ⟨t, ht, hd⟩ := h'
  exact ⟨t, ht, h.append hd⟩

theorem Passes.append_right (h : Passes s replies domain ts) (us : List Term) :
    Passes s replies domain (ts ++ us) := by
  obtain ⟨t, ht, hd⟩ := h
  exact ⟨t, ht, hd.append_right us⟩

/-! Records and the domains that publish them -/

/-- The verdict on a record without a redirect of which so much was found. -/
def foundVerdict : Option (Term × Outcome) → Verdict
  | some (t, o) => decidedVerdict t o
  | none => .neutral

@[simp] theorem foundVerdict_matched (t : Term) :
    foundVerdict (some (t, .matched)) = t.qualifier.verdict := rfl

theorem includeOutcome_of_ne {q : Qualifier} (h : q ≠ .pass) : includeOutcome q.verdict = .unmatched := by
  cases q with
  | pass => exact absurd rfl h
  | _ => rfl

theorem domainVerdict_of_publishes {verdict : Text → Option Verdict} (hp : Audit.Publishes replies domain r) :
    domainVerdict s replies verdict domain = recordVerdict s replies verdict r domain := by
  obtain ⟨publication, hpub, hparse, hvalid⟩ := hp
  obtain ⟨a, ha, haval⟩ := hvalid.auditText hparse
  simp only [domainVerdict, hpub, ha, Except.toOption, Option.bind_some, hparse, haval]

theorem judges_of_decides (hp : Audit.Publishes replies domain r) (hr : r.redirect = none)
    (h : Decides s replies domain (mechanismsOf r.terms) found) :
    Judges s replies domain (foundVerdict found) := by
  obtain ⟨n, hn⟩ := exists_decisive h
  refine ⟨n + 1, ?_⟩
  rw [judge, domainVerdict_of_publishes hp, recordVerdict, hn, Option.bind_some]
  cases found with
  | some x => rfl
  | none => simp [endingVerdict, hr, foundVerdict]

theorem decides_of_judges {v : Verdict} (hp : Audit.Publishes replies domain r) (hr : r.redirect = none)
    (h : Judges s replies domain v) :
    ∃ found, Decides s replies domain (mechanismsOf r.terms) found ∧ v = foundVerdict found := by
  obtain ⟨n, hn⟩ := h
  have hrecord := judge_succ n domain v hn
  rw [judge, domainVerdict_of_publishes hp] at hrecord
  obtain ⟨found, hfound, hrest⟩ := Option.bind_eq_some_iff.mp hrecord
  refine ⟨found, decides_of_decisive hfound, ?_⟩
  cases found with
  | some x => exact (Option.some.inj hrest).symm
  | none => simpa [endingVerdict, hr, foundVerdict, eq_comm] using hrest

theorem matched_of_decidedVerdict (h : Decides s replies domain ts (some (t, o)))
    (hv : decidedVerdict t o = .pass) : o = .matched ∧ t.qualifier = .pass := by
  have hne := h.ne_unmatched
  cases o with
  | unmatched => exact absurd rfl hne
  | matched => cases hq : t.qualifier <;> simp [decidedVerdict, Qualifier.verdict, hq] at hv ⊢
  | _ => cases hv

theorem exists_recordVerdict_of_passes (h : Passes s replies domain (mechanismsOf r.terms)) :
    ∃ n, recordVerdict s replies (judge s replies n) r domain = some .pass := by
  obtain ⟨t, ht, hd⟩ := h
  obtain ⟨n, hn⟩ := exists_decisive hd
  refine ⟨n, ?_⟩
  simp only [recordVerdict, hn, Option.bind_some, decidedVerdict, ht, Qualifier.verdict]

theorem yields_of_judges {target : Text} {v : Verdict} (hk : t.kind = .inclusion)
    (ht : s.target t domain = .ok target) (h : Judges s replies target v) :
    Yields s replies domain t (includeOutcome v) := by
  obtain ⟨n, hn⟩ := h
  refine ⟨n, ?_⟩
  simp only [termOutcome, hk, ht, Except.toOption, Option.bind_some, hn, Option.map_some]

theorem judges_of_yields {target : Text} (hk : t.kind = .inclusion) (ht : s.target t domain = .ok target)
    (h : Yields s replies domain t o) : ∃ v, Judges s replies target v ∧ o = includeOutcome v := by
  obtain ⟨n, hn⟩ := h
  simp only [termOutcome, hk, ht, Except.toOption, Option.bind_some] at hn
  obtain ⟨v, hv, rfl⟩ := Option.map_eq_some_iff.mp hn
  exact ⟨v, ⟨n, hv⟩, rfl⟩

theorem yields_all (hk : t.kind = .all) : Yields s replies domain t .matched :=
  ⟨0, by simp only [termOutcome, hk]⟩

end SenderPolicy.Evaluation
