import SenderPolicy.Proofs.Audit.Limits

/-!
What a walk counts, whether or not the records on its way are valid: one lookup for each term that counts, and what is
counted in each record behind an include or a redirect. A walk that ends within its limit without having met a loop has
counted this; and a walk whose limit leaves as much ends so.
-/
namespace SenderPolicy.Audit
open Dns Dns.Work

def Finding.IsLoop (f : Finding) : Prop := ∃ path, f.problem = .includeLoop path ∨ f.problem = .redirectLoop path

def WalkState.Loopless (s : WalkState) : Prop := ∀ f ∈ s.findings, ¬ f.IsLoop

/-- The domain publishes the record, valid or not, and an audit of it by itself comes to an end. -/
def Offers (replies : Query → Reply) (domain : Text) (r : Record) : Prop :=
  ∃ publication, (published domain).value replies = .ok publication ∧ Record.parse? publication.record = some r ∧
    ∃ findings, recordFindings r = .ok findings

/-- Walking the terms behind the path counts so many lookups, and no target is on the path to it. -/
inductive Counts (replies : Query → Reply) : List Text → List Term → Nat → Prop
  | nil {path} : Counts replies path [] 0
  | free {path t ts n} : t.countsLookup = false → Counts replies path ts n → Counts replies path (t :: ts) n
  | plain {path t ts n} : t.countsLookup = true → (∀ target, ¬ Leads t target) →
      Counts replies path ts n → Counts replies path (t :: ts) (1 + n)
  | missing {path t target u ts n} : Leads t target → target ∉ path → (published target).value replies = .error u →
      Counts replies path ts n → Counts replies path (t :: ts) (1 + n)
  | followed {path t target record ts m n} : Leads t target → target ∉ path → Offers replies target record →
      Counts replies (path ++ [target]) (walkedTerms record) m → Counts replies path ts n →
      Counts replies path (t :: ts) (1 + m + n)

variable {replies : Query → Reply} {limits : Limits} {follow : Follow} {t u : Term} {ts us : List Term}
  {path path' : List Text} {domain target : Text} {record : Record} {s s' s₁ : WalkState} {m n : Nat}

namespace Counts

theorem append (h : Counts replies path ts m) (h' : Counts replies path us n) :
    Counts replies path (ts ++ us) (m + n) := by
  induction h with
  | nil => simpa using h'
  | free hfree _ ih => exact .free hfree (ih h')
  | plain hcounts hnone _ ih =>
    rw [Nat.add_assoc]
    exact .plain hcounts hnone (ih h')
  | missing hl hfresh hp _ ih =>
    rw [Nat.add_assoc]
    exact .missing hl hfresh hp (ih h')
  | followed hl hfresh hoffers hm _ _ ih =>
    rw [Nat.add_assoc]
    exact .followed hl hfresh hoffers hm (ih h')

theorem uncons (h : Counts replies path (t :: ts) n) :
    ∃ m k, Counts replies path [t] m ∧ Counts replies path ts k ∧ n = m + k := by
  cases h with
  | free hfree h => exact ⟨0, n, .free hfree .nil, h, (Nat.zero_add n).symm⟩
  | plain hcounts hnone h => exact ⟨1, _, .plain hcounts hnone .nil, h, rfl⟩
  | missing hl hfresh hp h => exact ⟨1, _, .missing hl hfresh hp .nil, h, rfl⟩
  | followed hl hfresh hoffers hm h => exact ⟨_, _, .followed hl hfresh hoffers hm .nil, h, rfl⟩

theorem cons (h : Counts replies path [t] m) (h' : Counts replies path ts n) :
    Counts replies path (t :: ts) (m + n) :=
  h.append h'

theorem cut (h : Counts replies path (ts ++ us) n) :
    ∃ m k, Counts replies path ts m ∧ Counts replies path us k ∧ n = m + k := by
  induction ts generalizing n with
  | nil => exact ⟨0, n, .nil, h, (Nat.zero_add n).symm⟩
  | cons t rest ih =>
    obtain ⟨a, b, ht, hrest, rfl⟩ := h.uncons
    obtain ⟨m, k, hm, hk, rfl⟩ := ih hrest
    exact ⟨a + m, k, ht.cons hm, hk, (Nat.add_assoc a m k).symm⟩

theorem sublist (h : Counts replies path us n) (hts : ts.Sublist us) : ∃ m, m ≤ n ∧ Counts replies path ts m := by
  induction hts generalizing n with
  | slnil => exact ⟨n, Nat.le_refl n, h⟩
  | cons u _ ih =>
    obtain ⟨a, b, -, hrest, rfl⟩ := h.uncons
    obtain ⟨m, hm, hcounts⟩ := ih hrest
    exact ⟨m, by omega, hcounts⟩
  | cons_cons u _ ih =>
    obtain ⟨a, b, hu, hrest, rfl⟩ := h.uncons
    obtain ⟨m, hm, hcounts⟩ := ih hrest
    exact ⟨a + m, by omega, hu.cons hcounts⟩

/-- Behind a shorter path as much is counted: no target is on it that was not on the longer one. -/
theorem weaken (h : Counts replies path ts n) (hsub : path' ⊆ path) : Counts replies path' ts n := by
  induction h generalizing path' with
  | nil => exact .nil
  | free hfree _ ih => exact .free hfree (ih hsub)
  | plain hcounts hnone _ ih => exact .plain hcounts hnone (ih hsub)
  | missing hl hfresh hp _ ih => exact .missing hl (fun hmem => hfresh (hsub hmem)) hp (ih hsub)
  | followed hl hfresh hoffers _ _ ihm ih =>
    refine .followed hl (fun hmem => hfresh (hsub hmem)) hoffers (ihm ?_) (ih hsub)
    exact List.append_subset.mpr ⟨List.subset_append_of_subset_left _ hsub, List.subset_append_right _ _⟩

theorem replace (h : Counts replies path [t] n) (hcounts : u.countsLookup = t.countsLookup)
    (hleads : ∀ target, Leads u target ↔ Leads t target) : Counts replies path [u] n := by
  cases h with
  | free hfree h => exact .free (hcounts.trans hfree) h
  | plain hplain hnone h =>
    exact .plain (hcounts.trans hplain) (fun target hl => hnone target ((hleads target).mp hl)) h
  | missing hl hfresh hp h => exact .missing ((hleads _).mpr hl) hfresh hp h
  | followed hl hfresh hoffers hm h => exact .followed ((hleads _).mpr hl) hfresh hoffers hm h

end Counts

/-! What one term does to a walk -/

/-- On the way from one state to the other nothing was counted, and no loop was met. -/
structure Passes (s s' : WalkState) : Prop where
  tally : s'.tally = s.tally
  loopless : s'.Loopless ↔ s.Loopless

theorem Passes.trans (h : Passes s s₁) (h' : Passes s₁ s') : Passes s s' :=
  ⟨h'.tally.trans h.tally, h'.loopless.trans h.loopless⟩

theorem passes_see (s : WalkState) (target : Text) : Passes s { s with seen := target :: s.seen } := ⟨rfl, Iff.rfl⟩

theorem loopless_found (fs : List Finding) :
    WalkState.Loopless { s with findings := s.findings ++ fs } ↔ s.Loopless ∧ ∀ f ∈ fs, ¬ f.IsLoop := by
  simp only [WalkState.Loopless, List.forall_mem_append]

theorem passes_found {fs : List Finding} (h : ∀ f ∈ fs, ¬ f.IsLoop) :
    Passes s { s with findings := s.findings ++ fs } :=
  ⟨rfl, (loopless_found fs).trans (and_iff_left h)⟩

theorem passes_found_one {f : Finding} (h : ¬ f.IsLoop) : Passes s { s with findings := s.findings ++ [f] } :=
  passes_found fun g hg => by rwa [List.mem_singleton.mp hg]

theorem not_isLoop_of_mem_map {α : Type} {l : List α} {make : α → Finding} (h : ∀ a, ¬ (make a).IsLoop) :
    ∀ f ∈ l.map make, ¬ f.IsLoop := by
  intro f hf
  obtain ⟨a, -, rfl⟩ := List.mem_map.mp hf
  exact h a

section
variable (replies : Query → Reply) (follow : Follow) (domain : Text) (path : List Text)

theorem walkTarget_of_not_leads (hk : t.kind = .inclusion ∨ t.kind = .redirect)
    (h : ∀ target, ¬ Leads t target) (s : WalkState) :
    ∃ s', outcome replies (walkTarget follow t domain path) s = (.ok (), s') ∧ Passes s s' := by
  unfold walkTarget
  split
  · exact ⟨s, rfl, rfl, Iff.rfl⟩
  · exact ⟨s, rfl, rfl, Iff.rfl⟩
  · rename_i value hne hv
    split
    · exact ⟨_, rfl, passes_found_one fun ⟨path, hp⟩ => hp.elim nofun nofun⟩
    · rename_i hpercent
      exact absurd ⟨hk, value, hv, hne, by simpa using hpercent, rfl⟩ (h (Domain.normalized value))

theorem walkTarget_of_mem (h : Leads t target) (hmem : target ∈ path) (s : WalkState) :
    ∃ s', outcome replies (walkTarget follow t domain path) s = (.ok (), s') ∧ s'.tally = s.tally ∧ ¬ s'.Loopless := by
  obtain ⟨value, hv, hne, hpercent, rfl⟩ := h.value
  obtain ⟨c, rest, rfl⟩ := List.exists_cons_of_ne_nil hne
  have hcontains : path.contains (Domain.normalized (c :: rest)) = true := List.contains_iff_mem.mpr hmem
  simp only [walkTarget, hv, hpercent, Bool.false_eq_true, if_false, hcontains, if_true, Walk.outcome_find]
  refine ⟨_, rfl, rfl, fun hnone => ?_⟩
  refine ((loopless_found _).mp hnone).2 _ List.mem_cons_self ⟨path ++ [Domain.normalized (c :: rest)], ?_⟩
  split
  · exact .inl rfl
  · exact .inr rfl

theorem walkTarget_of_leads (h : Leads t target) (hfresh : target ∉ path) (s : WalkState) :
    ∃ s', Passes s s' ∧ outcome replies (walkTarget follow t domain path) s =
      outcome replies (enter follow t.kind target path) s' := by
  obtain ⟨value, hv, hne, hpercent, rfl⟩ := h.value
  obtain ⟨c, rest, rfl⟩ := List.exists_cons_of_ne_nil hne
  have hcontains : path.contains (Domain.normalized (c :: rest)) = false := by simpa using hfresh
  simp only [walkTarget, hv, hpercent, Bool.false_eq_true, if_false, hcontains]
  rw [outcome_bind_of_ok (outcome_get replies s)]
  split
  · exact ⟨_, (passes_found_one fun ⟨path, hp⟩ => hp.elim nofun nofun).trans (passes_see _ _), rfl⟩
  · exact ⟨_, passes_see _ _, rfl⟩

theorem enter_of_error {u : Unpublished} (kind : Kind)
    (hp : (published target).value replies = .error u) (s : WalkState) :
    ∃ s', outcome replies (enter follow kind target path) s = (.ok (), s') ∧ Passes s s' := by
  have hfetch := Walk.outcome_fetch replies s target
  rw [hp] at hfetch
  exact ⟨_, outcome_bind_of_ok hfetch, passes_found_one fun ⟨path, hp⟩ => hp.elim nofun nofun⟩

theorem enter_of_fault {publication : Publication} {f : Fault} (kind : Kind)
    (hp : (published target).value replies = .ok publication) (hparse : Record.parse? publication.record = some record)
    (hf : recordFindings record = .error f) (s : WalkState) :
    ∃ s', outcome replies (enter follow kind target path) s = (.error (.fault f), s') := by
  have hfetch := Walk.outcome_fetch replies s target
  rw [hp] at hfetch
  have hwarned := Walk.outcome_findAll replies s (publication.warnings.map fun w => .remark (.size w))
  unfold enter
  rw [outcome_bind_of_ok hfetch, outcome_bind_of_ok hwarned, hparse]
  simp only [hf, outcome_throw]
  exact ⟨_, rfl⟩

theorem enter_of_offers (kind : Kind) (h : Offers replies target record) (s : WalkState) :
    ∃ s', Passes s s' ∧ outcome replies (enter follow kind target path) s =
      outcome replies (follow record target (path ++ [target])) s' := by
  obtain ⟨publication, hp, hparse, findings, hfindings⟩ := h
  have hfetch := Walk.outcome_fetch replies s target
  rw [hp] at hfetch
  have hwarned := Walk.outcome_findAll replies s (publication.warnings.map fun w => .remark (.size w))
  have hquiet : Passes s { s with findings := s.findings ++ publication.warnings.map fun w => .remark (.size w) } :=
    passes_found (not_isLoop_of_mem_map fun w ⟨path, hp⟩ => hp.elim nofun nofun)
  unfold enter
  rw [outcome_bind_of_ok hfetch, outcome_bind_of_ok hwarned, hparse]
  simp only [hfindings]
  split
  · have hbad : ¬ (Finding.fatal (.badTarget target kind)).IsLoop := fun ⟨path, hp⟩ => hp.elim nofun nofun
    have hothers (f : Finding) : ¬ (Finding.remark (.inDomain target f.problem)).IsLoop :=
      fun ⟨path, hp⟩ => hp.elim nofun nofun
    have hmany := not_isLoop_of_mem_map (l := findings) hothers
    exact ⟨_, (hquiet.trans (passes_found_one hbad)).trans (passes_found hmany), rfl⟩
  · exact ⟨_, hquiet, rfl⟩

theorem walkTerm_of_free (limits : Limits) (h : t.countsLookup = false) :
    walkTerm limits follow t domain path = pure () :=
  if_neg (by rw [h]; exact Bool.false_ne_true)

theorem outcome_walkTerm (h : t.countsLookup = true)
    (hwithin : s.tally.lookups + 1 ≤ limits.lookups.toNat) :
    outcome replies (walkTerm limits follow t domain path) s =
      outcome replies (if t.kind = .inclusion ∨ t.kind = .redirect then walkTarget follow t domain path else pure ())
        s.counted := by
  have hcount := Walk.outcome_count replies s limits (Text.phrase [domain, ": ", t.compose])
  rw [if_neg (by omega)] at hcount
  rw [walkTerm, if_pos h, outcome_bind_of_ok hcount]

theorem outcome_walkTerm_over (h : t.countsLookup = true)
    (hover : limits.lookups.toNat < s.tally.lookups + 1) :
    ∃ e, outcome replies (walkTerm limits follow t domain path) s = (.error (.excess e), s.counted) := by
  have hcount := Walk.outcome_count replies s limits (Text.phrase [domain, ": ", t.compose])
  rw [if_pos (by omega)] at hcount
  rw [walkTerm, if_pos h, outcome_bind_of_error hcount]
  exact ⟨_, rfl⟩

end

/-! A walk that ends has counted -/

/-- Between the states the walk has kept its limit; and if no loop was met, it has counted what the terms count. -/
structure Measured (limits : Limits) (replies : Query → Reply) (path : List Text) (ts : List Term)
    (s s' : WalkState) : Prop where
  grows : s.tally.lookups ≤ s'.tally.lookups
  within : s'.tally.lookups ≤ limits.lookups.toNat
  counts : s'.Loopless → s.Loopless ∧ ∃ n, Counts replies path ts n ∧ s'.tally.lookups = s.tally.lookups + n

def Measures (limits : Limits) (replies : Query → Reply) (left : Nat) (path : List Text) (ts : List Term)
    (x : Walk Unit) : Prop :=
  ∀ s s', outcome replies x s = (.ok (), s') → limits.lookups.toNat ≤ s.tally.lookups + left →
    s.tally.lookups ≤ limits.lookups.toNat → Measured limits replies path ts s s'

def Follow.Measures (limits : Limits) (replies : Query → Reply) (left : Nat) (follow : Follow) : Prop :=
  ∀ record domain path, Audit.Measures limits replies left path (walkedTerms record) (follow record domain path)

theorem measured_of_passes (h : Passes s.counted s') (hwithin : s.tally.lookups + 1 ≤ limits.lookups.toNat)
    (ht : Counts replies path [t] 1) : Measured limits replies path [t] s s' := by
  have hlookups : s'.tally.lookups = s.tally.lookups + 1 := congrArg Tally.lookups h.tally
  exact ⟨by omega, by omega, fun hnone => ⟨h.loopless.mp hnone, 1, ht, hlookups⟩⟩

theorem enter_measured {left : Nat} (hf : follow.Measures limits replies left) (hl : Leads t target)
    (hfresh : target ∉ path) (hs : Passes s.counted s₁)
    (h : outcome replies (enter follow t.kind target path) s₁ = (.ok (), s'))
    (hleft : limits.lookups.toNat ≤ s.tally.lookups + 1 + left)
    (hwithin : s.tally.lookups + 1 ≤ limits.lookups.toNat) : Measured limits replies path [t] s s' := by
  cases hp : (published target).value replies with
  | error u =>
    obtain ⟨s₂, h₂, hpasses⟩ := enter_of_error replies follow path t.kind hp s₁
    cases h.symm.trans h₂
    exact measured_of_passes (hs.trans hpasses) hwithin (.missing hl hfresh hp .nil)
  | ok publication =>
    obtain ⟨record, hrecord⟩ := exists_record hp
    cases hfindings : recordFindings record with
    | error f =>
      obtain ⟨s₂, hfault⟩ := enter_of_fault replies follow path t.kind hp hrecord hfindings s₁
      cases h.symm.trans hfault
    | ok findings =>
      have hoffers : Offers replies target record := ⟨publication, hp, hrecord, findings, hfindings⟩
      obtain ⟨s₂, hpasses, hsame⟩ := enter_of_offers replies follow path t.kind hoffers s₁
      have hpasses := hs.trans hpasses
      have hlookups : s₂.tally.lookups = s.tally.lookups + 1 := congrArg Tally.lookups hpasses.tally
      obtain ⟨hgrows, hle, hcounts⟩ := hf record target _ s₂ s' (hsame ▸ h) (by omega) (by omega)
      refine ⟨by omega, hle, fun hnone => ?_⟩
      obtain ⟨hnone, n, hn, hsum⟩ := hcounts hnone
      exact ⟨hpasses.loopless.mp hnone, 1 + n, .followed hl hfresh hoffers hn .nil, by omega⟩

theorem walkTarget_measured {left : Nat} (hf : follow.Measures limits replies left)
    (hk : t.kind = .inclusion ∨ t.kind = .redirect)
    (h : outcome replies (walkTarget follow t domain path) s.counted = (.ok (), s'))
    (hleft : limits.lookups.toNat ≤ s.tally.lookups + 1 + left)
    (hwithin : s.tally.lookups + 1 ≤ limits.lookups.toNat) : Measured limits replies path [t] s s' := by
  by_cases hleads : ∃ target, Leads t target
  · obtain ⟨target, hl⟩ := hleads
    by_cases hmem : target ∈ path
    · obtain ⟨s₁, h₁, htally, hloop⟩ := walkTarget_of_mem replies follow domain path hl hmem s.counted
      cases h.symm.trans h₁
      have hlookups : s'.tally.lookups = s.tally.lookups + 1 := congrArg Tally.lookups htally
      exact ⟨by omega, by omega, fun hnone => absurd hnone hloop⟩
    · obtain ⟨s₁, hpasses, hsame⟩ := walkTarget_of_leads replies follow domain path hl hmem s.counted
      exact enter_measured hf hl hmem hpasses (hsame ▸ h) hleft hwithin
  · have hnone (target : Text) (hl : Leads t target) : False := hleads ⟨target, hl⟩
    obtain ⟨s₁, h₁, hpasses⟩ := walkTarget_of_not_leads replies follow domain path hk hnone s.counted
    cases h.symm.trans h₁
    have hcounts : t.countsLookup = true := by rcases hk with hk | hk <;> rw [Term.countsLookup, hk] <;> rfl
    exact measured_of_passes hpasses hwithin (.plain hcounts hnone .nil)

/-- With no lookups left nothing is followed, for the next count goes over the limit. -/
theorem walkTerm_measures {left : Nat} (hf : ∀ below, left = below + 1 → follow.Measures limits replies below)
    (t : Term) : Measures limits replies left path [t] (walkTerm limits follow t domain path) := by
  intro s s' h hleft hwithin
  by_cases hcounts : t.countsLookup = true
  · by_cases hnext : s.tally.lookups + 1 ≤ limits.lookups.toNat
    · rw [outcome_walkTerm replies follow domain path hcounts hnext] at h
      split at h
      · rename_i hk
        obtain ⟨below, rfl⟩ : ∃ below, left = below + 1 := Nat.exists_eq_succ_of_ne_zero (by omega)
        exact walkTarget_measured (hf below rfl) hk h (by omega) hnext
      · rename_i hk
        cases h
        exact measured_of_passes ⟨rfl, Iff.rfl⟩ hnext (.plain hcounts (fun target hl => hk hl.kind) .nil)
    · obtain ⟨e, hover⟩ := outcome_walkTerm_over replies follow domain path hcounts (Nat.lt_of_not_le hnext)
      cases h.symm.trans hover
  · have hfree : t.countsLookup = false := by simpa using hcounts
    rw [walkTerm_of_free follow domain path limits hfree] at h
    cases h
    exact ⟨Nat.le_refl _, hwithin, fun hnone => ⟨hnone, 0, .free hfree .nil, rfl⟩⟩

theorem walkTerms_measures {left : Nat} (hf : ∀ below, left = below + 1 → follow.Measures limits replies below)
    (ts : List Term) : Measures limits replies left path ts (walkTerms limits follow domain path ts) := by
  induction ts with
  | nil =>
    intro s s' h _ hwithin
    cases h
    exact ⟨Nat.le_refl _, hwithin, fun hnone => ⟨hnone, 0, .nil, rfl⟩⟩
  | cons t rest ih =>
    intro s s' h hleft hwithin
    obtain ⟨u, s₁, h₁, h₂⟩ := bind_eq_ok h
    have hfirst := walkTerm_measures hf t s s₁ h₁ hleft hwithin
    have hgrows := hfirst.grows
    have hothers := ih s₁ s' h₂ (by omega) hfirst.within
    refine ⟨Nat.le_trans hgrows hothers.grows, hothers.within, fun hnone => ?_⟩
    obtain ⟨hnone₁, n, hn, hsum⟩ := hothers.counts hnone
    obtain ⟨hnone, m, hm, hsum₁⟩ := hfirst.counts hnone₁
    exact ⟨hnone, m + n, hm.cons hn, by omega⟩

theorem walk_measures (left : Nat) : Follow.Measures limits replies left (walk limits left) := by
  induction left with
  | zero =>
    refine fun record domain path => walkTerms_measures (fun below h => ?_) _
    cases h
  | succ left ih =>
    refine fun record domain path => walkTerms_measures (fun below h => ?_) _
    cases h
    exact ih

/-! A walk whose limit leaves enough ends -/

/-- The step comes to its end with so many lookups more, and without a loop. -/
def Completes (replies : Query → Reply) (x : Walk Unit) (s : WalkState) (n : Nat) : Prop :=
  ∃ s', outcome replies x s = (.ok (), s') ∧ s'.tally.lookups = s.tally.lookups + n ∧ (s.Loopless → s'.Loopless)

theorem Completes.cons {x y : Walk Unit} (h : Completes replies x s m)
    (hy : ∀ s', s'.tally.lookups = s.tally.lookups + m → Completes replies y s' n) :
    Completes replies (x >>= fun _ => y) s (m + n) := by
  obtain ⟨s₁, h₁, hm, hnone₁⟩ := h
  obtain ⟨s', h', hn, hnone'⟩ := hy s₁ hm
  exact ⟨s', (outcome_bind_of_ok h₁).trans h', by omega, fun hnone => hnone' (hnone₁ hnone)⟩

section
variable (replies : Query → Reply) (follow : Follow) (domain : Text) (path : List Text)

theorem exists_entered (hl : Leads t target) (hfresh : target ∉ path)
    (hwithin : s.tally.lookups + 1 ≤ limits.lookups.toNat) :
    ∃ s₁, Passes s.counted s₁ ∧ outcome replies (walkTerm limits follow t domain path) s =
      outcome replies (enter follow t.kind target path) s₁ := by
  rw [outcome_walkTerm replies follow domain path hl.countsLookup hwithin, if_pos hl.kind]
  exact walkTarget_of_leads replies follow domain path hl hfresh s.counted

theorem completes_of_passes {x : Walk Unit} (h : outcome replies x s = (.ok (), s')) (hs : Passes s.counted s') :
    Completes replies x s 1 :=
  ⟨s', h, congrArg Tally.lookups hs.tally, hs.loopless.mpr⟩

theorem completes_of_not_leads (h : t.countsLookup = true) (hnone : ∀ target, ¬ Leads t target)
    (hwithin : s.tally.lookups + 1 ≤ limits.lookups.toNat) :
    Completes replies (walkTerm limits follow t domain path) s 1 := by
  have hsame := outcome_walkTerm replies follow domain path h hwithin
  split at hsame
  · rename_i hk
    obtain ⟨s', h', hpasses⟩ := walkTarget_of_not_leads replies follow domain path hk hnone s.counted
    exact completes_of_passes replies (hsame.trans h') hpasses
  · exact completes_of_passes replies hsame ⟨rfl, Iff.rfl⟩

end

theorem Counts.completes (h : Counts replies path ts n) (left : Nat) (domain : Text)
    (hleft : limits.lookups.toNat ≤ s.tally.lookups + left) (hwithin : s.tally.lookups + n ≤ limits.lookups.toNat) :
    Completes replies (walkTerms limits (beneath limits left) domain path ts) s n := by
  -- Each step keeps the limit, and leaves enough of it for what stands behind the step.
  induction h generalizing left domain s with
  | nil => exact ⟨s, rfl, rfl, id⟩
  | @free path t ts n hfree _ ih =>
    have hfirst : Completes replies (walkTerm limits (beneath limits left) t domain path) s 0 := by
      rw [walkTerm_of_free _ domain path limits hfree]
      exact ⟨s, rfl, rfl, id⟩
    rw [← Nat.zero_add n]
    exact hfirst.cons fun s' hs' => ih left domain (by omega) (by omega)
  | @plain path t ts n hcounts hnone _ ih =>
    have hnext : s.tally.lookups + 1 ≤ limits.lookups.toNat := by omega
    have hfirst := completes_of_not_leads replies (beneath limits left) domain path hcounts hnone hnext
    exact hfirst.cons fun s' hs' => ih left domain (by omega) (by omega)
  | @missing path t target u ts n hl hfresh hp _ ih =>
    have hnext : s.tally.lookups + 1 ≤ limits.lookups.toNat := by omega
    obtain ⟨s₁, hentered, hsame⟩ := exists_entered replies (beneath limits left) domain path hl hfresh hnext
    obtain ⟨s₂, h₂, hpasses⟩ := enter_of_error replies (beneath limits left) path t.kind hp s₁
    have hfirst := completes_of_passes replies (hsame.trans h₂) (hentered.trans hpasses)
    exact hfirst.cons fun s' hs' => ih left domain (by omega) (by omega)
  | @followed path t target record ts m n hl hfresh hoffers _ _ ihm ih =>
    obtain ⟨below, rfl⟩ : ∃ below, left = below + 1 := Nat.exists_eq_succ_of_ne_zero (by omega)
    have hnext : s.tally.lookups + 1 ≤ limits.lookups.toNat := by omega
    obtain ⟨s₁, hentered, hsame⟩ := exists_entered replies (walk limits below) domain path hl hfresh hnext
    obtain ⟨s₂, hpasses, hfollowed⟩ := enter_of_offers replies (walk limits below) path t.kind hoffers s₁
    have hpasses := hentered.trans hpasses
    have hlookups : s₂.tally.lookups = s.tally.lookups + 1 := congrArg Tally.lookups hpasses.tally
    obtain ⟨s₃, h₃, hm, hnone⟩ := ihm (s := s₂) below target (by omega) (by omega)
    rw [← walk_eq_walkTerms] at h₃
    have hfirst : Completes replies (walkTerm limits (walk limits below) t domain path) s (1 + m) :=
      ⟨s₃, (hsame.trans hfollowed).trans h₃, by omega, fun h => hnone (hpasses.loopless.mpr h)⟩
    exact hfirst.cons fun s' hs' => ih (below + 1) domain (by omega) (by omega)

/-! The whole audit -/

theorem loopless_of_recordFindings {findings : List Finding} (h : recordFindings record = .ok findings) :
    WalkState.Loopless { findings } := by
  rintro f hf ⟨path, hloop | hloop⟩
  · exact absurd (recordFindings_own h f hf) (by rw [hloop]; exact Bool.false_ne_true)
  · exact absurd (recordFindings_own h f hf) (by rw [hloop]; exact Bool.false_ne_true)

theorem auditContent_counts {text : Text} {a : Assessment} (hparse : Record.parse? text = some record)
    (ha : (auditContent limits text domain).value replies = .ok a)
    (hnone : ∀ f ∈ a.findings, ¬ f.IsExcess ∧ ¬ f.IsLoop) :
    ∃ n, Counts replies [Domain.normalized domain] (walkedTerms record) n ∧ a.lookups = some n ∧
      n ≤ limits.lookups.toNat := by
  cases hfindings : recordFindings record with
  | error f =>
    simp only [auditContent, hparse, hfindings] at ha
    cases ha
  | ok findings =>
    rw [auditContent_value hparse hfindings] at ha
    cases hwalk : outcome replies (walk limits limits.lookups.toNat record (Domain.normalized domain)
        [Domain.normalized domain]) { findings } with
    | mk o s =>
      rw [hwalk] at ha
      cases o with
      | error stop =>
        cases stop with
        | fault f => cases ha
        | excess e =>
          cases ha
          exact absurd ⟨e, rfl⟩ (hnone _ (List.mem_append_right _ List.mem_cons_self)).1
      | ok u =>
        cases ha
        obtain ⟨-, hwithin, hcounts⟩ := walk_measures limits.lookups.toNat record _ _ _ _ hwalk
          (Nat.le_add_left _ _) (Nat.zero_le _)
        obtain ⟨-, n, hn, hsum⟩ := hcounts fun f hf => (hnone f hf).2
        rw [Nat.zero_add] at hsum
        exact ⟨n, hn, congrArg some hsum, hsum ▸ hwithin⟩

theorem auditContent_of_counts {text : Text} {findings : List Finding} (hparse : Record.parse? text = some record)
    (hfindings : recordFindings record = .ok findings)
    (hcounts : Counts replies [Domain.normalized domain] (walkedTerms record) n) (hn : n ≤ limits.lookups.toNat) :
    ∃ a, (auditContent limits text domain).value replies = .ok a ∧ a.lookups = some n ∧
      ∀ f ∈ a.findings, ¬ f.IsExcess ∧ ¬ f.IsLoop := by
  let start : WalkState := { findings }
  have hstart : start.tally.lookups + n ≤ limits.lookups.toNat := (Nat.zero_add n).symm ▸ hn
  obtain ⟨s, hs, hlookups, hloopless⟩ := hcounts.completes limits.lookups.toNat (Domain.normalized domain)
    (Nat.le_add_left _ start.tally.lookups) hstart
  rw [← walk_eq_walkTerms] at hs
  have hadds : Adds replies (walk limits limits.lookups.toNat record (Domain.normalized domain)
      [Domain.normalized domain]) := walk_adds limits _ record _ _
  obtain ⟨more, hmore, hwithin⟩ := hadds start
  rw [hs] at hmore
  refine ⟨{ findings := s.findings, lookups := some s.tally.lookups }, ?_, ?_, fun f hf => ⟨?_, ?_⟩⟩
  · rw [auditContent_value hparse hfindings, hs]
    rfl
  · rw [hlookups]
    exact congrArg some (Nat.zero_add n)
  · rw [hmore] at hf
    exact (List.mem_append.mp hf).elim (recordFindings_not_excess hfindings f) (hwithin f)
  · exact hloopless (loopless_of_recordFindings hfindings) f hf

end SenderPolicy.Audit
