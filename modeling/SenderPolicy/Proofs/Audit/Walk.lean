import SenderPolicy.Proofs.Audit.Cost
import SenderPolicy.Proofs.Dns.Outcome
import SenderPolicy.Proofs.Record.Reading

/-!
What an audit reveals. A walk that ends with nothing amiss has counted the cost of the terms that it walked:
whatever it found on its way was found in the end, too, and so the records it went through are valid.
-/
namespace SenderPolicy.Audit
open Dns Dns.Work
variable {α β : Type} {limits : Limits} {replies : Query → Reply} {k : Nat} {follow : Follow} {t : Term}

def WalkState.counted (s : WalkState) : WalkState :=
  { s with tally := { s.tally with lookups := s.tally.lookups + 1 } }

@[simp] theorem WalkState.counted_lookups (s : WalkState) :
    s.counted.tally.lookups = s.tally.lookups + 1 := rfl

@[simp] theorem WalkState.counted_findings (s : WalkState) : s.counted.findings = s.findings := rfl

namespace Walk

theorem run_count (limits : Limits) (term : Text) (s : WalkState) :
    (count limits term).run.run s =
      pure (if limits.lookups < (s.tally.lookups + 1 : Nat) then
          .error (.excess (.lookups (s.tally.lookups + 1) limits.lookups term))
        else .ok (), s.counted) := by
  simp only [count, Tally.count, run_bind, run_get, run_modify, pure_bind]
  by_cases hover : limits.lookups < (s.tally.lookups + 1 : Nat)
  · simp only [if_pos hover, run_throw, WalkState.counted]
  · simp only [if_neg hover, run_pure, WalkState.counted]

variable (replies : Query → Reply) (s : WalkState)

theorem outcome_count (limits : Limits) (term : Text) :
    outcome replies (count limits term) s =
      (if limits.lookups < (s.tally.lookups + 1 : Nat) then
          .error (.excess (.lookups (s.tally.lookups + 1) limits.lookups term))
        else .ok (), s.counted) := by
  rw [outcome, run_count]
  rfl

@[simp] theorem outcome_findAll (fs : List Finding) :
    outcome replies (findAll fs) s = (.ok (), { s with findings := s.findings ++ fs }) := rfl

@[simp] theorem outcome_find (f : Finding) :
    outcome replies (find f) s = (.ok (), { s with findings := s.findings ++ [f] }) := rfl

@[simp] theorem outcome_fetch (domain : Text) :
    outcome replies (fetch domain) s = (.ok ((published domain).value replies), s) :=
  outcome_ofPlan replies (published domain) s

end Walk

/-- The finding is not fatal, and it tells of no target that was left out for its macros. -/
def Finding.Harmless (f : Finding) : Prop :=
  f.isFatal = false ∧ ∀ domain term, f.problem ≠ .macroTarget domain term

def WalkState.Quiet (s : WalkState) : Prop := ∀ f ∈ s.findings, f.Harmless

/-- Where so many lookups have been counted, and no more than allowed: if the walk goes on, no more than
allowed are counted then, and if nothing is amiss then, nothing was before, and the condition holds of the
number of lookups between. -/
def Reveals (limits : Limits) (replies : Query → Reply) (k : Nat) (x : Walk α) (post : α → Nat → Prop) :
    Prop :=
  ∀ s a s', outcome replies x s = (.ok a, s') → k ≤ s.tally.lookups →
    s.tally.lookups ≤ limits.lookups.toNat → s'.tally.lookups ≤ limits.lookups.toNat ∧
      ∃ n, s'.tally.lookups = s.tally.lookups + n ∧ (s'.Quiet → s.Quiet ∧ post a n)

namespace Reveals
variable {post : α → Nat → Prop}

theorem mono {post' : α → Nat → Prop} {x : Walk α} (h : Reveals limits replies k x post)
    (hp : ∀ a n, post a n → post' a n) : Reveals limits replies k x post' := by
  intro s a s' hx hk hl
  obtain ⟨hl', n, hn, hq⟩ := h s a s' hx hk hl
  exact ⟨hl', n, hn, fun hs' => ⟨(hq hs').1, hp a n (hq hs').2⟩⟩

theorem of_kept {x : Walk α} (h : ∀ s a s', outcome replies x s = (.ok a, s') →
    s'.tally = s.tally ∧ (s'.Quiet → s.Quiet ∧ post a 0)) : Reveals limits replies k x post := by
  intro s a s' hx _ hl
  obtain ⟨ht, hs⟩ := h s a s' hx
  rw [ht]
  exact ⟨hl, 0, rfl, hs⟩

theorem pure {a : α} (h : post a 0) : Reveals limits replies k (pure a : Walk α) post := by
  refine of_kept fun s b s' hx => ?_
  cases hx
  exact ⟨rfl, fun hq => ⟨hq, h⟩⟩

theorem throw (e : WalkStop) : Reveals limits replies k (throw e : Walk α) post :=
  of_kept fun _ _ _ hx => nomatch hx

theorem get {post : WalkState → Nat → Prop} (h : ∀ s, post s 0) :
    Reveals limits replies k (get : Walk WalkState) post := by
  refine of_kept fun s b s' hx => ?_
  cases hx
  exact ⟨rfl, fun hq => ⟨hq, h s⟩⟩

theorem see {post : Unit → Nat → Prop} (h : post () 0) (target : Text) :
    Reveals limits replies k (modify fun s => { s with seen := target :: s.seen } : Walk Unit) post := by
  refine of_kept fun s b s' hx => ?_
  cases hx
  exact ⟨rfl, fun hq => ⟨hq, h⟩⟩

theorem findAll {post : Unit → Nat → Prop} {fs : List Finding}
    (h : (∀ f ∈ fs, f.Harmless) → post () 0) : Reveals limits replies k (Walk.findAll fs) post := by
  refine of_kept fun s b s' hx => ?_
  cases hx
  refine ⟨rfl, fun hq => ⟨fun f hf => hq f (List.mem_append_left _ hf), h fun f hf => ?_⟩⟩
  exact hq f (List.mem_append_right _ hf)

theorem find {post : Unit → Nat → Prop} {f : Finding} (h : f.Harmless → post () 0) :
    Reveals limits replies k (Walk.find f) post :=
  findAll fun hf => h (hf f List.mem_cons_self)

theorem fetch {post : Except Unpublished Publication → Nat → Prop} {domain : Text}
    (h : post ((published domain).value replies) 0) :
    Reveals limits replies k (Walk.fetch domain) post := by
  refine of_kept fun s b s' hx => ?_
  rw [Walk.outcome_fetch] at hx
  cases hx
  exact ⟨rfl, fun hq => ⟨hq, h⟩⟩

theorem bind {post' : β → Nat → Prop} {x : Walk α} {f : α → Walk β}
    (h : Reveals limits replies k x post)
    (hf : ∀ a m, Reveals limits replies k (f a) fun b n => post a m → post' b (m + n)) :
    Reveals limits replies k (x >>= f) post' := by
  intro s b s' hx hk hl
  obtain ⟨a, s₁, h₁, h₂⟩ := bind_eq_ok hx
  obtain ⟨hl₁, m, hm, hq₁⟩ := h s a s₁ h₁ hk hl
  obtain ⟨hl', n, hn, hq⟩ := hf a m s₁ b s' h₂ (by omega) hl₁
  refine ⟨hl', m + n, by omega, fun hs' => ?_⟩
  obtain ⟨hs₁, hpost⟩ := hq hs'
  exact ⟨(hq₁ hs₁).1, hpost (hq₁ hs₁).2⟩

theorem behind {post' : β → Nat → Prop} {x : Walk α} {f : α → Walk β}
    (h : Reveals limits replies k x fun _ n => n = 0)
    (hf : ∀ a, Reveals limits replies k (f a) post') : Reveals limits replies k (x >>= f) post' := by
  refine h.bind fun a m => (hf a).mono fun b n hn => ?_
  rintro rfl
  rwa [Nat.zero_add]

theorem counted {f : Unit → Walk α} {term : Text}
    (h : k < limits.lookups.toNat → Reveals limits replies (k + 1) (f ()) fun a n => post a (1 + n)) :
    Reveals limits replies k (Walk.count limits term >>= f) post := by
  intro s a s' hx hk _
  obtain ⟨u, s₁, h₁, h₂⟩ := bind_eq_ok hx
  rw [Walk.outcome_count] at h₁
  obtain ⟨h₁, rfl⟩ := Prod.mk.inj h₁
  split at h₁
  · cases h₁
  · rename_i hwithin
    obtain ⟨hl', n, hn, hq⟩ := h (by omega) _ a s' h₂ (Nat.succ_le_succ hk)
      (by rw [WalkState.counted_lookups]; omega)
    rw [WalkState.counted_lookups] at hn
    exact ⟨hl', 1 + n, by omega, hq⟩

end Reveals

def FollowReveals (limits : Limits) (replies : Query → Reply) (k : Nat) (follow : Follow) : Prop :=
  ∀ record domain path, Reveals limits replies k (follow record domain path)
    fun _ n => IsValid record → Costs replies (walkedTerms record) n

theorem isValid_of_harmless {r : Record} {findings : List Finding} (h : recordFindings r = .ok findings)
    (hf : ¬ findings.any (·.isFatal)) : IsValid r :=
  ⟨findings, h, fun f hm => by simpa using fun hfatal => hf (List.any_eq_true.mpr ⟨f, hm, hfatal⟩)⟩

theorem exists_record {domain : Text} {publication : Publication}
    (h : (published domain).value replies = .ok publication) :
    ∃ record, Record.parse? publication.record = some record :=
  Record.exists_parse? (Publication.isRecord_of_ofAnswer h)

theorem enter_reveals (hf : FollowReveals limits replies k follow) (kind : Kind) (target : Text)
    (path : List Text) :
    Reveals limits replies k (enter follow kind target path) fun _ n => Reached replies target n := by
  have hfetch : Reveals limits replies k (Walk.fetch target)
      fun fetched n => fetched = (published target).value replies ∧ n = 0 := Reveals.fetch ⟨rfl, rfl⟩
  refine hfetch.bind fun fetched m => ?_
  cases fetched with
  | error u =>
    refine Reveals.find fun hharmless => ?_
    rintro ⟨hu, rfl⟩
    refine .lacking ⟨u, hu.symm, fun hperm => ?_⟩
    exact absurd hharmless.1 (by simp [hperm])
  | ok publication =>
    refine Reveals.behind (Reveals.findAll fun _ => rfl) fun _ => ?_
    cases hr : Record.parse? publication.record with
    | none =>
      refine Reveals.pure ?_
      rintro ⟨hp, hm⟩
      obtain ⟨record, hrecord⟩ := exists_record hp.symm
      rw [hr] at hrecord
      cases hrecord
    | some record =>
      dsimp only
      cases hfs : recordFindings record with
      | error f => exact Reveals.throw _
      | ok findings =>
        dsimp only
        split
        · -- a record that is not valid is walked on all the same, behind a finding that is fatal
          have hbad : Reveals limits replies k (Walk.find (.fatal (.badTarget target kind)))
              fun _ _ => False := Reveals.find fun h => nomatch h.1
          refine hbad.bind fun _ _ => Reveals.behind (Reveals.findAll fun _ => rfl) fun _ => ?_
          exact (hf record target _).mono fun _ _ _ hfalse => hfalse.elim
        · rename_i hnone
          refine (hf record target _).mono fun _ n hn => ?_
          rintro ⟨hp, rfl⟩
          have hvalid : IsValid record := isValid_of_harmless hfs hnone
          rw [Nat.zero_add]
          exact .followed ⟨publication, hp.symm, hr, hvalid⟩ (hn hvalid)

theorem walkTarget_reveals (hf : FollowReveals limits replies k follow)
    (hk : t.kind = .inclusion ∨ t.kind = .redirect) (domain : Text) (path : List Text) :
    Reveals limits replies k (walkTarget follow t domain path)
      fun _ n => checkTerm t = .ok () → ∃ target, Leads t target ∧ Reached replies target n := by
  unfold walkTarget
  split
  · rename_i hnone
    refine Reveals.pure fun ht => ?_
    obtain ⟨value, hv, -⟩ := exists_value ht hk
    rw [hnone] at hv
    cases hv
  · rename_i hnil
    refine Reveals.pure fun ht => ?_
    obtain ⟨value, hv, hne⟩ := exists_value ht hk
    exact absurd (Option.some.inj (hv.symm.trans hnil)) hne
  · rename_i value hne hv
    split
    · exact Reveals.find fun h => absurd rfl (h.2 domain t.compose)
    · rename_i hpercent
      have hl : Leads t (Domain.normalized value) :=
        ⟨hk, value, hv, hne, by simpa using hpercent, rfl⟩
      dsimp only
      split
      · exact Reveals.find fun h => nomatch h.1
      · have hrest : Reveals limits replies k
            (do modify fun s => { s with seen := Domain.normalized value :: s.seen }
                enter follow t.kind (Domain.normalized value) path)
            fun _ n => checkTerm t = .ok () → ∃ target, Leads t target ∧ Reached replies target n := by
          refine (Reveals.see rfl _).behind fun _ => ?_
          exact (enter_reveals hf t.kind _ path).mono fun _ n hn _ => ⟨_, hl, hn⟩
        refine Reveals.behind (Reveals.get fun _ => rfl) fun _ => ?_
        split
        · exact (Reveals.find fun _ => rfl).behind fun _ => hrest
        · exact hrest

theorem walkTerm_reveals (hf : k < limits.lookups.toNat → FollowReveals limits replies (k + 1) follow)
    (t : Term) (domain : Text) (path : List Text) :
    Reveals limits replies k (walkTerm limits follow t domain path)
      fun _ n => checkTerm t = .ok () → Costs replies [t] n := by
  unfold walkTerm
  split
  · rename_i hcounts
    refine Reveals.counted fun hk => ?_
    split
    · rename_i hleads
      refine (walkTarget_reveals (hf hk) hleads domain path).mono fun _ n hn ht => ?_
      obtain ⟨target, hl, hreached⟩ := hn ht
      exact .leads hl hreached .nil
    · rename_i hplain
      refine Reveals.pure fun _ => ?_
      exact .plain hcounts (fun h => hplain (.inl h)) (fun h => hplain (.inr h)) .nil
  · rename_i hfree
    exact Reveals.pure fun _ => .free (by simpa using hfree) .nil

theorem walkTerms_reveals (hf : k < limits.lookups.toNat → FollowReveals limits replies (k + 1) follow)
    (domain : Text) (path : List Text) (ts : List Term) :
    Reveals limits replies k (walkTerms limits follow domain path ts)
      fun _ n => (∀ t ∈ ts, checkTerm t = .ok ()) → Costs replies ts n := by
  induction ts with
  | nil => exact Reveals.pure fun _ => .nil
  | cons t rest ih =>
    refine (walkTerm_reveals hf t domain path).bind fun _ m => ih.mono fun _ n hn ht hall => ?_
    have hcost := ht (hall t List.mem_cons_self)
    exact hcost.append (hn fun u hu => hall u (List.mem_cons_of_mem t hu))

theorem mem_walkedTerms {r : Record} (h : t ∈ walkedTerms r) : t ∈ r.terms := by
  rcases List.mem_append.mp h with h | h
  · exact (List.mem_filter.mp h).1
  · split at h
    · cases h
    · exact List.mem_of_find?_eq_some (Option.mem_toList.mp h)

/-- The walk of a record reveals what its terms cost. -/
theorem walk_reveals (left : Nat) (hk : limits.lookups.toNat ≤ k + left) :
    FollowReveals limits replies k (walk limits left) := by
  induction left generalizing k with
  | zero =>
    intro record domain path
    refine (walkTerms_reveals (fun h => ?_) domain path _).mono fun _ n hn hvalid => ?_
    · -- with no lookups left no count is allowed, so that nothing is followed
      omega
    · exact hn fun t ht => hvalid.checkTerm t (mem_walkedTerms ht)
  | succ left ih =>
    intro record domain path
    refine (walkTerms_reveals (fun _ => ?_) domain path _).mono fun _ n hn hvalid => ?_
    · exact ih (by omega)
    · exact hn fun t ht => hvalid.checkTerm t (mem_walkedTerms ht)

/-- An assessment that finds the policy valid, with nothing left out for its macros. -/
structure Assessment.Clean (a : Assessment) : Prop where
  valid : a.isValid
  followed : ∀ f ∈ a.findings, ∀ domain term, f.problem ≠ .macroTarget domain term

theorem Assessment.Clean.harmless {a : Assessment} (h : a.Clean) : ∀ f ∈ a.findings, f.Harmless :=
  fun f hf => ⟨by simpa using List.all_eq_true.mp h.valid f hf, h.followed f hf⟩

theorem auditContent_costs {text domain : Text} {a : Assessment} {record : Record}
    (hparse : Record.parse? text = some record)
    (ha : (auditContent limits text domain).value replies = .ok a) (hclean : ∀ f ∈ a.findings, f.Harmless) :
    IsValid record ∧ ∃ n, Costs replies (walkedTerms record) n ∧ a.lookups = some n ∧
      n ≤ limits.lookups.toNat := by
  unfold auditContent at ha
  simp only [hparse] at ha
  cases hfs : recordFindings record with
  | error f => rw [hfs] at ha; cases ha
  | ok findings =>
    simp only [hfs, Plan.value_bind] at ha
    cases hwalk : ((walk limits limits.lookups.toNat record (Domain.normalized domain)
        [Domain.normalized domain]).run.run { findings }).value replies with
    | mk o s =>
      rw [hwalk] at ha
      cases o with
      | error stop =>
        cases stop with
        | fault f => cases ha
        | excess e =>
          cases ha
          exact nomatch (hclean (.fatal (.excess e)) (by simp)).1
      | ok u =>
        cases ha
        obtain ⟨hl, n, hn, hq⟩ := walk_reveals (k := 0) limits.lookups.toNat (by omega) record _ _
          { findings } () s hwalk (Nat.le_refl 0) (Nat.zero_le _)
        obtain ⟨hstart, hcost⟩ := hq hclean
        have hvalid : IsValid record := ⟨findings, hfs, fun f hf => (hstart f hf).1⟩
        simp only [Nat.zero_add] at hn
        exact ⟨hvalid, n, hcost hvalid, by rw [hn], hn ▸ hl⟩

/-- A domain that is found valid publishes a valid record, and the lookups that were counted are the cost
of its terms. -/
theorem auditDomain_costs {domain : Text} {a : Assessment}
    (ha : (auditDomain limits domain).value replies = .ok a) (hclean : a.Clean) :
    ∃ record n, Publishes replies (Domain.normalized domain) record ∧
      Costs replies (walkedTerms record) n ∧ a.lookups = some n ∧ n ≤ limits.lookups.toNat := by
  have hharmless := hclean.harmless
  simp only [auditDomain, Plan.value_bind] at ha
  cases hp : (published (Domain.normalized domain)).value replies with
  | error u =>
    rw [hp] at ha
    cases ha
    exact nomatch (hharmless _ List.mem_cons_self).1
  | ok publication =>
    simp only [hp, Plan.value_bind] at ha
    obtain ⟨record, hrecord⟩ := exists_record hp
    cases hc : (auditContent limits publication.record (Domain.normalized domain)).value replies with
    | error f => rw [hc] at ha; cases ha
    | ok c =>
      rw [hc] at ha
      cases ha
      obtain ⟨hvalid, n, hcost, hn, hl⟩ := auditContent_costs hrecord hc
        fun f hf => hharmless f (List.mem_append_right _ hf)
      exact ⟨record, n, ⟨publication, hp, hrecord, hvalid⟩, hcost, hn, hl⟩

end SenderPolicy.Audit
