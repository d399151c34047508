import SenderPolicy.Proofs.Audit.Congruence

/-!
A limit cuts a walk off, and does nothing else. What has been found until then is found under every higher limit; and
where the limit is kept, nothing differs.
-/
namespace SenderPolicy.Audit
open Dns Dns.Work
variable {α β : Type} {replies : Query → Reply} {limits limits' : Limits} {record : Record}

/-! Findings are only added -/

def Adds (replies : Query → Reply) (x : Walk α) : Prop :=
  ∀ s, ∃ more, (outcome replies x s).2.findings = s.findings ++ more ∧ ∀ f ∈ more, ¬ f.IsExcess

namespace Adds

theorem of_kept {x : Walk α} (h : ∀ s, (outcome replies x s).2.findings = s.findings) : Adds replies x :=
  fun s => ⟨[], by rw [h, List.append_nil], fun _ hf => nomatch hf⟩

theorem bind {x : Walk α} {f : α → Walk β} (h : Adds replies x) (hf : ∀ a, Adds replies (f a)) :
    Adds replies (x >>= f) := by
  intro s
  obtain ⟨more, hmore, hnone⟩ := h s
  cases hx : outcome replies x s with
  | mk o s' =>
    rw [hx] at hmore
    cases o with
    | error e => exact ⟨more, by rw [outcome_bind_of_error hx, hmore], hnone⟩
    | ok a =>
      obtain ⟨more', hmore', hnone'⟩ := hf a s'
      refine ⟨more ++ more', ?_, fun f hfm => ?_⟩
      · rw [outcome_bind_of_ok hx, hmore', hmore, List.append_assoc]
      · exact (List.mem_append.mp hfm).elim (hnone f) (hnone' f)

theorem isPrefix {x : Walk α} (h : Adds replies x) (s : WalkState) :
    s.findings <+: (outcome replies x s).2.findings := by
  obtain ⟨more, hmore, -⟩ := h s
  exact ⟨more, hmore.symm⟩

theorem findAll {fs : List Finding} (h : ∀ f ∈ fs, ¬ f.IsExcess) : Adds replies (Walk.findAll fs) :=
  fun _ => ⟨fs, rfl, h⟩

theorem count (limits : Limits) (term : Text) : Adds replies (Walk.count limits term) :=
  of_kept fun s => by rw [Walk.outcome_count, WalkState.counted_findings]

theorem fetch (domain : Text) : Adds replies (Walk.fetch domain) :=
  of_kept fun s => by rw [Walk.outcome_fetch]

end Adds

def adding (replies : Query → Reply) (limits : Limits) : Walk.Congruence limits limits where
  Rel := fun _ {_} _ y => Adds replies y
  pure _ := .of_kept fun _ => rfl
  bind := .bind
  get := .of_kept fun _ => rfl
  see _ := .of_kept fun _ => rfl
  findAll := .findAll
  fetch := .fetch
  fault _ := .of_kept fun _ => rfl
  counted term h := .bind (.count limits term) fun _ => h

theorem walk_adds (limits : Limits) (left : Nat) (record : Record) (domain : Text) (path : List Text) :
    Adds replies (walk limits left record domain path) := by
  induction left generalizing record domain path with
  | zero =>
    have hend : (adding replies limits).Follows 1 (fun _ _ _ => pure ()) (fun _ _ _ => pure ()) :=
      fun _ _ _ => (adding replies limits).pure ()
    exact (adding replies limits).walkTerms hend (walkedTerms record)
  | succ left ih =>
    have hbelow : (adding replies limits).Follows 1 (walk limits left) (walk limits left) := ih
    exact (adding replies limits).walkTerms hbelow (walkedTerms record)

/-! Where the limit is kept -/

def StopsShort (limits : Limits) (first : Except WalkStop α × WalkState) (second : WalkState) : Prop :=
  ∃ term s, first = (.error (.excess (.lookups (limits.lookups.toNat + 1) limits.lookups term)), s) ∧
    s.tally.lookups = limits.lookups.toNat + 1 ∧ s.findings <+: second.findings

structure Keeps (limits : Limits) (k : Nat) (end? : Except WalkStop α × WalkState) : Prop where
  counted : k ≤ end?.2.tally.lookups
  within : end?.2.tally.lookups ≤ limits.lookups.toNat
  not_excess : ∀ e, end?.1 ≠ .error (.excess e)

/-- Where so many lookups have been counted, and no more than allowed, the first walk stops short of the second, or
both come to the same, still within the limit. -/
structure Cut (replies : Query → Reply) (limits : Limits) (k : Nat) (x y : Walk α) : Prop where
  adds : Adds replies y
  cut : ∀ s, k ≤ s.tally.lookups → s.tally.lookups ≤ limits.lookups.toNat →
    StopsShort limits (outcome replies x s) (outcome replies y s).2 ∨
      (outcome replies y s = outcome replies x s ∧ Keeps limits k (outcome replies x s))

namespace Cut
variable {k : Nat}

theorem of_kept {x : Walk α} (h : ∀ s, (outcome replies x s).2.tally = s.tally)
    (hgo : ∀ s e, (outcome replies x s).1 ≠ .error (.excess e)) (hadds : Adds replies x) : Cut replies limits k x x :=
  ⟨hadds, fun s hk hl => .inr ⟨rfl, by rw [h]; exact hk, by rw [h]; exact hl, hgo s⟩⟩

theorem beyond {x y : Walk α} (h : limits.lookups.toNat < k) (hadds : Adds replies y) : Cut replies limits k x y :=
  ⟨hadds, fun s hk hl => by omega⟩

theorem bind {x y : Walk α} {f g : α → Walk β} (h : Cut replies limits k x y)
    (hf : ∀ a, Cut replies limits k (f a) (g a)) : Cut replies limits k (x >>= f) (y >>= g) := by
  have hadds : Adds replies (y >>= g) := h.adds.bind fun a => (hf a).adds
  refine ⟨hadds, fun s hk hl => ?_⟩
  obtain ⟨term, s', hx, hl', hfound⟩ | ⟨hsame, hkeeps⟩ := h.cut s hk hl
  · refine .inl ⟨term, s', outcome_bind_of_error hx, hl', hfound.trans ?_⟩
    cases hy : outcome replies y s with
    | mk o s₁ =>
      cases o with
      | error e => simp only [outcome_bind_of_error hy, List.prefix_rfl]
      | ok a =>
        rw [outcome_bind_of_ok hy]
        exact (hf a).adds.isPrefix s₁
  · cases hx : outcome replies x s with
    | mk o s₁ =>
      rw [hx] at hsame hkeeps
      cases o with
      | error e =>
        rw [outcome_bind_of_error hx, outcome_bind_of_error hsame]
        refine .inr ⟨rfl, hkeeps.counted, hkeeps.within, fun e' he => hkeeps.not_excess e' ?_⟩
        cases he
        rfl
      | ok a =>
        rw [outcome_bind_of_ok hx, outcome_bind_of_ok hsame]
        exact (hf a).cut s₁ hkeeps.counted hkeeps.within

theorem counted (hle : limits.lookups ≤ limits'.lookups) {f g : Unit → Walk α} (term : Text)
    (h : Cut replies limits (k + 1) (f ()) (g ())) :
    Cut replies limits k (Walk.count limits term >>= f) (Walk.count limits' term >>= g) := by
  have hadds : Adds replies (Walk.count limits' term >>= g) := .bind (.count limits' term) fun _ => h.adds
  refine ⟨hadds, fun s hk hl => ?_⟩
  have hcount := Walk.outcome_count replies s limits term
  have hcount' := Walk.outcome_count replies s limits' term
  by_cases hover : limits.lookups < (s.tally.lookups + 1 : Nat)
  · have hfull : s.tally.lookups = limits.lookups.toNat := by omega
    rw [if_pos hover, hfull] at hcount
    refine .inl ⟨term, s.counted, outcome_bind_of_error hcount, by rw [WalkState.counted_lookups, hfull], ?_⟩
    exact hadds.isPrefix s
  · have hwithin : ¬ limits'.lookups < (s.tally.lookups + 1 : Nat) := by omega
    rw [if_neg hover] at hcount
    rw [if_neg hwithin] at hcount'
    rw [outcome_bind_of_ok hcount, outcome_bind_of_ok hcount']
    obtain hshort | ⟨hsame, hkeeps⟩ := h.cut s.counted (Nat.succ_le_succ hk)
      (by rw [WalkState.counted_lookups]; omega)
    · exact .inl hshort
    · exact .inr ⟨hsame, Nat.le_of_succ_le hkeeps.counted, hkeeps.within, hkeeps.not_excess⟩

end Cut

def cutting (replies : Query → Reply) (h : limits.lookups ≤ limits'.lookups) : Walk.Congruence limits limits' where
  Rel k := Cut replies limits k
  pure _ := .of_kept (fun _ => rfl) (fun _ _ he => nomatch he) (.of_kept fun _ => rfl)
  bind := .bind
  get := .of_kept (fun _ => rfl) (fun _ _ he => nomatch he) (.of_kept fun _ => rfl)
  see _ := .of_kept (fun _ => rfl) (fun _ _ he => nomatch he) (.of_kept fun _ => rfl)
  findAll h := .of_kept (fun _ => rfl) (fun _ _ he => nomatch he) (.findAll h)
  fetch domain := .of_kept (fun s => by rw [Walk.outcome_fetch])
    (fun s e he => by rw [Walk.outcome_fetch] at he; cases he) (.fetch domain)
  fault _ := .of_kept (fun _ => rfl) (fun _ _ he => nomatch he) (.of_kept fun _ => rfl)
  counted := .counted h

theorem walk_cut (replies : Query → Reply) (h : limits.lookups ≤ limits'.lookups) (left left' : Nat) {k : Nat}
    (hk : limits.lookups.toNat ≤ k + left)
    (hk' : limits.lookups.toNat ≤ k + left') (record : Record) (domain : Text) (path : List Text) :
    Cut replies limits k (walk limits left record domain path) (walk limits' left' record domain path) := by
  -- Both walks have as many levels left as their limits allow lookups, so that neither runs out of levels
  -- before it goes over its limit.
  induction left generalizing left' k record domain path with
  | zero =>
    rw [walk_eq_walkTerms, walk_eq_walkTerms]
    refine (cutting replies h).walkTerms (fun r d p => .beyond (by omega) ?_) _
    cases left' with
    | zero => exact .of_kept fun _ => rfl
    | succ left' => exact walk_adds limits' left' r d p
  | succ left ih =>
    cases left' with
    | zero =>
      have hend : (cutting replies h).Follows (k + 1) (walk limits left) fun _ _ _ => pure () :=
        fun _ _ _ => .beyond (by omega) (.of_kept fun _ => rfl)
      exact (cutting replies h).walkTerms hend _
    | succ left' =>
      have hbelow : (cutting replies h).Follows (k + 1) (walk limits left) (walk limits' left') :=
        fun r d p => ih left' (by omega) (by omega) r d p
      exact (cutting replies h).walkTerms hbelow _

/-! The whole audit -/

def Problem.isOwn : Problem → Bool
  | .inDomain _ _ | .macroTarget _ _ | .includeLoop _ | .redirectLoop _ | .repeatedInclude _ | .unpublished _ _
  | .size _ | .badTarget _ _ | .excess _ => false
  | _ => true

theorem termFindings_own {allSeen : Bool} {ts : List Term} {findings : List Finding}
    (h : termFindings allSeen ts = .ok findings) : ∀ f ∈ findings, f.problem.isOwn = true := by
  induction ts generalizing allSeen findings with
  | nil =>
    cases h
    exact fun f hf => nomatch hf
  | cons t rest ih =>
    obtain ⟨defects, others, hd, ho, rfl⟩ := termFindings_cons_eq_ok h
    intro f hf
    rcases List.mem_append.mp hf with hf | hf
    · rcases List.mem_append.mp hf with hf | hf
      · unfold defectFindings at hd
        grind [Finding.fatal, Problem.isOwn]
      · unfold remarks at hf
        grind [Finding.remark, Problem.isOwn]
    · exact ih ho f hf

theorem recordFindings_own {findings : List Finding} (h : recordFindings record = .ok findings) :
    ∀ f ∈ findings, f.problem.isOwn = true := by
  obtain ⟨found, hfound, rfl⟩ := recordFindings_eq_ok h
  intro f hf
  rcases List.mem_append.mp hf with hf | hf
  · exact termFindings_own hfound f hf
  · unfold jointFindings at hf
    grind [Finding.fatal, Finding.remark, Problem.isOwn]

theorem recordFindings_not_excess {findings : List Finding} (h : recordFindings record = .ok findings) :
    ∀ f ∈ findings, ¬ f.IsExcess := by
  rintro f hf ⟨e, he⟩
  have hown := recordFindings_own h f hf
  rw [he] at hown
  cases hown

def assessed : Except WalkStop Unit × WalkState → Except Fault Assessment
  | (.ok (), s) => .ok { findings := s.findings, lookups := some s.tally.lookups }
  | (.error (.excess e), s) => .ok { findings := s.findings ++ [.fatal (.excess e)], lookups := some s.tally.lookups }
  | (.error (.fault f), _) => .error f

theorem auditContent_value {text : Text} {findings : List Finding} (hparse : Record.parse? text = some record)
    (hfindings : recordFindings record = .ok findings) (limits : Limits) (domain : Text) :
    (auditContent limits text domain).value replies =
      assessed (outcome replies (walk limits limits.lookups.toNat record (Domain.normalized domain)
        [Domain.normalized domain]) { findings }) := by
  simp only [auditContent, hparse, hfindings, Plan.value_bind, outcome]
  obtain ⟨o, s⟩ := ((walk limits limits.lookups.toNat record (Domain.normalized domain)
    [Domain.normalized domain]).run.run { findings }).value replies
  cases o with
  | ok u => rfl
  | error stop => cases stop <;> rfl

theorem findings_prefix_of_assessed {end? : Except WalkStop Unit × WalkState} {a : Assessment}
    (h : assessed end? = .ok a) : end?.2.findings <+: a.findings := by
  obtain ⟨o, s⟩ := end?
  cases o with
  | ok u => cases h; exact List.prefix_rfl
  | error stop =>
    cases stop with
    | excess e => cases h; exact List.prefix_append _ _
    | fault f => cases h

theorem findings_eq_of_assessed {end? : Except WalkStop Unit × WalkState} {a : Assessment}
    (hgo : ∀ e, end?.1 ≠ .error (.excess e)) (h : assessed end? = .ok a) : a.findings = end?.2.findings := by
  obtain ⟨o, s⟩ := end?
  cases o with
  | ok u => cases h; rfl
  | error stop =>
    cases stop with
    | excess e => exact absurd rfl (hgo e)
    | fault f => cases h

def Assessment.overLimit (found : List Finding) (limit : Int) (term : Text) : Assessment :=
  { findings := found ++ [.fatal (.excess (.lookups (limit.toNat + 1) limit term))], lookups := some (limit.toNat + 1) }

theorem Assessment.overLimit_found_inj {found found' : List Finding} {limit : Int} {term term' : Text}
    (h : overLimit found limit term = overLimit found' limit term') : found = found' :=
  List.append_inj_left' (congrArg Assessment.findings h) rfl

/-- An audit finds no excess, and then it is the same under a higher limit; or it ends over its limit, with what the
audit under the higher limit begins with. -/
theorem auditContent_cut (replies : Query → Reply) (h : limits.lookups ≤ limits'.lookups) (text domain : Text) :
    ((auditContent limits' text domain).value replies = (auditContent limits text domain).value replies ∧
        ∀ a, (auditContent limits text domain).value replies = .ok a → ∀ f ∈ a.findings, ¬ f.IsExcess) ∨
      ∃ found term, (auditContent limits text domain).value replies = .ok (.overLimit found limits.lookups term) ∧
        (∀ f ∈ found, ¬ f.IsExcess) ∧
        ∀ b, (auditContent limits' text domain).value replies = .ok b → found <+: b.findings := by
  cases hparse : Record.parse? text with
  | none =>
    refine .inl ⟨by simp only [auditContent, hparse], fun a ha f hf => ?_⟩
    simp only [auditContent, auditText, hparse] at ha
    cases ha
    rw [List.mem_singleton.mp hf]
    rintro ⟨e, he⟩
    unfold noRecordFinding at he
    grind [Finding.fatal]
  | some record =>
    cases hfs : recordFindings record with
    | error f =>
      refine .inl ⟨by simp only [auditContent, hparse, hfs], fun a ha => ?_⟩
      simp only [auditContent, hparse, hfs] at ha
      cases ha
    | ok findings =>
      rw [auditContent_value hparse hfs, auditContent_value hparse hfs]
      have hle : limits.lookups.toNat ≤ limits'.lookups.toNat := Int.toNat_le_toNat h
      let root := Domain.normalized domain
      have hcut := walk_cut replies h limits.lookups.toNat limits'.lookups.toNat (k := 0) (by omega) (by omega) record
        root [root]
      obtain ⟨more, hmore, hnone⟩ := hcut.adds { findings }
      have hclean (f : Finding) (hf : f ∈ findings ++ more) : ¬ f.IsExcess :=
        (List.mem_append.mp hf).elim (recordFindings_not_excess hfs f) (hnone f)
      -- Either the lower limit cuts the walk short, or the two walks come to the same.
      obtain ⟨term, s, hshort, hcount, hfound⟩ | ⟨hsame, hkeeps⟩ :=
        hcut.cut { findings } (Nat.zero_le _) (Nat.zero_le _)
      · refine .inr ⟨s.findings, term, ?_, fun f hf => ?_, fun b hb => ?_⟩
        · rw [hshort]
          simp only [assessed, hcount, Assessment.overLimit]
        · rw [hmore] at hfound
          exact hclean f (hfound.subset hf)
        · exact hfound.trans (findings_prefix_of_assessed hb)
      · refine .inl ⟨congrArg assessed hsame, fun a ha f hf => hclean f ?_⟩
        rw [← hmore, hsame, ← findings_eq_of_assessed hkeeps.not_excess ha]
        exact hf

end SenderPolicy.Audit
