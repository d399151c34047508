import SenderPolicy.Audit.Record
import SenderPolicy.Proofs.Failure

/-!
Valid records: an audit ends, and none of its findings is fatal. Each term of a valid record has then passed
its own check.
-/
namespace SenderPolicy.Audit
variable {r : Record} {t : Term} {ts : List Term} {findings : List Finding}

def IsValid (r : Record) : Prop :=
  ∃ findings, recordFindings r = .ok findings ∧ ∀ f ∈ findings, f.isFatal = false

theorem defectFindings_eq_ok (h : defectFindings t = .ok findings)
    (hf : ∀ f ∈ findings, f.isFatal = false) : checkTerm t = .ok () := by
  unfold defectFindings at h
  split at h
  · assumption
  · cases h
    exact nomatch hf _ List.mem_cons_self
  · cases h

theorem termFindings_cons_eq_ok {allSeen : Bool} (h : termFindings allSeen (t :: ts) = .ok findings) :
    ∃ defects others, defectFindings t = .ok defects ∧
      termFindings (allSeen || t.kind == .all) ts = .ok others ∧ findings = defects ++ remarks allSeen t ++ others := by
  unfold termFindings at h
  obtain ⟨defects, hdefects, h⟩ := of_bind_eq_ok h
  obtain ⟨others, hothers, h⟩ := of_bind_eq_ok h
  exact ⟨defects, others, hdefects, hothers, (Except.ok.inj h).symm⟩

theorem recordFindings_eq_ok (h : recordFindings r = .ok findings) :
    ∃ found, termFindings false r.terms = .ok found ∧ findings = found ++ jointFindings r := by
  unfold recordFindings at h
  obtain ⟨found, hfound, h⟩ := of_bind_eq_ok h
  exact ⟨found, hfound, (Except.ok.inj h).symm⟩

theorem checkTerm_of_termFindings {allSeen : Bool} (h : termFindings allSeen ts = .ok findings)
    (hf : ∀ f ∈ findings, f.isFatal = false) : ∀ t ∈ ts, checkTerm t = .ok () := by
  induction ts generalizing allSeen findings with
  | nil => simp
  | cons t rest ih =>
    obtain ⟨defects, others, hdefects, hothers, rfl⟩ := termFindings_cons_eq_ok h
    rw [List.forall_mem_append, List.forall_mem_append] at hf
    rw [List.forall_mem_cons]
    exact ⟨defectFindings_eq_ok hdefects hf.1.1, ih hothers hf.2⟩

theorem IsValid.checkTerm (h : IsValid r) : ∀ t ∈ r.terms, checkTerm t = .ok () := by
  obtain ⟨findings, hr, hf⟩ := h
  obtain ⟨found, hfound, rfl⟩ := recordFindings_eq_ok hr
  rw [List.forall_mem_append] at hf
  exact checkTerm_of_termFindings hfound hf.1

theorem checkTerm_eq_ok (h : checkTerm t = .ok ()) :
    checkGrammar t = .ok () ∧ checkValue t = .ok () ∧ checkLengths t = .ok () ∧ checkMacros t = .ok () := by
  unfold checkTerm at h
  obtain ⟨_, hgrammar, h⟩ := of_bind_eq_ok h
  obtain ⟨_, hvalue, h⟩ := of_bind_eq_ok h
  obtain ⟨_, hlengths, hmacros⟩ := of_bind_eq_ok h
  exact ⟨of_mapError_eq_ok hgrammar, of_mapError_eq_ok hvalue, hlengths, hmacros⟩

theorem checkTerm_eq_ok_iff :
    checkTerm t = .ok () ↔
      checkGrammar t = .ok () ∧ checkValue t = .ok () ∧ checkLengths t = .ok () ∧ checkMacros t = .ok () := by
  constructor
  · exact checkTerm_eq_ok
  · rintro ⟨hg, hv, hl, hm⟩
    rw [checkTerm, hg, hv, hl, hm]
    rfl

theorem kind_ne_unknown (h : checkTerm t = .ok ()) : t.kind ≠ .unknown := by
  intro hk
  have hg := (checkTerm_eq_ok h).1
  rw [checkGrammar, if_pos hk] at hg
  cases hg

theorem exists_value (h : checkTerm t = .ok ()) (hk : t.kind = .inclusion ∨ t.kind = .redirect) :
    ∃ value, t.value = some value ∧ value ≠ [] := by
  have hvalue : hasValue t = true := by
    have hc := (checkTerm_eq_ok h).2.1
    cases hv : hasValue t with
    | true => rfl
    | false =>
      rcases hk with hk | hk
      · simp [checkValue, hk, hv] at hc
      · simp only [checkValue, hk] at hc
        split at hc
        · cases hc
        · simp [hv] at hc
  cases hv : t.value with
  | none => simp [hasValue, hv] at hvalue
  | some value => exact ⟨value, rfl, fun hnil => by simp [hasValue, hv, hnil] at hvalue⟩

theorem value_ne_nil (h : checkTerm t = .ok ()) (hm : t.isModifier = false) : t.value ≠ some [] := by
  intro hv
  have hc := (checkTerm_eq_ok h).2.1
  cases hk : t.kind with
  | redirect | exp | unknownModifier => simp [Term.isModifier, Kind.isModifier, hk] at hm
  | ip4 | ip6 => simp [checkValue, checkNetwork, hk, hv] at hc
  | _ => simp [checkValue, hasValue, hk, hv] at hc

theorem value_ne_none (h : checkTerm t = .ok ()) (hk : t.kind = .inclusion ∨ t.kind = .existence) :
    t.value ≠ none := by
  intro hv
  have hc := (checkTerm_eq_ok h).2.1
  rcases hk with hk | hk <;> simp [checkValue, hasValue, hk, hv] at hc

/-! Records whose terms have passed -/

theorem remarks_harmless (allSeen : Bool) (t : Term) : ∀ f ∈ remarks allSeen t, f.isFatal = false := by
  simp only [remarks, List.forall_mem_append]
  refine ⟨⟨?_, ?_⟩, ?_⟩ <;> split <;> simp [Finding.remark]

theorem termFindings_of_checkTerm (allSeen : Bool) (h : ∀ t ∈ ts, checkTerm t = .ok ()) :
    ∃ findings, termFindings allSeen ts = .ok findings ∧ ∀ f ∈ findings, f.isFatal = false := by
  induction ts generalizing allSeen with
  | nil => exact ⟨[], rfl, by simp⟩
  | cons t rest ih =>
    rw [List.forall_mem_cons] at h
    obtain ⟨others, hothers, hharmless⟩ := ih (allSeen || t.kind == .all) h.2
    have hdefects : defectFindings t = .ok [] := by rw [defectFindings, h.1]
    refine ⟨remarks allSeen t ++ others, ?_, ?_⟩
    · rw [termFindings, hdefects, hothers]
      rfl
    · rw [List.forall_mem_append]
      exact ⟨remarks_harmless allSeen t, hharmless⟩

theorem jointFindings_harmless_iff :
    (∀ f ∈ jointFindings r, f.isFatal = false) ↔ countOf .redirect r ≤ 1 ∧ countOf .exp r ≤ 1 := by
  have hremark (p : Prop) [Decidable p] (problem : Problem) :
      (∀ f ∈ (if p then [Finding.remark problem] else []), f.isFatal = false) ↔ True := by
    split <;> simp [Finding.remark]
  have hfatal (p : Prop) [Decidable p] (problem : Problem) :
      (∀ f ∈ (if p then [Finding.fatal problem] else []), f.isFatal = false) ↔ ¬ p := by
    split <;> simp_all [Finding.fatal]
  simp only [jointFindings, List.forall_mem_append, hremark, hfatal, and_true, Nat.not_lt]

/-- A record is valid exactly if each term has passed its check, and there is no second redirect or explanation. -/
theorem isValid_iff :
    IsValid r ↔ (∀ t ∈ r.terms, Audit.checkTerm t = .ok ()) ∧ countOf .redirect r ≤ 1 ∧ countOf .exp r ≤ 1 := by
  constructor
  · intro h
    refine ⟨h.checkTerm, jointFindings_harmless_iff.mp ?_⟩
    obtain ⟨findings, hr, hf⟩ := h
    obtain ⟨found, -, rfl⟩ := recordFindings_eq_ok hr
    rw [List.forall_mem_append] at hf
    exact hf.2
  · rintro ⟨hterms, hcounts⟩
    obtain ⟨findings, hfindings, hharmless⟩ := termFindings_of_checkTerm false hterms
    refine ⟨findings ++ jointFindings r, ?_, ?_⟩
    · rw [recordFindings, hfindings]
      rfl
    · rw [List.forall_mem_append]
      exact ⟨hharmless, jointFindings_harmless_iff.mpr hcounts⟩

theorem IsValid.auditText {text : Text} (h : IsValid r) (hparse : Record.parse? text = some r) :
    ∃ a, auditText text = .ok a ∧ a.isValid := by
  obtain ⟨findings, hr, hf⟩ := h
  refine ⟨{ findings }, ?_, List.all_eq_true.mpr fun f hfm => by rw [hf f hfm]; rfl⟩
  simp only [Audit.auditText, hparse, hr]
  rfl

theorem IsValid.of_auditText {text : Text} {a : Assessment} (hparse : Record.parse? text = some r)
    (h : Audit.auditText text = .ok a) (hvalid : a.isValid = true) : IsValid r := by
  simp only [Audit.auditText, hparse] at h
  obtain ⟨findings, hr, h⟩ := of_bind_eq_ok h
  cases h
  refine ⟨findings, hr, fun f hf => ?_⟩
  simpa using List.all_eq_true.mp hvalid f hf

end SenderPolicy.Audit
