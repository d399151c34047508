import SenderPolicy.Proofs.Audit.Numerals

/-!
What the audit of a record finds, told by its terms alone. Each term is told for itself, and what the terms are together
is told by which of them there are and by what stands behind what, whatever is found in between.
-/
namespace SenderPolicy.Audit
variable {t u : Term} {ts : List Term} {r : Record} {findings : List Finding} {allSeen : Bool}

/-- The defect of a term that fails its check. -/
def defect? (t : Term) : Option Defect :=
  match checkTerm t with
  | .error (.defect d) => some d
  | _ => none

def ofKind (kind : Kind) (ts : List Term) : List Term := ts.filter fun t => t.kind = kind

def failures (ts : List Term) : List Finding := (ts.filterMap defect?).map fun d => .fatal (.defect d)

def repeats (allSeen : Bool) (ts : List Term) : List Finding :=
  (if allSeen then ofKind .all ts else (ofKind .all ts).tail).map fun _ => .remark .repeatedAll

def passes (ts : List Term) : List Finding :=
  ((ofKind .all ts).filter fun t => t.qualifier = .pass).map fun _ => .remark .passingAll

def discouraged (ts : List Term) : List Finding := (ofKind .ptr ts).map fun _ => .remark .discouragedPtr

/-- Somewhere behind a term that matches everything stands a mechanism of another kind. -/
def HasIdleMechanism (ts : List Term) : Prop :=
  ∃ t u, [t, u].Sublist ts ∧ t.kind = .all ∧ u.kind ≠ .all ∧ u.isModifier = false

/-! Single terms -/

theorem eq_failures_of_defectFindings (h : defectFindings t = .ok findings) : findings = failures [t] := by
  unfold failures defect?
  unfold defectFindings at h
  split at h <;> cases h <;> simp [*]

theorem failures_cons (t : Term) (ts : List Term) : failures (t :: ts) = failures [t] ++ failures ts := by
  rw [failures, failures, failures, ← List.map_append, ← List.filterMap_append, List.singleton_append]

theorem repeats_cons (allSeen : Bool) (t : Term) (ts : List Term) :
    repeats allSeen (t :: ts) =
      (if t.kind = .all ∧ allSeen then [Finding.remark .repeatedAll] else []) ++
        repeats (allSeen || t.kind == .all) ts := by
  by_cases hk : t.kind = .all <;> cases allSeen <;> simp [repeats, ofKind, hk]

theorem passes_cons (t : Term) (ts : List Term) :
    passes (t :: ts) =
      (if t.kind = .all ∧ t.qualifier = .pass then [Finding.remark .passingAll] else []) ++ passes ts := by
  by_cases hk : t.kind = .all <;> by_cases hq : t.qualifier = .pass <;> simp [passes, ofKind, hk, hq]

theorem discouraged_cons (t : Term) (ts : List Term) :
    discouraged (t :: ts) = (if t.kind = .ptr then [Finding.remark .discouragedPtr] else []) ++ discouraged ts := by
  by_cases hk : t.kind = .ptr <;> simp [discouraged, ofKind, hk]

/-- What is found in the terms one after another is what each of them declares. -/
theorem termFindings_perm (h : termFindings allSeen ts = .ok findings) :
    findings.Perm (failures ts ++ repeats allSeen ts ++ passes ts ++ discouraged ts) := by
  -- The flag tells whether a term that matches everything stands in front.
  induction ts generalizing allSeen findings with
  | nil =>
    cases h
    cases allSeen <;> exact .refl _
  | cons t rest ih =>
    obtain ⟨defects, others, hdefects, hothers, rfl⟩ := termFindings_cons_eq_ok h
    have hrest := ih hothers
    rw [eq_failures_of_defectFindings hdefects, failures_cons t rest, repeats_cons, passes_cons, discouraged_cons,
      remarks]
    rw [List.perm_iff_count] at hrest ⊢
    intro f
    have hcount := hrest f
    simp only [List.count_append] at hcount ⊢
    omega

/-! Terms together -/

theorem hasMechanismBehindAll_iff : hasMechanismBehindAll ts = true ↔ HasIdleMechanism ts := by
  induction ts with
  | nil => simp [hasMechanismBehindAll, HasIdleMechanism]
  | cons t rest ih =>
    unfold hasMechanismBehindAll
    split
    · rename_i hk
      constructor
      · intro h
        obtain ⟨u, hu, hidle⟩ := List.any_eq_true.mp h
        simp only [Bool.and_eq_true, bne_iff_ne, Bool.not_eq_true'] at hidle
        exact ⟨t, u, (List.singleton_sublist.mpr hu).cons_cons t, hk, hidle⟩
      · rintro ⟨a, u, hsub, -, hidle⟩
        have hu : u ∈ rest := List.singleton_sublist.mp hsub.tail
        rw [List.any_eq_true]
        exact ⟨u, hu, by simpa using hidle⟩
    · rename_i hk
      rw [ih]
      constructor
      · rintro ⟨a, u, hsub, hidle⟩
        exact ⟨a, u, hsub.cons t, hidle⟩
      · rintro ⟨a, u, hsub, ha, hidle⟩
        cases hsub with
        | cons _ hsub => exact ⟨a, u, hsub, ha, hidle⟩
        | cons_cons => exact absurd ha hk

instance (ts : List Term) : Decidable (HasIdleMechanism ts) := decidable_of_iff _ hasMechanismBehindAll_iff

/-- What the terms of a record declare, each for itself and all together. -/
def declared (r : Record) : List Finding :=
  failures r.terms ++
  (if 1 < (ofKind .redirect r.terms).length then [Finding.fatal .severalRedirects] else []) ++
  (if 1 < (ofKind .exp r.terms).length then [Finding.fatal .severalExplanations] else []) ++
  repeats false r.terms ++ passes r.terms ++ discouraged r.terms ++
  (if HasIdleMechanism r.terms then [Finding.remark .behindAll] else []) ++
  (if (∃ t ∈ r.terms, t.kind = .all) ∧ ∃ t ∈ r.terms, t.kind = .redirect then [Finding.remark .idleRedirect] else []) ++
  (if (¬ ∃ t ∈ r.terms, t.kind = .all) ∧ ¬ ∃ t ∈ r.terms, t.kind = .redirect then [Finding.remark .noEnding] else [])

theorem countOf_eq (kind : Kind) (r : Record) : countOf kind r = (ofKind kind r.terms).length := by
  rw [countOf, List.countP_eq_length_filter, ofKind]
  congr 2

theorem hasAll_iff : hasAll r = true ↔ ∃ t ∈ r.terms, t.kind = .all := by
  simp [hasAll]

theorem countOf_pos_iff (kind : Kind) : 0 < countOf kind r ↔ ∃ t ∈ r.terms, t.kind = kind := by
  simp [countOf, List.countP_pos_iff]

theorem recordFindings_perm (h : recordFindings r = .ok findings) : findings.Perm (declared r) := by
  obtain ⟨found, hfound, rfl⟩ := recordFindings_eq_ok h
  have hterms := termFindings_perm hfound
  rw [List.perm_iff_count] at hterms ⊢
  intro f
  have hcount := hterms f
  simp only [jointFindings, declared, hasMechanismBehindAll_iff, ← hasAll_iff, ← countOf_pos_iff, ← countOf_eq,
    Bool.not_eq_true', Bool.not_eq_true, Nat.not_lt, Nat.le_zero, List.count_append] at hcount ⊢
  omega

/-! Texts -/

variable {text : Text} {a : Assessment}

theorem recordFindings_of_auditText (hparse : Record.parse? text = some r) (h : auditText text = .ok a) :
    recordFindings r = .ok a.findings := by
  simp only [auditText, hparse] at h
  obtain ⟨findings, hfindings, rfl⟩ := of_map_eq_ok h
  exact hfindings

theorem isValid_iff_of_auditText (hparse : Record.parse? text = some r) (h : auditText text = .ok a) :
    a.isValid = true ↔ (∀ t ∈ r.terms, checkTerm t = .ok ()) ∧ (ofKind .redirect r.terms).length ≤ 1 ∧
      (ofKind .exp r.terms).length ≤ 1 := by
  rw [← countOf_eq, ← countOf_eq, ← isValid_iff]
  constructor
  · exact IsValid.of_auditText hparse h
  · intro hvalid
    obtain ⟨a', ha', hok⟩ := hvalid.auditText hparse
    cases h.symm.trans ha'
    exact hok

/-- The audit of a record finds it valid exactly if each term passes its check and neither redirect nor explanation is
there twice, and finds what its terms declare, neither more nor less. With its terms in another order the record is
audited, too, and is as valid. -/
theorem auditText_finds_declared (text : Text) (r : Record) (a : Assessment) (hparse : Record.parse? text = some r)
    (h : auditText text = .ok a) :
    (a.isValid = true ↔ (∀ t ∈ r.terms, checkTerm t = .ok ()) ∧ (ofKind .redirect r.terms).length ≤ 1 ∧
      (ofKind .exp r.terms).length ≤ 1) ∧
    a.findings.Perm (declared r) ∧
    ∀ text' r', Record.parse? text' = some r' → r'.terms.Perm r.terms →
      ∃ a', auditText text' = .ok a' ∧ a'.isValid = a.isValid := by
  refine ⟨isValid_iff_of_auditText hparse h, recordFindings_perm (recordFindings_of_auditText hparse h), ?_⟩
  intro text' r' hparse' hperm
  have hreturns : ∀ t ∈ r.terms, ¬ Stumbles t := (auditText_returns_iff text).mp ⟨a, h⟩ r hparse
  obtain ⟨a', ha'⟩ : ∃ a', auditText text' = .ok a' := by
    refine (auditText_returns_iff text').mpr fun r'' hr'' t ht => ?_
    cases hparse'.symm.trans hr''
    exact hreturns t (hperm.mem_iff.mp ht)
  have hsame (kind : Kind) : (ofKind kind r'.terms).length = (ofKind kind r.terms).length :=
    (hperm.filter _).length_eq
  refine ⟨a', ha', ?_⟩
  rw [Bool.eq_iff_iff, isValid_iff_of_auditText hparse' ha', isValid_iff_of_auditText hparse h, hsame, hsame]
  simp only [hperm.mem_iff]

def mixedTerms : List Term :=
  [{ kind := .ptr }, { kind := .all }, { kind := .unknown, name := some "foo" }, { kind := .all, qualifier := .fail },
    { kind := .redirect, value := some "b.example" }, { kind := .redirect, value := some "c.example" }]

theorem mixedTerms_are_declared :
    ∃ a, auditText "v=spf1 ptr +all foo -all redirect=b.example redirect=c.example" = .ok a ∧ a.isValid = false ∧
      a.findings.Perm [.fatal (.defect (.unknownMechanism "foo")), .fatal .severalRedirects, .remark .repeatedAll,
        .remark .passingAll, .remark .discouragedPtr, .remark .behindAll, .remark .idleRedirect] ∧
      ∃ a', auditText "v=spf1 redirect=c.example redirect=b.example -all foo +all ptr" = .ok a' ∧
        a'.isValid = false := by
  have hvalid : (auditText "v=spf1 ptr +all foo -all redirect=b.example redirect=c.example").toOption.map
      Assessment.isValid = some false := by decide +kernel
  have hparse : Record.parse? "v=spf1 ptr +all foo -all redirect=b.example redirect=c.example" =
      some ⟨some Record.versionTag, mixedTerms⟩ := by decide +kernel
  have hreversed : Record.parse? "v=spf1 redirect=c.example redirect=b.example -all foo +all ptr" =
      some ⟨some Record.versionTag, mixedTerms.reverse⟩ := by decide +kernel
  have hdeclared : declared ⟨some Record.versionTag, mixedTerms⟩ = [.fatal (.defect (.unknownMechanism "foo")),
      .fatal .severalRedirects, .remark .repeatedAll, .remark .passingAll, .remark .discouragedPtr, .remark .behindAll,
      .remark .idleRedirect] := by decide +kernel
  obtain ⟨a, ha, hinvalid⟩ := Option.map_eq_some_iff.mp hvalid
  obtain ⟨-, hfound, hother⟩ := auditText_finds_declared _ _ a hparse (eq_ok_of_toOption ha)
  obtain ⟨a', ha', hsame⟩ := hother _ _ hreversed (List.reverse_perm mixedTerms)
  exact ⟨a, eq_ok_of_toOption ha, hinvalid, hdeclared ▸ hfound, a', ha', hsame.trans hinvalid⟩

end SenderPolicy.Audit
