import SenderPolicy.Proofs.Audit.Validity
import SenderPolicy.Proofs.Macro.Numerals

/-!
Where the audit of a text ends without an assessment. All that is wrong with a term is a finding, but for a numeral that
is read as no integer: the audit stumbles over a prefix length with too many digits, and over a macro whose digits are
too many or are no decimal digits.
-/
namespace SenderPolicy.Audit
open Text
variable {t : Term} {cidr digits text : Text} {short long : Option Text} {r : Record}

/-- The first prefix length has too many digits to be read, or the second one behind a first that is in order. -/
def IsLongLength (short long : Option Text) : Prop :=
  (∃ digits, short = some digits ∧ maxDigits < digits.length) ∨
    (∀ digits, short = some digits → digits.length ≤ maxDigits ∧ ofDigits digits ≤ 32) ∧
      ∃ digits, long = some digits ∧ maxDigits < digits.length

/-- The prefix lengths of the term are written as they should be, but for the number of their digits. -/
def HasLongLength (t : Term) : Prop :=
  t.kind.takesLengths = true ∧ ∃ cidr short long, t.cidr = some cidr ∧ splitLengths? cidr = some (short, long) ∧
    IsLongLength short long

/-- The term has a numeral that is read as no integer, and nothing is wrong with it before. -/
structure Stumbles (t : Term) : Prop where
  grammar : checkGrammar t = .ok ()
  value : checkValue t = .ok ()
  numeral : HasLongLength t ∨ checkLengths t = .ok () ∧ takesName t.kind = true ∧
    ∃ value, t.value = some value ∧ Macro.BreaksOff value

/-! Prefix lengths -/

/-- A prefix length is a run of decimal digits, and not an empty one. -/
def IsLength (digits : Text) : Prop := digits ≠ [] ∧ ∀ c ∈ digits, isDecimal c = true

theorem isLength_of_splitLengths? (h : splitLengths? cidr = some (short, long)) :
    (∀ digits, short = some digits → IsLength digits) ∧ ∀ digits, long = some digits → IsLength digits := by
  have htaken : ∀ c ∈ cidr.takeWhile isDecimal, isDecimal c = true := List.all_eq_true.mp List.all_takeWhile
  unfold splitLengths? at h
  dsimp only at h
  split at h
  · split at h
    · cases h
    · rename_i hne
      cases h
      refine ⟨fun digits hd => ?_, fun digits hd => nomatch hd⟩
      cases hd
      exact ⟨by simpa using hne, htaken⟩
  · rename_i rest _
    generalize hlong : (if (cidr.takeWhile isDecimal).isEmpty = true then rest else rest.drop 1) = written at h
    split at h
    · rename_i hmarked
      simp only [Bool.and_eq_true, Bool.not_eq_true', List.isEmpty_eq_false_iff, List.all_eq_true] at hmarked
      cases h
      refine ⟨fun digits hd => ?_, fun digits hd => ?_⟩
      · split at hd
        · cases hd
        · rename_i hne
          cases hd
          exact ⟨by simpa using hne, htaken⟩
      · cases hd
        exact ⟨hmarked.1.2, hmarked.2⟩
    · cases h
  · cases h

theorem readLength_of_isLength (h : IsLength digits) :
    readLength digits =
      if maxDigits < digits.length then .error (.fault (.integer (.tooLong digits.length)))
      else .ok (ofDigits digits) := by
  rw [readLength, readInteger_of_decimals h.1 h.2]
  by_cases hlong : maxDigits < digits.length <;> simp only [hlong, if_true, if_false]

theorem defect_ne_fault {d : Defect} : ¬ ∃ f, (throw (.defect d) : Except Rejection Unit) = .error (.fault f) :=
  fun ⟨_, h⟩ => nomatch h

theorem pure_ne_fault : ¬ ∃ f, (pure () : Except Rejection Unit) = .error (.fault f) := fun ⟨_, h⟩ => nomatch h

theorem bounded_bind_eq_fault_iff {bound : Int} {d : Defect} (h : IsLength digits)
    (rest : Except Rejection Unit) :
    (∃ f, (readLength digits >>= fun n =>
        if bound < n then (throw (.defect d) >>= fun _ : Unit => rest) else rest) = .error (.fault f)) ↔
      maxDigits < digits.length ∨
        (digits.length ≤ maxDigits ∧ ofDigits digits ≤ bound) ∧ ∃ f, rest = .error (.fault f) := by
  rw [readLength_of_isLength h]
  by_cases hlong : maxDigits < digits.length
  · rw [if_pos hlong]
    exact iff_of_true ⟨_, rfl⟩ (.inl hlong)
  · rw [if_neg hlong]
    change (∃ f, (if bound < (ofDigits digits : Int) then _ else rest) = .error (.fault f)) ↔ _
    by_cases hbound : bound < (ofDigits digits : Int)
    · rw [if_pos hbound, or_iff_right hlong]
      exact iff_of_false defect_ne_fault fun hrest => absurd hrest.1.2 (Int.not_le.mpr hbound)
    · rw [if_neg hbound, or_iff_right hlong, and_iff_right ⟨Nat.le_of_not_lt hlong, Int.not_lt.mp hbound⟩]

theorem hasLongLength_iff (hk : t.kind.takesLengths = true) (hc : t.cidr = some cidr)
    (hs : splitLengths? cidr = some (short, long)) : HasLongLength t ↔ IsLongLength short long := by
  constructor
  · rintro ⟨-, cidr', short', long', hc', hs', hlong⟩
    cases hc.symm.trans hc'
    cases hs.symm.trans hs'
    exact hlong
  · intro hlong
    exact ⟨hk, cidr, short, long, hc, hs, hlong⟩

theorem bounded_eq_fault_iff {bound : Int} {d : Defect} (h : IsLength digits) :
    (∃ f, (readLength digits >>= fun n =>
        if bound < n then throw (.defect d) else (pure () : Except Rejection Unit)) = .error (.fault f)) ↔
      maxDigits < digits.length := by
  refine (bounded_bind_eq_fault_iff h (pure ())).trans ?_
  rw [or_iff_left]
  exact fun hrest => pure_ne_fault hrest.2

theorem checkLengths_eq_fault_iff : (∃ f, checkLengths t = .error (.fault f)) ↔ HasLongLength t := by
  unfold checkLengths
  cases hc : t.cidr with
  | none =>
    refine iff_of_false pure_ne_fault ?_
    rintro ⟨-, cidr, -, -, hc', -⟩
    cases hc.symm.trans hc'
  | some cidr =>
    cases hk : t.kind.takesLengths with
    | false =>
      refine iff_of_false defect_ne_fault ?_
      rintro ⟨hk', -⟩
      cases hk.symm.trans hk'
    | true =>
      cases hs : splitLengths? cidr with
      | none =>
        refine iff_of_false (by simp [hs]) ?_
        rintro ⟨-, cidr', short, long, hc', hs', -⟩
        cases hc.symm.trans hc'
        cases hs.symm.trans hs'
      | some lengths =>
        obtain ⟨short, long⟩ := lengths
        obtain ⟨hshort, hlong⟩ := isLength_of_splitLengths? hs
        rw [hasLongLength_iff hk hc hs, IsLongLength]
        simp only [Bool.not_true, Bool.false_eq_true, if_false, hs]
        cases short with
        | none =>
          cases long with
          | none => exact iff_of_false pure_ne_fault (by simp)
          | some digits => exact (bounded_eq_fault_iff (hlong digits rfl)).trans (by simp)
        | some first =>
          refine (bounded_bind_eq_fault_iff (hshort first rfl) _).trans ?_
          cases long with
          | none => simp [pure_ne_fault]
          | some digits =>
            have hbound : (ofDigits first : Int) ≤ 32 ↔ ofDigits first ≤ 32 := by omega
            simp [bounded_eq_fault_iff (hlong digits rfl), hbound]

/-! Terms -/

theorem checkMacros_eq_fault_iff :
    (∃ f, checkMacros t = .error (.fault f)) ↔
      takesName t.kind = true ∧ ∃ value, t.value = some value ∧ Macro.BreaksOff value := by
  unfold checkMacros
  cases hv : t.value with
  | none => simp
  | some value =>
    have hbreaks := Macro.check_eq_integer_iff value
    cases takesName t.kind with
    | false => simp
    | true =>
      simp only [if_true, true_and, Option.some.injEq, exists_eq_left', ← hbreaks]
      cases Macro.check value with
      | ok u => simp
      | error flaw => cases flaw <;> simp

theorem checkTerm_eq_fault_iff : (∃ f, checkTerm t = .error (.fault f)) ↔ Stumbles t := by
  have hlengths := checkLengths_eq_fault_iff (t := t)
  have hmacros := checkMacros_eq_fault_iff (t := t)
  constructor
  · rintro ⟨f, hf⟩
    unfold checkTerm at hf
    cases hg : checkGrammar t with
    | error d => rw [hg] at hf; cases hf
    | ok u =>
      cases hv : checkValue t with
      | error d => rw [hg, hv] at hf; cases hf
      | ok v =>
        rw [hg, hv] at hf
        change (checkLengths t >>= fun _ => checkMacros t) = .error (.fault f) at hf
        cases hl : checkLengths t with
        | error e =>
          rw [hl] at hf
          cases hf
          exact ⟨hg, hv, .inl (hlengths.mp ⟨f, hl⟩)⟩
        | ok w =>
          rw [hl] at hf
          exact ⟨hg, hv, .inr ⟨hl, hmacros.mp ⟨f, hf⟩⟩⟩
  · rintro ⟨hg, hv, hlong | ⟨hl, hname⟩⟩
    · obtain ⟨f, hf⟩ := hlengths.mpr hlong
      exact ⟨f, by rw [checkTerm, hg, hv, hf]; rfl⟩
    · obtain ⟨f, hf⟩ := hmacros.mpr hname
      exact ⟨f, by rw [checkTerm, hg, hv, hl]; exact hf⟩

/-! The whole text -/

theorem defectFindings_returns_iff : (∃ findings, defectFindings t = .ok findings) ↔ ¬ Stumbles t := by
  rw [← checkTerm_eq_fault_iff]
  unfold defectFindings
  cases checkTerm t with
  | ok u => simp
  | error e => cases e <;> simp

theorem termFindings_returns_iff (allSeen : Bool) (ts : List Term) :
    (∃ findings, termFindings allSeen ts = .ok findings) ↔ ∀ t ∈ ts, ¬ Stumbles t := by
  induction ts generalizing allSeen with
  | nil => simp [termFindings]
  | cons t rest ih =>
    rw [List.forall_mem_cons, ← defectFindings_returns_iff, ← ih (allSeen || t.kind == .all), termFindings]
    cases defectFindings t with
    | error f => simp [bind, Except.bind]
    | ok defects =>
      cases termFindings (allSeen || t.kind == .all) rest with
      | error f => simp [bind, Except.bind]
      | ok others => exact iff_of_true ⟨_, rfl⟩ ⟨⟨_, rfl⟩, _, rfl⟩

theorem recordFindings_returns_iff :
    (∃ findings, recordFindings r = .ok findings) ↔ ∀ t ∈ r.terms, ¬ Stumbles t := by
  rw [← termFindings_returns_iff false, recordFindings]
  cases termFindings false r.terms with
  | error f => simp [bind, Except.bind]
  | ok findings => exact iff_of_true ⟨_, rfl⟩ ⟨_, rfl⟩

/-- The audit of a text comes to an assessment exactly if it stumbles over no term of its record. -/
theorem auditText_returns_iff (text : Text) :
    (∃ a, auditText text = .ok a) ↔ ∀ r, Record.parse? text = some r → ∀ t ∈ r.terms, ¬ Stumbles t := by
  unfold auditText
  cases hparse : Record.parse? text with
  | none => exact iff_of_true ⟨_, rfl⟩ fun r hr => nomatch hr
  | some r =>
    simp only [Option.some.injEq, forall_eq', ← recordFindings_returns_iff]
    cases recordFindings r with
    | error f => exact iff_of_false (fun ⟨_, h⟩ => nomatch h) fun ⟨_, h⟩ => nomatch h
    | ok findings => exact iff_of_true ⟨_, rfl⟩ ⟨_, rfl⟩

/-- A macro with a superscript two, which is a digit and no decimal one. -/
theorem superscript_has_no_assessment : ¬ ∃ a, auditText "v=spf1 include:%{d²}.example -all" = .ok a := by
  rintro ⟨a, ha⟩
  have hnone : (auditText "v=spf1 include:%{d²}.example -all").toOption = none := by decide +kernel
  rw [ha] at hnone
  cases hnone

end SenderPolicy.Audit
