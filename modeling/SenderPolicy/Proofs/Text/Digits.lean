import Mathlib.Data.List.TakeWhile
import SenderPolicy.Proofs.Text.CaseTable
import SenderPolicy.Text.Integer

/-!
Digits read as an integer. A run of digits is one if all of them are decimal and they are not too many; what
else may stand in an integer is no digit.
-/
namespace SenderPolicy.Text
variable {c : Char} {digits : Text} {n : Int}

theorem isDigit_of_isDecimal (h : isDecimal c = true) : isDigit c = true := by
  simp only [isDigit, h, Bool.true_or]

theorem isDecimal_of_not_isDigit (h : isDigit c = false) : isDecimal c = false := by
  rw [isDigit, Bool.or_eq_false_iff] at h
  exact h.1

/-! Digits are no blanks -/

theorem digitRanges_avoid_blanks :
    ((decimalRanges ++ otherDigitRanges).all fun (first, last) => blankRanges.avoid first last) = true := by
  decide +kernel

theorem isMargin_of_isDigit (h : isDigit c = true) : isMargin c = false := by
  have hcovers : (decimalRanges ++ otherDigitRanges).covers c = true := by
    rw [Ranges.covers, List.any_append]
    exact h
  obtain ⟨range, hrange, hin⟩ := List.any_eq_true.mp hcovers
  simp only [Bool.and_eq_true, decide_eq_true_eq] at hin
  have hblank : isBlank c = false :=
    Ranges.covers_eq_false (Ranges.outside (List.all_eq_true.mp digitRanges_avoid_blanks range hrange) hin.1 hin.2)
  simp only [isMargin, hblank, Bool.false_and]

theorem ne_of_isDigit {d : Char} (h : isDigit c = true) (hd : isDigit d = false) : c ≠ d := by
  rintro rfl
  rw [h] at hd
  cases hd

/-! Values -/

theorem le_foldl_digits (digits : Text) (k : Nat) :
    k ≤ digits.foldl (fun n c => 10 * n + decimalValue c) k := by
  induction digits generalizing k with
  | nil => exact Nat.le_refl k
  | cons c r ih =>
    have hstep : k ≤ 10 * k + decimalValue c := by omega
    exact Nat.le_trans hstep (ih _)

theorem ofDigits_ne_zero (hc : c ∈ digits) (h : decimalValue c ≠ 0) : ofDigits digits ≠ 0 := by
  obtain ⟨x, y, rfl⟩ := List.append_of_mem hc
  have hle : 10 * ofDigits x + decimalValue c ≤ ofDigits (x ++ c :: y) := by
    simpa [ofDigits] using le_foldl_digits y _
  omega

theorem ofDigits_cons_ne_zero (h : decimalValue c ≠ 0) (r : Text) : ofDigits (c :: r) ≠ 0 :=
  ofDigits_ne_zero List.mem_cons_self h

/-! Reading -/

theorem isGrouped_of_decimals (hne : digits ≠ []) (h : ∀ c ∈ digits, isDecimal c = true) :
    isGrouped digits = true := by
  induction digits with
  | nil => exact absurd rfl hne
  | cons c r ih =>
    have hc := h c List.mem_cons_self
    cases r with
    | nil => exact hc
    | cons d r =>
      have hlow : (c == '_') = false := beq_false_of_ne (ne_of_isDigit (isDigit_of_isDecimal hc) (by decide))
      have hrest := ih (List.cons_ne_nil d r) fun e he => h e (List.mem_cons_of_mem c he)
      simp only [isGrouped, hlow, hc, hrest, Bool.and_self, Bool.false_eq_true, if_false]

theorem takeWhile_congr {p q : Char → Bool} (h : ∀ c ∈ digits, p c = q c) :
    digits.takeWhile p = digits.takeWhile q ∧ digits.dropWhile p = digits.dropWhile q := by
  induction digits with
  | nil => exact ⟨rfl, rfl⟩
  | cons c r ih =>
    obtain ⟨htake, hdrop⟩ := ih fun d hd => h d (List.mem_cons_of_mem c hd)
    simp only [List.takeWhile, List.dropWhile, h c List.mem_cons_self, htake, hdrop, and_self]

theorem readInteger_eq (hne : digits ≠ []) (h : ∀ c ∈ digits, isDigit c = true) :
    readInteger digits =
      if !isGrouped (digits.takeWhile isDecimal) then .error (.malformed digits)
      else if maxDigits < (digits.takeWhile isDecimal).length then
        .error (.tooLong (digits.takeWhile isDecimal).length)
      else if !(digits.dropWhile isDecimal).all isMargin then .error (.malformed digits)
      else .ok (ofDigits (digits.takeWhile isDecimal)) := by
  obtain ⟨c, r, rfl⟩ := List.exists_cons_of_ne_nil hne
  have hmargin : (c :: r).dropWhile isMargin = c :: r :=
    List.dropWhile_cons_of_neg (by simp [isMargin_of_isDigit (h c List.mem_cons_self)])
  have hlow : ∀ d ∈ c :: r, (isDecimal d || d == '_') = isDecimal d := by
    intro d hd
    rw [beq_false_of_ne (ne_of_isDigit (h d hd) (by decide)), Bool.or_false]
  obtain ⟨htake, hdrop⟩ := takeWhile_congr hlow
  have hfilter : ((c :: r).takeWhile isDecimal).filter isDecimal = (c :: r).takeWhile isDecimal :=
    List.filter_eq_self.mpr (List.all_eq_true.mp List.all_takeWhile)
  have hhead : (((c :: r).takeWhile isDecimal).head? == some '_') = false := by
    refine beq_false_of_ne fun heq => ?_
    have hmem := List.mem_of_mem_head? heq
    exact ne_of_isDigit (h '_' ((List.takeWhile_prefix _).subset hmem)) (by decide) rfl
  have hminus : c ≠ '-' := ne_of_isDigit (h c List.mem_cons_self) (by decide)
  have hplus : c ≠ '+' := ne_of_isDigit (h c List.mem_cons_self) (by decide)
  unfold readInteger
  simp only [hmargin]
  split
  · rename_i heq
    exact absurd (List.cons.inj heq).1 hminus
  · rename_i heq
    exact absurd (List.cons.inj heq).1 hplus
  · simp only [htake, hdrop, hfilter, hhead, Bool.false_or, Bool.false_eq_true, if_false]

theorem readInteger_of_decimals (hne : digits ≠ []) (h : ∀ c ∈ digits, isDecimal c = true) :
    readInteger digits =
      if maxDigits < digits.length then .error (.tooLong digits.length) else .ok (ofDigits digits) := by
  have htake : digits.takeWhile isDecimal = digits := List.takeWhile_eq_self_iff.mpr h
  have hdrop : digits.dropWhile isDecimal = [] := List.dropWhile_eq_nil_iff.mpr h
  rw [readInteger_eq hne fun c hc => isDigit_of_isDecimal (h c hc), htake, hdrop, isGrouped_of_decimals hne h]
  rfl

theorem readInteger_eq_ok_iff (hne : digits ≠ []) (h : ∀ c ∈ digits, isDigit c = true) :
    readInteger digits = .ok n ↔
      (∀ c ∈ digits, isDecimal c = true) ∧ digits.length ≤ maxDigits ∧ n = ofDigits digits := by
  by_cases hall : ∀ c ∈ digits, isDecimal c = true
  · rw [readInteger_of_decimals hne hall]
    by_cases hlong : maxDigits < digits.length
    · rw [if_pos hlong]
      exact iff_of_false (fun h => nomatch h) fun h => absurd hlong (Nat.not_lt.mpr h.2.1)
    · rw [if_neg hlong]
      constructor
      · intro hn
        exact ⟨hall, Nat.le_of_not_lt hlong, (Except.ok.inj hn).symm⟩
      · rintro ⟨-, -, rfl⟩
        rfl
  · -- The first digit that is not decimal is left over, and it is no margin.
    refine iff_of_false (fun hread => ?_) fun hdigits => hall hdigits.1
    have hrest : (digits.dropWhile isDecimal).all isMargin = false := by
      cases hd : digits.dropWhile isDecimal with
      | nil => exact absurd (List.dropWhile_eq_nil_iff.mp hd) hall
      | cons d r =>
        have hmem : d ∈ digits := (List.dropWhile_suffix _).subset (hd ▸ List.mem_cons_self)
        rw [List.all_cons, isMargin_of_isDigit (h d hmem), Bool.false_and]
    rw [readInteger_eq hne h, hrest] at hread
    split at hread
    · cases hread
    · split at hread
      · cases hread
      · cases hread

end SenderPolicy.Text
