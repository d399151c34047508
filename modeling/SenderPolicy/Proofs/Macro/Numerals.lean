import SenderPolicy.Proofs.Macro.Checking

/-!
Numerals that break a check off. The check of macros takes every digit for part of a numeral, and reads the numeral as
an integer; where it is none, the check ends without an answer. The texts that do this to it are told by the grammar of
macros alone.
-/
namespace SenderPolicy.Macro
open Text
variable {c letter : Char} {t r rest inside behind digits : Text} {position n : Nat}

/-- Digits that are read as no integer: one of them is no decimal digit, or they are too many. -/
def IsUnreadable (digits : Text) : Prop := (∃ c ∈ digits, isDecimal c = false) ∨ maxDigits < digits.length

/-- Behind characters and macros in order, the text has a macro with a letter that stands for something, and with digits
that are read as no integer. -/
inductive BreaksOff : Text → Prop
  | numeral {letter : Char} {rest : Text} : isLetter letter = true → '}' ∈ rest →
      IsUnreadable (rest.takeWhile isDigit) → BreaksOff ('%' :: '{' :: letter :: rest)
  | character {c : Char} {r : Text} : c ≠ '%' → BreaksOff r → BreaksOff (c :: r)
  | escape {c : Char} {r : Text} : c ∈ ['%', '_', '-'] → BreaksOff r → BreaksOff ('%' :: c :: r)
  | expansion {m : Macro} {flag inside behind : Text} : m.IsWritten flag inside → m.InOrder → BreaksOff behind →
      BreaksOff ('%' :: '{' :: (inside ++ '}' :: behind))

theorem readInteger_eq_error_iff (hne : digits ≠ []) (h : ∀ c ∈ digits, isDigit c = true) :
    (∃ f, readInteger digits = .error f) ↔ IsUnreadable digits := by
  have hread (k : Int) := readInteger_eq_ok_iff (n := k) hne h
  cases hr : readInteger digits with
  | ok k =>
    obtain ⟨hall, hshort, -⟩ := (hread k).mp hr
    refine iff_of_false (fun ⟨f, hf⟩ => nomatch hf) ?_
    rintro (⟨c, hc, hnot⟩ | hlong)
    · rw [hall c hc] at hnot
      cases hnot
    · omega
  | error f =>
    refine iff_of_true ⟨f, rfl⟩ ?_
    by_contra hreadable
    simp only [IsUnreadable, not_or, not_exists, not_and, Bool.not_eq_false, Nat.not_lt] at hreadable
    rw [(hread _).mpr ⟨hreadable.1, hreadable.2, rfl⟩] at hr
    cases hr

/-! The inside of braces -/

theorem checkDigits_eq_integer_iff (h : ∀ c ∈ digits, isDigit c = true) :
    (∃ f, checkDigits position digits = .error (.integer f)) ↔ IsUnreadable digits := by
  cases digits with
  | nil => exact iff_of_false (fun ⟨f, hf⟩ => nomatch hf) (by simp [IsUnreadable])
  | cons c r =>
    rw [← readInteger_eq_error_iff (List.cons_ne_nil c r) h]
    simp only [checkDigits, List.isEmpty_cons, Bool.false_eq_true, if_false]
    cases readInteger (c :: r) with
    | error f => simp
    | ok k => by_cases hk : k = 0 <;> simp [hk]

theorem checkDelimiters_ne_integer (f : IntegerFault) : checkDelimiters position t ≠ .error (.integer f) := by
  induction t generalizing position with
  | nil => simp [checkDelimiters]
  | cons c r ih =>
    unfold checkDelimiters
    split
    · exact ih
    · simp

theorem checkBody_eq_integer_iff :
    (∃ f, checkBody position (letter :: r) = .error (.integer f)) ↔
      isLetter letter = true ∧ IsUnreadable (r.takeWhile isDigit) := by
  rw [← checkDigits_eq_integer_iff (List.all_eq_true.mp List.all_takeWhile), checkBody]
  cases isLetter letter with
  | false => simp [throw, throwThe, MonadExceptOf.throw, bind, Except.bind]
  | true =>
    change (∃ f, (checkDigits (position + 1) (r.takeWhile isDigit) >>= fun _ =>
      checkDelimiters _ (takeFlag (r.dropWhile isDigit)).2) = .error (.integer f)) ↔ _
    cases hd : checkDigits (position + 1) (r.takeWhile isDigit) with
    | error f => exact ⟨fun h => ⟨rfl, h⟩, fun h => h.2⟩
    | ok u =>
      refine iff_of_false ?_ ?_
      · rintro ⟨f, hf⟩
        exact checkDelimiters_ne_integer f hf
      · rintro ⟨-, f, hf⟩
        cases hf

/-! Percent signs -/

theorem checkPercent_of_closed (h : '}' ∉ inside) :
    checkPercent position ('{' :: (inside ++ '}' :: behind)) =
      (checkBody (position + 2) inside).map fun _ => inside.length + 2 := by
  simp only [checkPercent, cutAtFirst_of_mark h]
  rfl

theorem takeWhile_isDigit_of_closed (inside behind : Text) :
    (inside ++ '}' :: behind).takeWhile isDigit = inside.takeWhile isDigit := by
  induction inside with
  | nil => rfl
  | cons c r ih => by_cases hc : isDigit c = true <;> simp [hc, ih]

theorem checkPercent_of_numeral (position : Nat) (hl : isLetter letter = true) (hclose : '}' ∈ rest)
    (hdigits : IsUnreadable (rest.takeWhile isDigit)) :
    ∃ f, checkPercent position ('{' :: letter :: rest) = .error (.integer f) := by
  obtain ⟨inside, behind, rfl, hinside⟩ := List.eq_append_cons_of_mem hclose
  rw [takeWhile_isDigit_of_closed] at hdigits
  have hletter : '}' ∉ letter :: inside := by
    rw [List.mem_cons, not_or]
    refine ⟨fun heq => ?_, hinside⟩
    rw [← heq] at hl
    exact absurd hl (by decide)
  have hbody : ∃ f, checkBody (position + 2) (letter :: inside) = .error (.integer f) :=
    checkBody_eq_integer_iff.mpr ⟨hl, hdigits⟩
  obtain ⟨f, hf⟩ := hbody
  refine ⟨f, ?_⟩
  rw [← List.cons_append, checkPercent_of_closed hletter, hf]
  rfl

theorem checkPercent_cases (position : Nat) (r : Text) :
    (∃ c r', r = c :: r' ∧ c ∈ ['%', '_', '-'] ∧ checkPercent position r = .ok 1) ∨
    (∃ m flag inside behind, r = '{' :: (inside ++ '}' :: behind) ∧ IsWritten m flag inside ∧ m.InOrder ∧
      checkPercent position r = .ok (inside.length + 2)) ∨
    (∃ letter rest, r = '{' :: letter :: rest ∧ isLetter letter = true ∧ '}' ∈ rest ∧
      IsUnreadable (rest.takeWhile isDigit)) ∨
    ∃ p, checkPercent position r = .error (.misplaced p) := by
  cases r with
  | nil => exact .inr (.inr (.inr ⟨position, rfl⟩))
  | cons c r =>
    by_cases hescape : c = '%' ∨ c = '_' ∨ c = '-'
    · exact .inl ⟨c, r, rfl, by simpa using hescape, by simp only [checkPercent, if_pos hescape]⟩
    by_cases hbrace : c = '{'
    · subst hbrace
      by_cases hclose : '}' ∈ r
      · obtain ⟨inside, behind, rfl, hinside⟩ := List.eq_append_cons_of_mem hclose
        rw [checkPercent_of_closed hinside]
        cases hbody : checkBody (position + 2) inside with
        | ok u =>
          obtain ⟨m, flag, hm, hin⟩ := checkBody_eq_ok_iff.mp hbody
          exact .inr (.inl ⟨m, flag, inside, behind, rfl, hm, hin, rfl⟩)
        | error flaw =>
          cases flaw with
          | misplaced p => exact .inr (.inr (.inr ⟨p, rfl⟩))
          | integer f =>
            cases inside with
            | nil => cases hbody
            | cons letter inside =>
              obtain ⟨hl, hdigits⟩ := checkBody_eq_integer_iff.mp ⟨f, hbody⟩
              rw [← takeWhile_isDigit_of_closed inside behind] at hdigits
              exact .inr (.inr (.inl ⟨letter, inside ++ '}' :: behind, rfl, hl,
                List.mem_append_right _ List.mem_cons_self, hdigits⟩))
      · exact .inr (.inr (.inr ⟨position, checkPercent_of_unclosed hclose⟩))
    · exact .inr (.inr (.inr ⟨position, by simp only [checkPercent, if_neg hescape, if_pos hbrace]⟩))

/-! The whole text -/

theorem checkFrom_past (t behind : Text) (position : Nat) :
    checkFrom position t.length (t ++ behind) = checkFrom (position + t.length) 0 behind := by
  induction t generalizing position with
  | nil => rfl
  | cons c r ih =>
    rw [List.cons_append, List.length_cons, checkFrom, ih, Nat.add_right_comm, Nat.add_assoc]

theorem checkFrom_of_escape (h : checkPercent position (c :: r) = .ok 1) :
    checkFrom position 0 ('%' :: c :: r) = checkFrom (position + 2) 0 r := by
  rw [checkFrom_of_ok h]
  rfl

theorem checkFrom_of_expansion
    (h : checkPercent position ('{' :: (inside ++ '}' :: behind)) = .ok (inside.length + 2)) :
    checkFrom position 0 ('%' :: '{' :: (inside ++ '}' :: behind)) =
      checkFrom (position + inside.length + 3) 0 behind := by
  have hpast := checkFrom_past ('{' :: (inside ++ ['}'])) behind (position + 1)
  have hlength : ('{' :: (inside ++ ['}'])).length = inside.length + 2 := by simp
  have hposition : position + 1 + (inside.length + 2) = position + inside.length + 3 := by omega
  rw [hlength, hposition] at hpast
  rw [checkFrom_of_ok h, ← hpast]
  simp

/-- The check ends without an answer exactly at a numeral that cannot be read, with nothing out of order before it. -/
theorem checkFrom_eq_integer_iff (position : Nat) (t : Text) :
    (∃ f, checkFrom position 0 t = .error (.integer f)) ↔ BreaksOff t := by
  constructor
  · -- each step passes over a character or a whole macro, so that the induction is on the length
    rintro ⟨f, hf⟩
    induction hn : t.length using Nat.strong_induction_on generalizing position t with
    | _ n ih =>
      subst hn
      cases t with
      | nil => cases hf
      | cons c r =>
        by_cases hc : c = '%'
        · subst hc
          obtain ⟨c, r', rfl, hescape, hcheck⟩ | ⟨m, flag, inside, behind, rfl, hm, hin, hcheck⟩ |
            ⟨letter, rest, rfl, hl, hclose, hdigits⟩ | ⟨p, hcheck⟩ := checkPercent_cases position r
          · rw [checkFrom_of_escape hcheck] at hf
            exact .escape hescape (ih _ (by simp only [List.length_cons]; omega) _ _ hf rfl)
          · rw [checkFrom_of_expansion hcheck] at hf
            exact .expansion hm hin (ih _ (by simp only [List.length_cons, List.length_append]; omega) _ _ hf rfl)
          · exact .numeral hl hclose hdigits
          · rw [checkFrom_of_error hcheck] at hf
            cases hf
        · rw [checkFrom_of_ne hc] at hf
          exact .character hc (ih _ (by simp) _ _ hf rfl)
  · intro h
    induction h generalizing position with
    | numeral hl hclose hdigits =>
      obtain ⟨f, hf⟩ := checkPercent_of_numeral position hl hclose hdigits
      exact ⟨f, checkFrom_of_error hf⟩
    | character hc _ ih =>
      rw [checkFrom_of_ne hc]
      exact ih (position + 1)
    | @escape c r hc _ ih =>
      have hcheck : checkPercent position (c :: r) = .ok 1 := by
        simp only [checkPercent, if_pos (show c = '%' ∨ c = '_' ∨ c = '-' by simpa using hc)]
      rw [checkFrom_of_escape hcheck]
      exact ih (position + 2)
    | @expansion m flag inside behind hm hin _ ih =>
      have hbrace := hm.brace_notin (isLatin_of_isLetter hin.letter)
      have hcheck : checkPercent position ('{' :: (inside ++ '}' :: behind)) = .ok (inside.length + 2) := by
        rw [checkPercent_of_closed hbrace, checkBody_eq_ok_iff.mpr ⟨m, flag, hm, hin⟩]
        rfl
      rw [checkFrom_of_expansion hcheck]
      exact ih (position + inside.length + 3)

theorem check_eq_integer_iff (t : Text) : (∃ f, check t = .error (.integer f)) ↔ BreaksOff t :=
  checkFrom_eq_integer_iff 0 t

end SenderPolicy.Macro
