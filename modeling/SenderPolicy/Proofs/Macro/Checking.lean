import SenderPolicy.Macro.Check
import SenderPolicy.Proofs.Failure
import SenderPolicy.Proofs.Macro.Pieces
import SenderPolicy.Proofs.Text.Ascii

/-!
The check of macros against their scan. The two read one grammar: the check finds no flaw exactly where the scan
takes every percent sign for the beginning of a macro, each letter stands for something, and digits mean a
number other than zero that is not too long to be read.
-/
namespace SenderPolicy.Macro
open Text
variable {c : Char} {m : Macro} {t r inside behind : Text} {n position : Nat}

structure InOrder (m : Macro) : Prop where
  letter : isLetter m.letter = true
  nonzero : m.digits ≠ [] → ofDigits m.digits ≠ 0
  short : m.digits.length ≤ maxDigits

theorem letter_classes :
    (['s', 'l', 'o', 'd', 'i', 'p', 'h', 'c', 'r', 't', 'v'].all fun c => c.isLower) = true := by
  decide

theorem isLatin_of_isLetter (h : isLetter c = true) : isLatin c = true := by
  have hlower := List.all_eq_true.mp letter_classes c.toLower (List.contains_iff_mem.mp h)
  unfold isLatin folded
  split
  · decide
  · split
    · decide
    · split
      · decide
      · exact hlower

/-! The inside of braces -/

theorem checkDigits_eq_ok_iff (h : ∀ c ∈ t, isDigit c = true) :
    checkDigits position t = .ok () ↔
      (∀ c ∈ t, isDecimal c = true) ∧ t.length ≤ maxDigits ∧ (t ≠ [] → ofDigits t ≠ 0) := by
  cases t with
  | nil => exact iff_of_true rfl ⟨fun c hc => (nomatch hc), Nat.zero_le _, fun hne => absurd rfl hne⟩
  | cons c r =>
    have hne : c :: r ≠ [] := List.cons_ne_nil c r
    have hread (k : Int) := readInteger_eq_ok_iff (n := k) hne h
    unfold checkDigits
    rw [if_neg (by simp)]
    cases hr : readInteger (c :: r) with
    | error f =>
      refine iff_of_false (fun hok => nomatch hok) fun ⟨hall, hshort, _⟩ => ?_
      rw [(hread _).mpr ⟨hall, hshort, rfl⟩] at hr
      cases hr
    | ok k =>
      obtain ⟨hall, hshort, rfl⟩ := (hread k).mp hr
      dsimp only
      by_cases hzero : ofDigits (c :: r) = 0
      · rw [if_pos (Int.natCast_eq_zero.mpr hzero)]
        exact iff_of_false (fun hok => nomatch hok) fun hdigits => hdigits.2.2 hne hzero
      · rw [if_neg (Int.natCast_ne_zero.mpr hzero)]
        exact iff_of_true rfl ⟨hall, hshort, fun _ => hzero⟩

theorem checkDelimiters_eq_ok_iff :
    checkDelimiters position t = .ok () ↔ ∀ c ∈ t, isDelimiter c = true := by
  induction t generalizing position with
  | nil => simp [checkDelimiters]
  | cons c r ih =>
    unfold checkDelimiters
    rw [List.forall_mem_cons]
    split
    · rename_i hc
      rw [ih]
      exact ⟨fun h => ⟨hc, h⟩, fun h => h.2⟩
    · rename_i hc
      exact iff_of_false (fun h => nomatch h) fun h => hc h.1

theorem checkBody_cons_eq_ok_iff {letter : Char} :
    checkBody position (letter :: r) = .ok () ↔
      isLetter letter = true ∧ checkDigits (position + 1) (r.takeWhile isDigit) = .ok () ∧
        ∀ c ∈ (takeFlag (r.dropWhile isDigit)).2, isDelimiter c = true := by
  rw [checkBody]
  cases isLetter letter with
  | false => exact iff_of_false (fun h => nomatch h) fun h => nomatch h.1
  | true =>
    change (checkDigits (position + 1) (r.takeWhile isDigit) >>= fun _ =>
      checkDelimiters _ (takeFlag (r.dropWhile isDigit)).2) = .ok () ↔ _
    cases checkDigits (position + 1) (r.takeWhile isDigit) with
    | error f => exact iff_of_false (fun h => nomatch h) fun h => nomatch h.2.1
    | ok _ => exact checkDelimiters_eq_ok_iff.trans ⟨fun h => ⟨rfl, rfl, h⟩, fun h => h.2.2⟩

theorem checkBody_eq_ok_iff :
    checkBody position inside = .ok () ↔ ∃ m flag, IsWritten m flag inside ∧ m.InOrder := by
  constructor
  · intro h
    cases inside with
    | nil => cases h
    | cons letter r =>
      obtain ⟨hl, hdigits, hdelimiters⟩ := checkBody_cons_eq_ok_iff.mp h
      obtain ⟨hdecimal, hshort, hzero⟩ :=
        (checkDigits_eq_ok_iff (List.all_eq_true.mp List.all_takeWhile)).mp hdigits
      obtain ⟨flag, hflag, hcut⟩ := exists_flag (r.dropWhile isDigit)
      refine ⟨⟨letter, r.takeWhile isDigit, (takeFlag (r.dropWhile isDigit)).1,
        (takeFlag (r.dropWhile isDigit)).2⟩, flag, ⟨?_, hflag, hdecimal, hdelimiters⟩, ⟨hl, hzero, hshort⟩⟩
      simp only [← hcut, List.takeWhile_append_dropWhile]
  · rintro ⟨m, flag, hm, hin⟩
    have hdigits : ∀ c ∈ m.digits, isDigit c = true := fun c hc => isDigit_of_isDecimal (hm.digits c hc)
    have hend : ∀ c, ([] : Text).head? = some c → c = '}' := fun c hc => nomatch hc
    have hstop := head_of_tail hm.isFlag hm.delimiters hend
    have hflag := takeFlag_of_isFlag hm.isFlag (head_behind_flag hm.delimiters hend)
    rw [List.append_nil] at hstop hflag
    obtain ⟨htake, hdrop⟩ := takeWhile_append_of_stop hdigits hstop
    rw [hm.text, checkBody_cons_eq_ok_iff, htake, hdrop, hflag, checkDigits_eq_ok_iff hdigits]
    exact ⟨hin.letter, ⟨hm.digits, hin.short, hin.nonzero⟩, hm.delimiters⟩

/-! Percent signs -/

def Piece.InOrder : Piece → Prop
  | .character c => c ≠ '%'
  | .expansion m => m.InOrder
  | _ => True

theorem checkPercent_of_brace (hbrace : '}' ∉ inside) :
    checkPercent position ('{' :: (inside ++ '}' :: behind)) = .ok n ↔
      ∃ piece, front? ('%' :: '{' :: (inside ++ '}' :: behind)) = some (piece, n + 1) ∧ piece.InOrder := by
  have hcheck : checkPercent position ('{' :: (inside ++ '}' :: behind)) =
      (checkBody (position + 2) inside).map fun _ => inside.length + 2 := by
    simp only [checkPercent, cutAtFirst_of_mark hbrace]
    rfl
  rw [hcheck]
  constructor
  · intro h
    obtain ⟨_, hbody, rfl⟩ := of_map_eq_ok h
    obtain ⟨m, flag, hm, hin⟩ := checkBody_eq_ok_iff.mp hbody
    refine ⟨.expansion m, ?_, hin⟩
    simp only [front?, body?_of_written hm (isLatin_of_isLetter hin.letter), Option.map_some]
  · rintro ⟨piece, hpiece, hin⟩
    obtain ⟨⟨m, k⟩, hbody, hpair⟩ := Option.map_eq_some_iff.mp hpiece
    cases hpair
    obtain ⟨flag, inside', behind', htext, hm, hl, rfl⟩ := body?_eq_some hbody
    -- The scan closes the macro at the first brace, as the check does.
    have hsame : (inside, some behind) = (inside', some behind') := by
      rw [← cutAtFirst_of_mark hbrace, htext, cutAtFirst_of_mark (hm.brace_notin hl)]
    cases hsame
    rw [checkBody_eq_ok_iff.mpr ⟨m, flag, hm, hin⟩]
    rfl

theorem checkPercent_of_unclosed (h : '}' ∉ r) :
    checkPercent position ('{' :: r) = .error (.misplaced position) := by
  simp only [checkPercent, cutAtFirst_of_notin h]
  rfl

theorem checkPercent_eq_ok_iff :
    checkPercent position r = .ok n ↔ ∃ piece, front? ('%' :: r) = some (piece, n + 1) ∧ piece.InOrder := by
  have escape {r : Text} {piece : Piece} (hcheck : checkPercent position r = .ok 1)
      (hfront : front? ('%' :: r) = some (piece, 2)) (hin : piece.InOrder) :
      checkPercent position r = .ok n ↔
        ∃ piece, front? ('%' :: r) = some (piece, n + 1) ∧ piece.InOrder := by
    rw [hcheck, hfront]
    constructor
    · rintro ⟨⟩
      exact ⟨piece, rfl, hin⟩
    · rintro ⟨_, ⟨⟩, -⟩
      rfl
  have flaw {r : Text} (hcheck : checkPercent position r = .error (.misplaced position))
      (hfront : front? ('%' :: r) = none) :
      checkPercent position r = .ok n ↔
        ∃ piece, front? ('%' :: r) = some (piece, n + 1) ∧ piece.InOrder := by
    rw [hcheck, hfront]
    exact iff_of_false (fun h => nomatch h) fun ⟨_, h, _⟩ => nomatch h
  cases r with
  | nil => exact flaw rfl rfl
  | cons c r =>
    obtain rfl | hpercent := eq_or_ne c '%'
    · exact escape rfl rfl trivial
    obtain rfl | hlow := eq_or_ne c '_'
    · exact escape rfl rfl trivial
    obtain rfl | hhyphen := eq_or_ne c '-'
    · exact escape rfl rfl trivial
    obtain rfl | hbrace := eq_or_ne c '{'
    · by_cases hclose : '}' ∈ r
      · obtain ⟨inside, behind, rfl, hinside⟩ := List.eq_append_cons_of_mem hclose
        exact checkPercent_of_brace hinside
      · exact flaw (checkPercent_of_unclosed hclose) (front?_of_unclosed hclose)
    · refine flaw ?_ (front?_eq_none fun d rest ht => ?_)
      · simp only [checkPercent, hpercent, hlow, hhyphen, or_self, if_false, if_pos hbrace]
      · rw [← (List.cons.inj (List.cons.inj ht).2).1]
        simp [hpercent, hlow, hhyphen, hbrace]

/-! One step of the check -/

theorem checkFrom_of_ok (h : checkPercent position r = .ok n) :
    checkFrom position 0 ('%' :: r) = checkFrom (position + 1) n r := by
  simp only [checkFrom, if_true, h]
  rfl

theorem checkFrom_of_error {f : Flaw} (h : checkPercent position r = .error f) :
    checkFrom position 0 ('%' :: r) = .error f := by
  simp only [checkFrom, if_true, h]
  rfl

theorem checkFrom_of_ne (h : c ≠ '%') : checkFrom position 0 (c :: r) = checkFrom (position + 1) 0 r := by
  simp only [checkFrom, if_neg h]

/-- Where a percent sign is refused, the scan finds it as a character or finds a macro that is not in order. -/
theorem not_inOrder_of_error {f : Flaw} (h : checkPercent position r = .error f) :
    ∃ piece ∈ scanFrom 0 ('%' :: r), ¬ piece.InOrder := by
  cases hfront : front? ('%' :: r) with
  | none => exact ⟨.character '%', scanFrom_of_none hfront ▸ List.mem_cons_self, fun hin => hin rfl⟩
  | some x =>
    obtain ⟨piece, width⟩ := x
    obtain ⟨-, k, rfl⟩ := begins_of_front? hfront
    refine ⟨piece, scanFrom_of_front hfront ▸ List.mem_cons_self, fun hin => ?_⟩
    rw [checkPercent_eq_ok_iff.mpr ⟨piece, hfront, hin⟩] at h
    cases h

/-- What is checked is what is scanned: no flaw is found exactly if all that the scan finds is in order. -/
theorem checkFrom_eq_ok_iff (position n : Nat) (t : Text) :
    checkFrom position n t = .ok () ↔ ∀ piece ∈ scanFrom n t, piece.InOrder := by
  -- The two pass over the same characters, so that one induction serves both.
  induction t generalizing position n with
  | nil => simp [checkFrom, scanFrom]
  | cons c r ih =>
    cases n with
    | succ n => exact ih (position + 1) n
    | zero =>
      by_cases hc : c = '%'
      · subst hc
        cases hcheck : checkPercent position r with
        | ok width =>
          obtain ⟨piece, hfront, hin⟩ := checkPercent_eq_ok_iff.mp hcheck
          rw [checkFrom_of_ok hcheck, scanFrom_of_front hfront, ih, List.forall_mem_cons]
          exact ⟨fun h => ⟨hin, h⟩, fun h => h.2⟩
        | error f =>
          obtain ⟨piece, hmem, hnot⟩ := not_inOrder_of_error hcheck
          rw [checkFrom_of_error hcheck]
          exact iff_of_false (by simp) fun h => hnot (h piece hmem)
      · have hnone : front? (c :: r) = none :=
          front?_eq_none fun d rest ht => absurd (List.cons.inj ht).1 hc
        rw [checkFrom_of_ne hc, scanFrom_of_none hnone, ih, List.forall_mem_cons]
        exact ⟨fun h => ⟨hc, h⟩, fun h => h.2⟩

/-! Letters -/

def letters : Text := "slodiphcrtv"

theorem latinLetters_mean_nothing : (['İ', 'ı', 'ſ', '\u212A'].all fun c =>
    !isLetter c && letters.all fun x => lower [c] != [x]) = true := by
  decide +kernel

theorem eq_of_latinRanges (h : latinRanges.covers c = true) : c ∈ ['İ', 'ı', 'ſ', '\u212A'] := by
  have hnat : c.toNat = 'İ'.toNat ∨ c.toNat = 'ı'.toNat ∨ c.toNat = 'ſ'.toNat ∨ c.toNat = '\u212A'.toNat := by
    simp only [Ranges.covers, latinRanges, List.any_cons, List.any_nil, Bool.or_false, Bool.or_eq_true,
      Bool.and_eq_true, decide_eq_true_eq] at h
    change c.toNat = 0x130 ∨ c.toNat = 0x131 ∨ c.toNat = 0x17F ∨ c.toNat = 0x212A
    omega
  rcases hnat with h | h | h | h
  all_goals
    rw [Char.toNat_inj.mp h]
    decide

/-- Of the Latin letters those stand for something whose lower-case form does. -/
theorem isLetter_iff (h : isLatin c = true) : isLetter c = true ↔ ∃ x ∈ letters, lower [c] = [x] := by
  by_cases hascii : c.toNat < 128
  · have hlower : lower [c] = [c.toLower] := lower_of_ascii (by simpa using hascii)
    rw [hlower]
    simp only [isLetter, List.contains_iff_mem, List.cons.injEq, and_true, exists_eq_right']
    rfl
  · have hcovers : latinRanges.covers c = true := by
      by_contra hout
      rw [isLatin_of_beyond (by omega) (Bool.eq_false_iff.mpr hout)] at h
      cases h
    have hnothing := List.all_eq_true.mp latinLetters_mean_nothing c (eq_of_latinRanges hcovers)
    simp only [Bool.and_eq_true, Bool.not_eq_true', List.all_eq_true, bne_iff_ne] at hnothing
    exact iff_of_false (Bool.eq_false_iff.mp hnothing.1) fun ⟨x, hx, heq⟩ => hnothing.2 x hx heq

/-- The macro's letter stands for something, and digits mean a number other than zero. -/
structure IsMeaningful (m : Macro) : Prop where
  letter : ∃ x ∈ letters, lower [m.letter] = [x]
  digits : m.digits ≠ [] → ofDigits m.digits ≠ 0

/-- The check finds no flaw exactly if the scan leaves no percent sign, and all of its macros are meaningful and
have no more digits than are read as an integer. -/
theorem check_eq_ok_iff (t : Text) :
    check t = .ok () ↔ .character '%' ∉ scan t ∧
      ∀ m, .expansion m ∈ scan t → m.IsMeaningful ∧ m.digits.length ≤ maxDigits := by
  unfold check scan
  rw [checkFrom_eq_ok_iff]
  constructor
  · intro h
    refine ⟨fun hmem => h _ hmem rfl, fun m hm => ?_⟩
    have hin : m.InOrder := h _ hm
    exact ⟨⟨(isLetter_iff (isLatin_of_mem_scanFrom hm)).mp hin.letter, hin.nonzero⟩, hin.short⟩
  · rintro ⟨hpercent, hall⟩ piece hmem
    cases piece with
    | character c => exact fun heq => hpercent (heq ▸ hmem)
    | expansion m =>
      obtain ⟨hmeaning, hshort⟩ := hall m hmem
      exact ⟨(isLetter_iff (isLatin_of_mem_scanFrom hmem)).mpr hmeaning.letter, hmeaning.digits, hshort⟩
    | percent | space | encodedSpace => trivial

/-! Numerals that are too long -/

def onesMacro (count : Nat) : Text := '%' :: '{' :: 'd' :: (List.replicate count '1' ++ ['}'])

theorem onesMacro_written (count : Nat) :
    IsWritten ⟨'d', List.replicate count '1', false, []⟩ [] ('d' :: List.replicate count '1') where
  text := by simp
  isFlag := .absent
  digits c hc := by rw [List.eq_of_mem_replicate hc]; decide
  delimiters c hc := nomatch hc

theorem scan_onesMacro (count : Nat) :
    scan (onesMacro count) = [.expansion ⟨'d', List.replicate count '1', false, []⟩] :=
  scan_braced (onesMacro_written count) (show isLatin 'd' = true by decide)

/-- A meaningful macro is refused if it has too many digits. -/
theorem long_numeral_is_refused :
    (.character '%' ∉ scan (onesMacro 4301) ∧ ∀ m, .expansion m ∈ scan (onesMacro 4301) → m.IsMeaningful) ∧
      check (onesMacro 4301) ≠ .ok () := by
  have hscan := scan_onesMacro 4301
  refine ⟨⟨?_, fun m hm => ?_⟩, fun hok => ?_⟩
  · rw [hscan, List.mem_singleton]
    exact fun h => nomatch h
  · rw [hscan, List.mem_singleton] at hm
    cases hm
    exact ⟨⟨'d', by decide, by decide⟩, fun _ => ofDigits_cons_ne_zero (by decide) (List.replicate 4300 '1')⟩
  · have hin := (checkFrom_eq_ok_iff 0 0 (onesMacro 4301)).mp hok _ (hscan ▸ List.mem_singleton_self _)
    have hshort : (List.replicate 4301 '1').length ≤ maxDigits := hin.short
    rw [List.length_replicate] at hshort
    exact absurd hshort (by decide)

end SenderPolicy.Macro
