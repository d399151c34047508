import SenderPolicy.Proofs.Audit.Departure
import SenderPolicy.Proofs.Standard.DomainNames

/-!
Prefix lengths of the standard behind a host. They are passed where they are cut from the host; where a brace of the host
is open they stay a part of it.
-/
namespace SenderPolicy.Standard
open Text Audit
variable {c : Char} {t : Term} {spec lengths cidr : Text} {n : Nat}

theorem readLength_decimal (h : n ≤ 128) : readLength (decimal n) = .ok n := by
  have hdigits : ∀ c ∈ decimal n, c.isDigit = true := fun c => isDigit_of_mem_decimal
  have hthree : (decimal n).length ≤ 3 := (Nat.length_toDigits_le_iff (by decide) (by decide)).mpr (by omega)
  have hshort : ¬ maxDigits < (decimal n).length := Nat.not_lt.mpr (Nat.le_trans hthree (by decide))
  rw [readLength_of_isLength ⟨decimal_ne_nil n, fun c hc => isDecimal_of_isDigit (hdigits c hc)⟩, if_neg hshort,
    ofDigits_eq_readDigits hdigits, readDigits_decimal]

theorem splitLengths?_of_isDual {IsShort IsLong : Text → Prop} (h : IsDual IsShort IsLong cidr)
    (hshort : ∀ s, IsShort s → Audit.IsLength s) (hlong : ∀ l, IsLong l → Audit.IsLength l) :
    ∃ short long, splitLengths? cidr = some (short, long) ∧ (∀ s, short = some s → IsShort s) ∧
      ∀ l, long = some l → IsLong l := by
  have hslash (rest : Text) : ∀ c, ('/' :: rest).head? = some c → isDecimal c = false := by
    rintro c ⟨⟩
    decide +kernel
  cases h with
  | short hs =>
    obtain ⟨hne, hdecimal⟩ := hshort _ hs
    obtain ⟨htake, hdrop⟩ := takeWhile_append_of_stop (y := []) hdecimal (by simp)
    rw [List.append_nil] at htake hdrop
    exact ⟨some cidr, none, by simp [splitLengths?, htake, hdrop, hne], by rintro _ ⟨⟩; exact hs, by simp⟩
  | @long l hl =>
    obtain ⟨hne, hdecimal⟩ := hlong _ hl
    obtain ⟨htake, hdrop⟩ := takeWhile_append_of_stop (x := []) (p := isDecimal) (by simp) (hslash l)
    rw [List.nil_append] at htake hdrop
    exact ⟨none, some l, by simpa [splitLengths?, htake, hdrop, hne] using hdecimal, by simp, by rintro _ ⟨⟩; exact hl⟩
  | @both s l hs hl =>
    obtain ⟨hne, hdecimal⟩ := hshort _ hs
    obtain ⟨hne', hdecimal'⟩ := hlong _ hl
    obtain ⟨htake, hdrop⟩ := takeWhile_append_of_stop hdecimal (hslash ('/' :: l))
    refine ⟨some s, some l, ?_, by rintro _ ⟨⟩; exact hs, by rintro _ ⟨⟩; exact hl⟩
    simpa [splitLengths?, htake, hdrop, hne, hne'] using hdecimal'

theorem isLength_of_isPrefixLength {most : Nat} {length : Text} (h : IsPrefixLength most length) :
    Audit.IsLength length := by
  obtain ⟨n, -, rfl⟩ := h
  exact ⟨decimal_ne_nil n, fun c hc => isDecimal_of_isDigit (isDigit_of_mem_decimal hc)⟩

theorem checkLengths_of_isDual (hk : t.kind.takesLengths = true) (hc : t.cidr = some cidr)
    (h : IsDual (IsPrefixLength 32) (IsPrefixLength 128) cidr) : checkLengths t = .ok () := by
  obtain ⟨short, long, hsplit, hshort, hlong⟩ := splitLengths?_of_isDual h
    (fun s hs => isLength_of_isPrefixLength hs) (fun l hl => isLength_of_isPrefixLength hl)
  simp only [checkLengths, hc, hk, hsplit, Bool.not_true, Bool.false_eq_true, if_false]
  cases short with
  | none =>
    cases long with
    | none => rfl
    | some l =>
      obtain ⟨n, hn, rfl⟩ := hlong l rfl
      have hbound : ¬ (128 : Int) < n := by omega
      simp only [readLength_decimal hn, ok_bind, if_neg hbound]
      rfl
  | some s =>
    obtain ⟨m, hm, rfl⟩ := hshort s rfl
    have hread : readLength (decimal m) = .ok m := readLength_decimal (by omega)
    have hbound : ¬ (32 : Int) < m := by omega
    cases long with
    | none =>
      simp only [hread, ok_bind, if_neg hbound]
      rfl
    | some l =>
      obtain ⟨n, hn, rfl⟩ := hlong l rfl
      have hbound' : ¬ (128 : Int) < n := by omega
      simp only [hread, readLength_decimal hn, ok_bind, if_neg hbound, if_neg hbound']
      rfl

/-! Characters -/

theorem characters_of_isDual {IsShort IsLong : Text → Prop} {p : Char → Prop} (h : IsDual IsShort IsLong cidr)
    (hshort : ∀ s, IsShort s → ∀ c ∈ s, p c) (hlong : ∀ l, IsLong l → ∀ c ∈ l, p c) : ∀ c ∈ cidr, p c ∨ c = '/' := by
  intro c hc
  cases h with
  | short hs => exact .inl (hshort _ hs c hc)
  | long hl =>
    obtain rfl | hc := List.mem_cons.mp hc
    · exact .inr rfl
    · exact .inl (hlong _ hl c hc)
  | both hs hl =>
    simp only [List.mem_append, List.mem_cons] at hc
    obtain hc | rfl | rfl | hc := hc
    · exact .inl (hshort _ hs c hc)
    · exact .inr rfl
    · exact .inr rfl
    · exact .inl (hlong _ hl c hc)

theorem isDigit_of_mem_length {most : Nat} {length : Text} (h : IsPrefixLength most length) :
    ∀ c ∈ length, c.isDigit = true := by
  obtain ⟨n, -, rfl⟩ := h
  exact fun c => isDigit_of_mem_decimal

theorem IsLength.characters {most : Nat} (h : IsLength most lengths) : ∀ c ∈ lengths, c.isDigit = true ∨ c = '/' := by
  cases h with
  | absent => simp
  | present hn =>
    rw [List.forall_mem_cons]
    exact ⟨.inr rfl, fun c hc => .inl (isDigit_of_mem_decimal hc)⟩

theorem IsDualLength.characters (h : IsDualLength lengths) : ∀ c ∈ lengths, c.isDigit = true ∨ c = '/' := by
  cases h with
  | absent => simp
  | present hdual =>
    rw [List.forall_mem_cons]
    exact ⟨.inr rfl, characters_of_isDual hdual (fun _ => isDigit_of_mem_length) fun _ => isDigit_of_mem_length⟩

theorem IsDualLength.isSeparator (h : IsDualLength lengths) :
    ∀ c, lengths.head? = some c → Term.isSeparator c = true := by
  cases h <;> simp [Term.isSeparator]

theorem isLiteral_of_length (h : c.isDigit = true ∨ c = '/') : IsLiteral c := by
  obtain h | rfl := h
  · exact isLiteral_of_isAlphanum (isAlphanum_of_isDigit h)
  · simp [IsLiteral]

theorem isValueCharacter_of_length (h : c.isDigit = true ∨ c = '/') : isValueCharacter c = true := by
  obtain h | rfl := h
  · exact isValueCharacter_of_isAlphanum (isAlphanum_of_isDigit h)
  · decide

/-! The cut -/

theorem checkLengths_ne_ok (hc : t.cidr = some cidr) (hmark : ∃ c ∈ cidr, c = '.' ∨ c = '%') :
    checkLengths t ≠ .ok () := by
  obtain ⟨c, hmem, hmark⟩ := hmark
  have hsplit : splitLengths? cidr = none := by
    cases hs : splitLengths? cidr with
    | none => rfl
    | some lengths =>
      obtain ⟨short, long⟩ := lengths
      obtain ⟨hshort, hlong⟩ := isLength_of_splitLengths? hs
      have hplain := characters_of_isDual (isDual_of_splitLengths? hs hshort hlong) (fun _ h => h.2) (fun _ h => h.2) c hmem
      obtain rfl | rfl := hmark <;> exact absurd hplain (by decide +kernel)
  unfold checkLengths
  cases hk : t.kind.takesLengths <;> simp [hc, hsplit]

/-- Prefix lengths are cut off at their slash, or are left where they stand. -/
theorem cutLengthsAt_lengths (h : IsDualLength lengths) (depth : Nat) :
    ∃ extra cidr?, Term.cutLengthsAt depth lengths = (extra, cidr?) ∧ (∀ c ∈ extra, c.isDigit = true ∨ c = '/') ∧
      ∀ cidr, cidr? = some cidr → IsDual (IsPrefixLength 32) (IsPrefixLength 128) cidr := by
  have hplain := h.characters
  cases h with
  | absent => exact ⟨[], none, rfl, by simp, by simp⟩
  | @present cidr hdual =>
    cases depth with
    | zero => exact ⟨[], some cidr, by simp [Term.cutLengthsAt], by simp, by rintro _ ⟨⟩; exact hdual⟩
    | succ depth =>
      have hbare : ∀ c ∈ '/' :: cidr, c ≠ '{' ∧ c ≠ '}' := by
        intro c hc
        constructor <;> (rintro rfl; exact absurd (hplain _ hc) (by decide))
      have hcut : Term.cutLengthsAt (depth + 1) ('/' :: cidr) = ('/' :: cidr, none) := by
        simpa [Term.cutLengthsAt] using cutLengthsAt_within hbare []
      exact ⟨'/' :: cidr, none, hcut, hplain, by simp⟩

theorem isShort_append {extra : Text} (hspec : IsMacroString spec) (hextra : ∀ c ∈ extra, IsLiteral c) :
    Macro.IsShort (spec ++ extra) ↔ Macro.IsShort spec := by
  have hnone : ∀ m, .expansion m ∉ Macro.scan extra := by
    induction extra with
    | nil =>
      intro m hm
      cases hm
    | cons c r ih =>
      rw [List.forall_mem_cons] at hextra
      intro m hm
      rw [scan_literal hextra.1] at hm
      obtain hm | hm := List.mem_cons.mp hm
      · cases hm
      · exact ih hextra.2 m hm
  unfold Macro.IsShort
  simp [scan_append hspec, hnone]

end SenderPolicy.Standard
