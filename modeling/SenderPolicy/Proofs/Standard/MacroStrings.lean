import SenderPolicy.Proofs.Macro.Expansion
import SenderPolicy.Proofs.Standard.Grammar

/-!
Macro strings of the standard under the scan and the check of macros: each macro is one piece, and nothing is found
wrong with any, unless it has more digits than are read.
-/
namespace SenderPolicy.Standard
open Text
variable {c : Char} {t m spec ending : Text}

theorem isDelimiter_of_mem (h : c ∈ ".-+,/_=".toList) : Macro.isDelimiter c = true :=
  List.contains_iff_mem.mpr h

theorem isLetter_of_mem (h : c.toLower ∈ "slodiphcrtv".toList) : Macro.isLetter c = true :=
  List.contains_iff_mem.mpr h

theorem isFlag_of_eq (h : t = [] ∨ t = ['r'] ∨ t = ['R']) : ∃ b, Macro.IsFlag b t := by
  obtain rfl | rfl | rfl := h
  · exact ⟨false, .absent⟩
  · exact ⟨true, .small⟩
  · exact ⟨true, .capital⟩

theorem ofDigits_ne_zero_of_nonzero (h : ∀ c ∈ t, c.isDigit = true) (hc : ∃ c ∈ t, c ≠ '0') : ofDigits t ≠ 0 := by
  obtain ⟨c, hmem, hne⟩ := hc
  apply ofDigits_ne_zero hmem
  rw [decimalValue_of_isDigit (h c hmem)]
  have hdigit := toNat_of_isDigit (h c hmem)
  have hzero : c.toNat ≠ 48 := fun heq => hne (Char.toNat_inj.mp heq)
  change c.toNat - 48 ≠ 0
  omega

theorem IsMacro.exists_piece (h : IsMacro m) :
    ∃ piece, Macro.Spells m piece ∧
      (piece.InOrder ↔ ∀ x, piece = .expansion x → x.digits.length ≤ maxDigits) := by
  cases h with
  | escape hc =>
    obtain rfl | rfl | rfl := hc
    · exact ⟨.percent, .percent, by simp [Macro.Piece.InOrder]⟩
    · exact ⟨.space, .space, by simp [Macro.Piece.InOrder]⟩
    · exact ⟨.encodedSpace, .encodedSpace, by simp [Macro.Piece.InOrder]⟩
  | @expansion letter digits flag delimiters hletter hdigits hnonzero hflag hdelimiters =>
    obtain ⟨b, hflag⟩ := isFlag_of_eq hflag
    have hl := isLetter_of_mem hletter
    have hwritten : Macro.IsWritten ⟨letter, digits, b, delimiters⟩ flag (letter :: (digits ++ (flag ++ delimiters))) :=
      ⟨rfl, hflag, fun c hc => isDecimal_of_isDigit (hdigits c hc), fun c hc => isDelimiter_of_mem (hdelimiters c hc)⟩
    refine ⟨.expansion ⟨letter, digits, b, delimiters⟩, ?_, ?_⟩
    · have htext : '%' :: '{' :: letter :: (digits ++ (flag ++ (delimiters ++ ['}']))) =
          Macro.braced (letter :: (digits ++ (flag ++ delimiters))) := by simp [Macro.braced]
      rw [htext]
      exact .expansion hwritten (Macro.isLatin_of_isLetter hl)
    · constructor
      · rintro hin x ⟨⟩
        exact Macro.InOrder.short hin
      · intro hshort
        exact ⟨hl, fun hne => ofDigits_ne_zero_of_nonzero hdigits (hnonzero hne), hshort _ rfl⟩

theorem scan_literal (h : IsLiteral c) (rest : Text) : Macro.scan (c :: rest) = .character c :: Macro.scan rest := by
  apply Macro.scanFrom_of_none
  apply Macro.front?_eq_none
  intro d r heq
  exact absurd (List.cons.inj heq).1 h.2.2

theorem scan_append (h : IsMacroString t) (rest : Text) :
    Macro.scan (t ++ rest) = Macro.scan t ++ Macro.scan rest := by
  induction h with
  | nil => rfl
  | literal hc _ ih => rw [List.cons_append, scan_literal hc, scan_literal hc, ih, List.cons_append]
  | expanded hm _ ih =>
    obtain ⟨piece, hspells, -⟩ := hm.exists_piece
    rw [List.append_assoc, Macro.scan_of_spells hspells, Macro.scan_of_spells hspells, ih, List.cons_append]

theorem inOrder_iff (h : IsMacroString t) :
    ∀ piece ∈ Macro.scan t, (piece.InOrder ↔ ∀ x, piece = .expansion x → x.digits.length ≤ maxDigits) := by
  induction h with
  | nil =>
    intro piece hp
    cases hp
  | literal hc _ ih =>
    rw [scan_literal hc, List.forall_mem_cons]
    exact ⟨by simpa [Macro.Piece.InOrder] using hc.2.2, ih⟩
  | expanded hm _ ih =>
    obtain ⟨piece, hspells, hin⟩ := hm.exists_piece
    rw [Macro.scan_of_spells hspells, List.forall_mem_cons]
    exact ⟨hin, ih⟩

theorem check_eq_ok_iff_isShort (h : IsMacroString t) : Macro.check t = .ok () ↔ Macro.IsShort t := by
  unfold Macro.check
  rw [Macro.checkFrom_eq_ok_iff]
  constructor
  · intro hall x hx
    exact (inOrder_iff h _ hx).mp (hall _ hx) x rfl
  · intro hshort piece hp
    apply (inOrder_iff h piece hp).mpr
    rintro x rfl
    exact hshort x hp

/-! Macro strings put together -/

theorem IsMacroString.append {u : Text} (ht : IsMacroString t) (hu : IsMacroString u) : IsMacroString (t ++ u) := by
  induction ht with
  | nil => exact hu
  | literal hc _ ih => exact .literal hc ih
  | expanded hm _ ih =>
    rw [List.append_assoc]
    exact .expanded hm ih

theorem IsMacroString.of_literals (h : ∀ c ∈ t, IsLiteral c) : IsMacroString t := by
  induction t with
  | nil => exact .nil
  | cons c r ih =>
    rw [List.forall_mem_cons] at h
    exact .literal h.1 (ih h.2)

theorem IsMacro.isMacroString (h : IsMacro m) : IsMacroString m := by
  simpa using IsMacroString.expanded h .nil

end SenderPolicy.Standard
