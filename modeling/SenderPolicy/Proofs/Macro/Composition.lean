import Mathlib.Data.List.DropRight
import SenderPolicy.Proofs.Macro.Expansion
import SenderPolicy.Proofs.Macro.Pieces

/-!
Templates put together. A template in order leaves no macro open at its end, so that what follows it is expanded by
itself; and a macro is put in for by the parts of its value, whatever characters stand there.
-/
namespace SenderPolicy.Text

/-- The text is taken apart at each of the marks. -/
inductive Splits (marks : Text) : Text → List Text → Prop
  | whole {t : Text} : (∀ c ∈ t, c ∉ marks) → Splits marks t [t]
  | cut {t rest : Text} {mark : Char} {parts : List Text} : (∀ c ∈ t, c ∉ marks) → mark ∈ marks →
      Splits marks rest parts → Splits marks (t ++ mark :: rest) (t :: parts)

namespace Splits
variable {marks t : Text} {c : Char} {parts : List Text}

theorem eq_pieces (h : Splits marks t parts) : parts = pieces (marks.contains ·) t := by
  induction h with
  | whole hplain => exact (pieces_of_uncut (by simpa using hplain)).symm
  | cut hplain hmark _ ih =>
    rw [pieces_append (by simpa using hmark), pieces_of_uncut (by simpa using hplain), ← ih, List.singleton_append]

theorem cons (h : Splits marks t parts) (hc : c ∉ marks) :
    ∃ p ps, parts = p :: ps ∧ Splits marks (c :: t) ((c :: p) :: ps) := by
  cases h with
  | whole hplain => exact ⟨_, _, rfl, .whole (List.forall_mem_cons.mpr ⟨hc, hplain⟩)⟩
  | cut hplain hmark hrest => exact ⟨_, _, rfl, .cut (List.forall_mem_cons.mpr ⟨hc, hplain⟩) hmark hrest⟩

theorem of_pieces (marks t : Text) : Splits marks t (pieces (marks.contains ·) t) := by
  induction t with
  | nil => exact .whole fun c hc => nomatch hc
  | cons c r ih =>
    by_cases hc : c ∈ marks
    · rw [pieces, if_pos (by simpa using hc)]
      exact .cut (t := []) (fun c hc => nomatch hc) hc ih
    · rw [pieces, if_neg (by simpa using hc)]
      obtain ⟨p, ps, hp, hsplits⟩ := ih.cons hc
      rw [hp]
      exact hsplits

end Splits
end SenderPolicy.Text

namespace SenderPolicy.Macro
open Text
variable {c : Context} {m : Macro} {flag inside : Text}

/-! Pieces -/

theorem expandPieces_append {ps : List Piece} {x : Text} (h : expandPieces c ps = .ok x) (qs : List Piece) :
    expandPieces c (ps ++ qs) = (expandPieces c qs).map (x ++ ·) := by
  induction ps generalizing x with
  | nil =>
    cases h
    cases hqs : expandPieces c qs <;> simp [Except.map, hqs]
  | cons p rest ih =>
    rw [expandPieces] at h
    obtain ⟨y, hy, h⟩ := of_bind_eq_ok h
    obtain ⟨z, hz, h⟩ := of_bind_eq_ok h
    cases h
    rw [List.cons_append, expandPieces, hy, ok_bind, ih hz]
    cases expandPieces c qs with
    | error f => rfl
    | ok u => exact congrArg Except.ok (List.append_assoc y z u).symm

/-! One macro -/

theorem inOrder_of_check (h : m.IsWritten flag inside) (hcheck : check (braced inside) = .ok ()) :
    isLatin m.letter = true ∧ m.InOrder := by
  have hall := (checkFrom_eq_ok_iff 0 0 (braced inside)).mp hcheck
  have hl : isLatin m.letter = true := by
    by_contra hl
    have hnone : front? (braced inside) = none := by
      simp only [braced, front?, h.text, List.cons_append, body?, if_neg hl, Option.map_none]
    exact hall (.character '%') (scanFrom_of_none hnone ▸ List.mem_cons_self) rfl
  exact ⟨hl, hall (.expansion m) (by rw [← scan, scan_braced h hl]; exact List.mem_singleton_self _)⟩

def marks (m : Macro) : Text := if m.delimiters = [] then ['.'] else m.delimiters

/-- What the parts of the value come to: they are reversed, if the flag is given, and the last of them are joined by
dots; a capital letter asks for the form that an address of the web takes. -/
def rendered (m : Macro) (parts : List Text) : Text :=
  let ordered := if m.isReversed then parts.reverse else parts
  let kept := if m.digits = [] then ordered else ordered.rtake (ofDigits m.digits)
  let text := joined ['.'] kept
  if m.letter.isUpper then percentEncoded text else text

theorem lastParts_of_inOrder (hdigits : ∀ c ∈ m.digits, isDecimal c = true) (h : m.InOrder) (parts : List Text) :
    lastParts m.digits parts = .ok (if m.digits = [] then parts else parts.rtake (ofDigits m.digits)) := by
  by_cases hnil : m.digits = []
  · simp [lastParts, hnil]
  · simp [lastParts, hnil, readInteger_of_decimals hnil hdigits, Nat.not_lt.mpr h.short, h.nonzero hnil, List.rtake]

theorem isCapital_of_isLetter {letter : Char} (h : isLetter letter = true) : isCapital letter = letter.isUpper := by
  have hdotted : letter ≠ 'İ' := by
    rintro rfl
    exact absurd h (by decide)
  have hkelvin : letter ≠ '\u212A' := by
    rintro rfl
    exact absurd h (by decide)
  rw [isCapital, beq_false_of_ne hdotted, beq_false_of_ne hkelvin, Bool.or_false, Bool.or_false]

theorem transformed_of_inOrder (hm : m.IsWritten flag inside) (h : m.InOrder) (value : Text) :
    transformed m value = .ok (m.rendered (pieces (m.marks.contains ·) value)) := by
  unfold transformed
  dsimp only
  rw [lastParts_of_inOrder hm.digits h, ok_bind, isCapital_of_isLetter h.letter]
  simp only [rendered, marks, List.isEmpty_iff]
  rfl

/-! Templates -/

theorem expand_append {s : Text} (h : ¬ IsScopedText c.ip) (hcheck : check s = .ok ()) :
    ∃ x, expand c s = .ok x ∧ ∀ t, expand c (s ++ t) = (expand c t).map (x ++ ·) := by
  obtain ⟨x, hx⟩ := (expand_returns_iff c s).mpr ⟨isShort_of_check hcheck, fun hscoped => absurd hscoped h⟩
  refine ⟨x, hx, fun t => ?_⟩
  have hpercent : .character '%' ∉ scan s := ((check_eq_ok_iff s).mp hcheck).1
  rw [expand, (madeOf_scan s).scan_append hpercent]
  exact expandPieces_append hx (scan t)

theorem expand_braced (h : ¬ IsScopedText c.ip) (hm : m.IsWritten flag inside)
    (hcheck : check (braced inside) = .ok ()) :
    ∃ value, c.letterValue m.letter = .ok value ∧
      expand c (braced inside) = .ok (m.rendered (pieces (m.marks.contains ·) value)) := by
  obtain ⟨hl, hin⟩ := inOrder_of_check hm hcheck
  obtain ⟨value, hvalue⟩ := (letterValue_returns_iff c m.letter).mpr fun hscoped => absurd hscoped h
  refine ⟨value, hvalue, ?_⟩
  rw [expand, scan_braced hm hl, expandPieces, expandPiece, hvalue, ok_bind, transformed_of_inOrder hm hin]
  exact congrArg Except.ok (List.append_nil _)

/-- A template in order is expanded apart from what follows it, and each macro by its letter's value alone: this is
split at each of the delimiters, and what it is made of is not looked at again. -/
theorem expansion_composes (c : Context) (h : ¬ IsScopedText c.ip) :
    (∀ s, check s = .ok () → ∃ x, expand c s = .ok x ∧ ∀ t, expand c (s ++ t) = (expand c t).map (x ++ ·)) ∧
    ∀ (m : Macro) (flag inside : Text), m.IsWritten flag inside → check (braced inside) = .ok () →
      ∃ value, c.letterValue m.letter = .ok value ∧ (∃ parts, Splits m.marks value parts) ∧
        ∀ parts, Splits m.marks value parts → expand c (braced inside) = .ok (m.rendered parts) := by
  refine ⟨fun s => expand_append h, fun m flag inside hm hcheck => ?_⟩
  obtain ⟨value, hvalue, hexpand⟩ := expand_braced h hm hcheck
  refine ⟨value, hvalue, ⟨_, .of_pieces m.marks value⟩, fun parts hparts => ?_⟩
  rw [hexpand, hparts.eq_pieces]

def disguised : Context :=
  { domain := "d.example", ip := "192.0.2.1", sender := some "a-%{d}.b-c@x.example", now := 0 }

/-- What the sender has like a macro is none, also where the template goes on like one. -/
theorem disguised_is_not_expanded :
    expand disguised (braced "L2r-") = .ok "%25%7Bd%7D.b.a" ∧
      expand disguised (braced "L2r-" ++ "{d}%%") = .ok "%25%7Bd%7D.b.a{d}%" := by
  have hscoped : ¬ IsScopedText disguised.ip := fun ⟨_, ha, hs⟩ =>
    absurd (Address.percent_mem_of_parse? ha hs) (by decide)
  obtain ⟨happend, hmacro⟩ := expansion_composes disguised hscoped
  have hcheck : check (braced "L2r-") = .ok () := by decide +kernel
  have hwritten : IsWritten ⟨'L', ['2'], true, ['-']⟩ ['r'] "L2r-" :=
    ⟨rfl, .small, List.all_eq_true.mp (by decide), List.all_eq_true.mp (by decide)⟩
  obtain ⟨value, hvalue, -, hparts⟩ := hmacro _ _ _ hwritten hcheck
  have hletter : disguised.letterValue 'L' = .ok "a-%{d}.b-c" := by decide +kernel
  obtain rfl : "a-%{d}.b-c" = value := Except.ok.inj (hletter.symm.trans hvalue)
  have hsplits : Splits ['-'] "a-%{d}.b-c" [['a'], ['%', '{', 'd', '}', '.', 'b'], ['c']] :=
    .cut (t := ['a']) (by simp) (by decide)
      (.cut (t := ['%', '{', 'd', '}', '.', 'b']) (by simp) (by decide) (.whole (t := ['c']) (by simp)))
  have hexpand : expand disguised (braced "L2r-") = .ok "%25%7Bd%7D.b.a" :=
    (hparts _ hsplits).trans (by decide +kernel)
  obtain ⟨x, hx, hbehind⟩ := happend (braced "L2r-") hcheck
  obtain rfl : "%25%7Bd%7D.b.a" = x := Except.ok.inj (hexpand.symm.trans hx)
  refine ⟨hexpand, (hbehind "{d}%%").trans ?_⟩
  rw [show expand disguised "{d}%%" = .ok "{d}%" by decide +kernel]
  rfl

end SenderPolicy.Macro
