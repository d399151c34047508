import SenderPolicy.Macro.Expand
import SenderPolicy.Proofs.Address.Reading
import SenderPolicy.Proofs.Macro.Checking

/-!
Where an expansion gives no text. A piece of a template can only fail at its digits, where these are too many to be read,
or at the value of its letter; and of the letters only that of the dotted address does, where the address has a zone.
-/
namespace SenderPolicy.Macro
open Text
variable {c : Context} {m : Macro} {letter : Char} {digits value template : Text} {parts : List Text}

/-- The macro that the piece is. -/
def Piece.macro? : Piece → Option Macro
  | .expansion m => some m
  | _ => none

theorem Piece.macro?_eq_some {piece : Piece} : piece.macro? = some m ↔ piece = .expansion m := by
  cases piece <;> simp [macro?]

/-- The template asks for the address with dots between its octets or digits. -/
def AsksAddress (template : Text) : Prop := ∃ m, .expansion m ∈ scan template ∧ m.letter.toLower = 'i'

instance (template : Text) : Decidable (AsksAddress template) :=
  decidable_of_iff (∃ m ∈ (scan template).filterMap Piece.macro?, m.letter.toLower = 'i') <| by
    simp only [List.mem_filterMap, AsksAddress, Piece.macro?_eq_some, exists_eq_right]

/-- The macros of the template have no more digits than are read. -/
def IsShort (template : Text) : Prop := ∀ m, .expansion m ∈ scan template → m.digits.length ≤ maxDigits

instance (template : Text) : Decidable (IsShort template) :=
  decidable_of_iff (∀ m ∈ (scan template).filterMap Piece.macro?, m.digits.length ≤ maxDigits) <| by
    simp only [List.mem_filterMap, IsShort, Piece.macro?_eq_some, exists_eq_right]

theorem isShort_of_check (h : check template = .ok ()) : IsShort template := by
  intro m hm
  have hin : (Piece.expansion m).InOrder := (checkFrom_eq_ok_iff 0 0 template).mp h _ hm
  exact InOrder.short hin

/-- The text is read as an address with a zone. -/
def IsScopedText (ip : Text) : Prop := ∃ a, Address.parse? ip = some a ∧ a.IsScoped

/-! Letters -/

theorem dottedAddress_returns_iff (a : Address) : (∃ t, Context.dottedAddress a = .ok t) ↔ ¬ a.IsScoped := by
  rw [← Address.fullText_returns_iff]
  cases a with
  | v4 bits => exact iff_of_true ⟨_, rfl⟩ ⟨_, rfl⟩
  | v6 bits zone =>
    simp only [Context.dottedAddress]
    cases (Address.v6 bits zone).fullText with
    | ok t => exact iff_of_true ⟨_, rfl⟩ ⟨t, rfl⟩
    | error f => exact iff_of_false (fun ⟨_, h⟩ => nomatch h) fun ⟨_, h⟩ => nomatch h

theorem addressValue_returns_iff (a : Address) (letter : Char) :
    (∃ t, Context.addressValue a letter = .ok t) ↔ (a.IsScoped → letter ≠ 'i') := by
  unfold Context.addressValue
  split
  · simp only [dottedAddress_returns_iff, ne_eq, not_true_eq_false, imp_false]
  · exact iff_of_true ⟨_, rfl⟩ fun _ => by decide
  · exact iff_of_true ⟨_, rfl⟩ fun _ => by decide
  · rename_i hi _ _
    exact iff_of_true ⟨_, rfl⟩ fun _ => hi

theorem letterValue_returns_iff (c : Context) (letter : Char) :
    (∃ t, c.letterValue letter = .ok t) ↔ (IsScopedText c.ip → letter.toLower ≠ 'i') := by
  unfold Context.letterValue
  generalize letter.toLower = lower
  split
  iterate 8 exact iff_of_true ⟨_, rfl⟩ fun _ => by decide
  cases hparse : Address.parse? c.ip with
  | none => exact iff_of_true ⟨_, rfl⟩ fun ⟨a, ha, _⟩ => nomatch hparse.symm.trans ha
  | some address =>
    simp only [addressValue_returns_iff, IsScopedText, hparse, Option.some.injEq, exists_eq_left']

/-! Pieces -/

theorem lastParts_returns_iff (hdigits : ∀ c ∈ digits, isDecimal c = true) (parts : List Text) :
    (∃ kept, lastParts digits parts = .ok kept) ↔ digits.length ≤ maxDigits := by
  cases digits with
  | nil => exact iff_of_true ⟨parts, rfl⟩ (Nat.zero_le _)
  | cons d r =>
    simp only [lastParts, List.isEmpty_cons, Bool.false_eq_true, if_false,
      readInteger_of_decimals (List.cons_ne_nil d r) hdigits]
    by_cases hlong : maxDigits < (d :: r).length
    · rw [if_pos hlong]
      exact iff_of_false (fun ⟨_, h⟩ => nomatch h) (Nat.not_le.mpr hlong)
    · rw [if_neg hlong]
      exact iff_of_true ⟨_, rfl⟩ (Nat.le_of_not_lt hlong)

theorem transformed_returns_iff (hdigits : ∀ c ∈ m.digits, isDecimal c = true) (value : Text) :
    (∃ t, transformed m value = .ok t) ↔ m.digits.length ≤ maxDigits := by
  unfold transformed
  dsimp only
  rw [← lastParts_returns_iff hdigits]
  cases lastParts m.digits _ with
  | ok kept => exact iff_of_true ⟨_, rfl⟩ ⟨kept, rfl⟩
  | error f => exact iff_of_false (fun ⟨_, h⟩ => nomatch h) fun ⟨_, h⟩ => nomatch h

theorem expandPiece_returns_iff {piece : Piece} (hmem : piece ∈ scan template) :
    (∃ t, expandPiece c piece = .ok t) ↔ ∀ m, piece = .expansion m →
      m.digits.length ≤ maxDigits ∧ (IsScopedText c.ip → m.letter.toLower ≠ 'i') := by
  cases piece with
  | expansion m =>
    obtain ⟨flag, inside, hm, -⟩ := (madeOf_scan template).isWritten hmem
    simp only [Piece.expansion.injEq, forall_eq', ← letterValue_returns_iff, expandPiece]
    cases c.letterValue m.letter with
    | error f => exact iff_of_false (fun ⟨_, h⟩ => nomatch h) fun ⟨_, _, h⟩ => nomatch h
    | ok value => exact (transformed_returns_iff hm.digits value).trans (iff_self_and.mpr fun _ => ⟨value, rfl⟩)
  | character x => exact iff_of_true ⟨_, rfl⟩ fun m h => nomatch h
  | percent => exact iff_of_true ⟨_, rfl⟩ fun m h => nomatch h
  | space => exact iff_of_true ⟨_, rfl⟩ fun m h => nomatch h
  | encodedSpace => exact iff_of_true ⟨_, rfl⟩ fun m h => nomatch h

theorem expandPieces_returns_iff (c : Context) (ps : List Piece) :
    (∃ t, expandPieces c ps = .ok t) ↔ ∀ p ∈ ps, ∃ t, expandPiece c p = .ok t := by
  induction ps with
  | nil => exact iff_of_true ⟨_, rfl⟩ fun p hp => nomatch hp
  | cons p rest ih =>
    rw [List.forall_mem_cons, ← ih, expandPieces]
    cases expandPiece c p with
    | error f => exact iff_of_false (fun ⟨_, h⟩ => nomatch h) fun ⟨⟨_, h⟩, _⟩ => nomatch h
    | ok t =>
      cases expandPieces c rest with
      | error f => exact iff_of_false (fun ⟨_, h⟩ => nomatch h) fun ⟨_, _, h⟩ => nomatch h
      | ok u => exact iff_of_true ⟨_, rfl⟩ ⟨⟨t, rfl⟩, u, rfl⟩

/-- A template is expanded, unless a macro of it has too many digits, or asks for the dotted form of an address with a
zone. -/
theorem expand_returns_iff (c : Context) (template : Text) :
    (∃ t, expand c template = .ok t) ↔ IsShort template ∧ (IsScopedText c.ip → ¬ AsksAddress template) := by
  rw [expand, expandPieces_returns_iff]
  constructor
  · intro hall
    refine ⟨fun m hm => ?_, ?_⟩
    · exact ((expandPiece_returns_iff hm).mp (hall _ hm) m rfl).1
    · rintro hscoped ⟨m, hm, hi⟩
      exact ((expandPiece_returns_iff hm).mp (hall _ hm) m rfl).2 hscoped hi
  · rintro ⟨hshort, hasks⟩ piece hmem
    refine (expandPiece_returns_iff hmem).mpr fun m heq => ?_
    subst heq
    exact ⟨hshort m hmem, fun hscoped hi => hasks hscoped ⟨m, hmem, hi⟩⟩

end SenderPolicy.Macro
