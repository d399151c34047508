import SenderPolicy.Proofs.Macro.Pieces
import SenderPolicy.Proofs.Standard.MacroStrings
import SenderPolicy.Proofs.Term.Separation

/-!
Hosts with macros, and the lengths behind them. The cut counts the braces of the host and does not look for macros. It
need not: a macro closes the brace that it opens, and its slashes stand within. So the braces that stand outside of
macros tell where the host is cut, and they tell wrong where one of them is left open.
-/
namespace SenderPolicy.Term
open Text Macro
variable {c : Char} {t x : Text} {depth : Nat} {piece : Piece} {ps : List Piece} {kind : Kind} {host lengths : Text}

/-! Braces of a text -/

/-- No end of the text has more braces that open than braces that close: each that opens is closed behind it. -/
def ClosesBraces (t : Text) : Prop := ∀ behind, behind <:+ t → behind.count '{' ≤ behind.count '}'

theorem closesBraces_cons : ClosesBraces (c :: t) ↔ (c :: t).count '{' ≤ (c :: t).count '}' ∧ ClosesBraces t := by
  simp only [ClosesBraces, List.suffix_cons_iff, or_imp, forall_and, forall_eq]

theorem ClosesBraces.count_le (h : ClosesBraces t) : t.count '{' ≤ t.count '}' := h t (List.suffix_refl t)

theorem openBehind_le_iff (hrest : ClosesBraces t) (depth : Nat) (c : Char) :
    openBehind depth c + t.count '{' ≤ t.count '}' ↔ depth + (c :: t).count '{' ≤ (c :: t).count '}' := by
  have hclosed := hrest.count_le
  obtain rfl | hopen := eq_or_ne c '{'
  · have hbehind : openBehind depth '{' = depth + 1 := rfl
    rw [hbehind, List.count_cons_self, List.count_cons_of_ne (by decide)]
    omega
  · obtain rfl | hclose := eq_or_ne c '}'
    -- Where no brace is open, one that closes is not counted; the rest does not need it.
    · have hbehind : openBehind depth '}' = depth - 1 := rfl
      rw [hbehind, List.count_cons_self, List.count_cons_of_ne (by decide)]
      omega
    · rw [openBehind_of_ne ⟨hopen, hclose⟩, List.count_cons_of_ne hopen, List.count_cons_of_ne hclose]

/-- No brace is open behind a text exactly if it closes those that are open before it, and its own. -/
theorem openBraces_eq_zero_iff (depth : Nat) (t : Text) :
    openBraces depth t = 0 ↔ depth + t.count '{' ≤ t.count '}' ∧ ClosesBraces t := by
  induction t generalizing depth with
  | nil => simp [openBraces, ClosesBraces]
  | cons c r ih =>
    have hstep : openBraces depth (c :: r) = openBraces (openBehind depth c) r := rfl
    rw [hstep, ih, closesBraces_cons]
    constructor
    · rintro ⟨hle, hrest⟩
      have hall := (openBehind_le_iff hrest depth c).mp hle
      exact ⟨hall, Nat.le_trans (Nat.le_add_left _ _) hall, hrest⟩
    · rintro ⟨hall, -, hrest⟩
      exact ⟨(openBehind_le_iff hrest depth c).mpr hall, hrest⟩

theorem closesBraces_iff : ClosesBraces t ↔ openBraces 0 t = 0 := by
  rw [openBraces_eq_zero_iff, Nat.zero_add]
  exact ⟨fun h => ⟨h.count_le, h⟩, fun h => h.2⟩

instance : DecidablePred ClosesBraces := fun _ => decidable_of_iff _ closesBraces_iff.symm

/-! Macros -/

theorem bare_of_isWritten {m : Macro} {flag inside : Text} (h : m.IsWritten flag inside) (hl : isLatin m.letter = true) :
    ∀ c ∈ inside, c ≠ '{' ∧ c ≠ '}' := by
  intro c hc
  constructor
  · rintro rfl
    exact h.notin hl (by decide) (by decide) (by decide) hc
  · rintro rfl
    exact h.brace_notin hl hc

theorem openBraces_of_spells (h : Spells x piece) (depth : Nat) : openBraces depth x = depth := by
  cases h with
  | percent | space | encodedSpace => exact openBraces_of_bare (by simp) depth
  | @expansion m flag inside hm hl =>
    have hinside : openBraces (depth + 1) inside = depth + 1 := openBraces_of_bare (bare_of_isWritten hm hl) _
    have hbraced : openBraces depth (braced inside) = openBraces (openBraces (depth + 1) inside) ['}'] :=
      openBraces_append (depth + 1) inside ['}']
    rw [hbraced, hinside]
    rfl

theorem withinBraces_of_spells (h : Spells x piece) (depth : Nat) : WithinBraces depth x := by
  cases h with
  | percent | space | encodedSpace => exact withinBraces_of_notin (by decide) depth
  | @expansion m flag inside hm hl =>
    rw [braced, withinBraces_cons, withinBraces_cons, withinBraces_append]
    refine ⟨by simp, by simp, ?_, withinBraces_of_notin (by decide) _⟩
    exact withinBraces_of_bare (bare_of_isWritten hm hl) depth

theorem openBraces_of_madeOf (h : MadeOf t ps) (depth : Nat) :
    openBraces depth t = openBraces depth (ps.filterMap Piece.literal?) := by
  induction h generalizing depth with
  | nil => rfl
  | character _ ih => exact ih _
  | spelled hx _ ih =>
    rw [openBraces_append, openBraces_of_spells hx, ih, List.filterMap_cons_none hx.literal?_eq_none]

theorem withinBraces_of_madeOf (h : MadeOf t ps) (depth : Nat) :
    WithinBraces depth t ↔ WithinBraces depth (ps.filterMap Piece.literal?) := by
  induction h generalizing depth with
  | nil => rfl
  | @character c r ps _ ih =>
    rw [List.filterMap_cons_some (show Piece.literal? (.character c) = some c from rfl), withinBraces_cons,
      withinBraces_cons, ih]
  | spelled hx _ ih =>
    rw [withinBraces_append, openBraces_of_spells hx, ih, List.filterMap_cons_none hx.literal?_eq_none]
    exact and_iff_right (withinBraces_of_spells hx depth)

/-! Hosts -/

theorem parse_hosted (hk : kind = .a ∨ kind = .mx) (t : Text) :
    parse (kind.name ++ ':' :: t) = { kind, value := some (cutLengths t).1, cidr := (cutLengths t).2 } := by
  have hmem : kind ∈ Kind.mechanisms := by obtain rfl | rfl := hk <;> decide
  have hhost : kind.takesLengths = true := by obtain rfl | rfl := hk <;> rfl
  have hbare : Qualifier.take (kind.name ++ ':' :: t) = (none, kind.name ++ ':' :: t) := by
    obtain rfl | rfl := hk <;> rfl
  have hrow := List.all_eq_true.mp mechanism_names kind hmem
  simp only [Bool.and_eq_true, beq_iff_eq] at hrow
  obtain ⟨⟨⟨-, hname⟩, hlower⟩, -⟩ := hrow
  rw [parse_eq, hbare, readBody_of_named _ (List.all_eq_true.mp hname) hlower (by simp [isSeparator]),
    ofMechanism_hosted hmem hhost]
  rfl

/-- A host without a slash outside of macros is read as it is written, and the lengths behind the next slash as they are,
exactly if the braces that stand outside of macros are closed there. -/
theorem lengths_are_cut_off_iff (hk : kind = .a ∨ kind = .mx) (hslash : '/' ∉ literals host) (lengths : Text) :
    ((parse (kind.name ++ ':' :: (host ++ '/' :: lengths))).value = some host ∧
        (parse (kind.name ++ ':' :: (host ++ '/' :: lengths))).cidr = some lengths) ↔
      ClosesBraces (literals host) := by
  have hmade := madeOf_scan host
  have hwithin : WithinBraces 0 host := (withinBraces_of_madeOf hmade 0).mpr (withinBraces_of_notin hslash 0)
  have hcut : cutLengths (host ++ '/' :: lengths) = (host, some lengths) ↔ _ := cutLengths_iff host (some lengths)
  rw [parse_hosted hk]
  calc
    _ ↔ cutLengths (host ++ '/' :: lengths) = (host, some lengths) := by simp [Prod.ext_iff]
    _ ↔ openBraces 0 host = 0 := by simpa [hwithin] using hcut
    _ ↔ openBraces 0 (literals host) = 0 := by rw [openBraces_of_madeOf hmade, literals]
    _ ↔ ClosesBraces (literals host) := closesBraces_iff.symm

/-- Slashes within a macro, and a brace outside of it that is closed. -/
theorem slashed_macro_is_passed :
    '/' ∉ literals "y{z}.%{d1r/}%_.example" ∧
      (parse "mx:y{z}.%{d1r/}%_.example/24//64").value = some "y{z}.%{d1r/}%_.example" ∧
      (parse "mx:y{z}.%{d1r/}%_.example/24//64").cidr = some "24//64" := by
  have hslash : '/' ∉ literals "y{z}.%{d1r/}%_.example" := by decide +kernel
  have hcloses : ClosesBraces (literals "y{z}.%{d1r/}%_.example") := by decide +kernel
  exact ⟨hslash, (lengths_are_cut_off_iff (.inr rfl) hslash "24//64").mpr hcloses⟩

/-- Behind a brace that is left open the lengths are taken for a part of the host, and the record is valid. -/
theorem open_brace_hides_lengths :
    Standard.IsDomainSpec "x\x7by.example" ∧ check "x\x7by.example" = .ok () ∧ '/' ∉ literals "x\x7by.example" ∧
      parse "a:x\x7by.example/24" = { kind := .a, value := some "x\x7by.example/24" } ∧
      (Audit.auditText "v=spf1 a:x\x7by.example/24 -all").map Audit.Assessment.isValid = .ok true := by
  have hliteral : ∀ c ∈ ['x', '{', 'y'], Standard.IsLiteral c := by simp [Standard.IsLiteral]
  have hlabel : Standard.IsTopLabel "example" :=
    .lettered (x := []) (y := "xample") (by simp) rfl (List.all_eq_true.mp (by decide))
  exact ⟨⟨_, _, rfl, .of_literals hliteral, .label hlabel⟩, by decide +kernel⟩

end SenderPolicy.Term
