import SenderPolicy.Macro
import SenderPolicy.Proofs.Text.Digits
import SenderPolicy.Proofs.Text.Words

/-!
The pieces of a text. What the scan finds is the text, one piece behind another: characters, and macros as they are
written. So what holds of a text with macros is shown piece by piece.
-/
namespace SenderPolicy.Macro
open Text
variable {b : Bool} {c : Char} {m : Macro} {t x r flag inside rest : Text} {n : Nat} {piece : Piece} {ps : List Piece}

inductive IsFlag : Bool → Text → Prop
  | absent : IsFlag false []
  | small : IsFlag true ['r']
  | capital : IsFlag true ['R']

/-- Between its braces the macro is written so. -/
structure IsWritten (m : Macro) (flag inside : Text) : Prop where
  text : inside = m.letter :: (m.digits ++ (flag ++ m.delimiters))
  isFlag : IsFlag m.isReversed flag
  digits : ∀ c ∈ m.digits, isDecimal c = true
  delimiters : ∀ c ∈ m.delimiters, isDelimiter c = true

/-! Characters behind the letter -/

theorem delimiter_classes : (['.', '-', '+', ',', '/', '_', '='].all fun c =>
    !isDigit c && (c != 'r' && (c != 'R' && c != '}'))) = true := by
  decide

theorem classes_of_isDelimiter (h : isDelimiter c = true) :
    isDigit c = false ∧ c ≠ 'r' ∧ c ≠ 'R' ∧ c ≠ '}' := by
  have hclasses := List.all_eq_true.mp delimiter_classes c (List.contains_iff_mem.mp h)
  simpa only [Bool.and_eq_true, Bool.not_eq_true', bne_iff_ne] using hclasses

theorem head_of_tail {delimiters : Text} (hflag : IsFlag b flag) (hd : ∀ c ∈ delimiters, isDelimiter c = true)
    (hrest : ∀ c, rest.head? = some c → c = '}') :
    ∀ c, (flag ++ (delimiters ++ rest)).head? = some c → isDigit c = false := by
  intro c hc
  cases hflag with
  | absent =>
    cases delimiters with
    | nil => rw [hrest c hc]; decide
    | cons d ds => cases hc; exact (classes_of_isDelimiter (hd c List.mem_cons_self)).1
  | small => cases hc; decide
  | capital => cases hc; decide

theorem head_behind_flag {delimiters : Text} (hd : ∀ c ∈ delimiters, isDelimiter c = true)
    (hrest : ∀ c, rest.head? = some c → c = '}') :
    ∀ c, (delimiters ++ rest).head? = some c → c ≠ 'r' ∧ c ≠ 'R' := by
  intro c hc
  cases delimiters with
  | nil => rw [hrest c hc]; decide
  | cons d ds =>
    cases hc
    obtain ⟨-, hsmall, hcapital, -⟩ := classes_of_isDelimiter (hd c List.mem_cons_self)
    exact ⟨hsmall, hcapital⟩

theorem takeFlag_of_isFlag (hflag : IsFlag b flag) (hrest : ∀ c, rest.head? = some c → c ≠ 'r' ∧ c ≠ 'R') :
    takeFlag (flag ++ rest) = (b, rest) := by
  cases hflag with
  | small => rfl
  | capital => rfl
  | absent =>
    rw [List.nil_append]
    unfold takeFlag
    split
    · exact absurd rfl (hrest 'r' rfl).1
    · exact absurd rfl (hrest 'R' rfl).2
    · rfl

theorem IsFlag.eq_of_mem (h : IsFlag b flag) (hc : c ∈ flag) : c = 'r' ∨ c = 'R' := by
  cases h with
  | absent => cases hc
  | small => exact .inl (List.mem_singleton.mp hc)
  | capital => exact .inr (List.mem_singleton.mp hc)

theorem exists_flag (t : Text) : ∃ flag, IsFlag (takeFlag t).1 flag ∧ t = flag ++ (takeFlag t).2 := by
  unfold takeFlag
  split
  · exact ⟨['r'], .small, rfl⟩
  · exact ⟨['R'], .capital, rfl⟩
  · exact ⟨[], .absent, rfl⟩

/-! The inside of braces -/

theorem IsWritten.notin (h : m.IsWritten flag inside) (hl : isLatin m.letter = true) (hlatin : isLatin c = false)
    (hdecimal : isDecimal c = false) (hdelimiter : isDelimiter c = false) : c ∉ inside := by
  rw [h.text]
  simp only [List.mem_cons, List.mem_append, not_or]
  refine ⟨fun heq => ?_, fun hmem => ?_, fun hmem => ?_, fun hmem => ?_⟩
  · rw [← heq, hlatin] at hl
    cases hl
  · rw [h.digits c hmem] at hdecimal
    cases hdecimal
  · obtain rfl | rfl := h.isFlag.eq_of_mem hmem <;> exact absurd hlatin (by decide)
  · rw [h.delimiters c hmem] at hdelimiter
    cases hdelimiter

theorem IsWritten.brace_notin (h : m.IsWritten flag inside) (hl : isLatin m.letter = true) : '}' ∉ inside :=
  h.notin hl (by decide) (by decide) (by decide)

theorem body?_of_written (h : m.IsWritten flag inside) (hl : isLatin m.letter = true) (behind : Text) :
    body? (inside ++ '}' :: behind) = some (m, inside.length + 1) := by
  have hbrace : ∀ c, ('}' :: behind).head? = some c → c = '}' := fun c hc => (Option.some.inj hc).symm
  have hdigit := head_of_tail h.isFlag h.delimiters hbrace
  obtain ⟨htake, hdrop⟩ := takeWhile_append_of_stop h.digits fun c hc => isDecimal_of_not_isDigit (hdigit c hc)
  obtain ⟨htake', hdrop'⟩ := takeWhile_append_of_stop h.delimiters fun c (hc : ('}' :: behind).head? = some c) =>
    hbrace c hc ▸ (by decide : isDelimiter '}' = false)
  have hflag : takeFlag (flag ++ (m.delimiters ++ '}' :: behind)) = (m.isReversed, m.delimiters ++ '}' :: behind) :=
    takeFlag_of_isFlag h.isFlag (head_behind_flag h.delimiters hbrace)
  have htext : inside ++ '}' :: behind =
      m.letter :: (m.digits ++ (flag ++ (m.delimiters ++ '}' :: behind))) := by
    simp only [h.text, List.cons_append, List.append_assoc]
  have hlength : (inside ++ '}' :: behind).length - behind.length = inside.length + 1 := by
    simp only [List.length_append, List.length_cons]
    omega
  rw [← hlength, htext]
  simp only [body?, hl, htake, hdrop, hflag, htake', hdrop', if_true]

theorem body?_eq_some (h : body? r = some (m, n)) :
    ∃ flag inside behind, r = inside ++ '}' :: behind ∧ m.IsWritten flag inside ∧ isLatin m.letter = true ∧
      n = inside.length + 1 := by
  cases r with
  | nil => cases h
  | cons letter r =>
    by_cases hl : isLatin letter = true
    · simp only [body?, if_pos hl] at h
      split at h
      · rename_i behind hbehind
        obtain ⟨flag, hflag, hcut⟩ := exists_flag (r.dropWhile isDecimal)
        obtain ⟨rfl, rfl⟩ := Prod.mk.inj (Option.some.inj h)
        have hr : r.takeWhile isDecimal ++ (flag ++
            ((takeFlag (r.dropWhile isDecimal)).2.takeWhile isDelimiter ++ '}' :: behind)) = r := by
          rw [← hbehind, List.takeWhile_append_dropWhile, ← hcut, List.takeWhile_append_dropWhile]
        refine ⟨flag, _, behind, ?_, ⟨rfl, hflag, List.all_eq_true.mp List.all_takeWhile,
          List.all_eq_true.mp List.all_takeWhile⟩, hl, ?_⟩
        · simp only [List.cons_append, List.append_assoc, hr]
        · have hlength := congrArg List.length hr
          simp only [List.length_append, List.length_cons] at hlength ⊢
          omega
      · cases h
    · simp only [body?, if_neg hl] at h
      cases h

/-! The front of a text -/

def braced (inside : Text) : Text := '%' :: '{' :: (inside ++ ['}'])

/-- The text is one macro, which is taken for the piece. -/
inductive Spells : Text → Piece → Prop
  | percent : Spells ['%', '%'] .percent
  | space : Spells ['%', '_'] .space
  | encodedSpace : Spells ['%', '-'] .encodedSpace
  | expansion {m : Macro} {flag inside : Text} : m.IsWritten flag inside → isLatin m.letter = true →
      Spells (braced inside) (.expansion m)

theorem Spells.ne_nil (h : Spells x piece) : x ≠ [] := by
  cases h <;> exact List.cons_ne_nil _ _

theorem front?_eq_some_iff {piece : Piece} :
    front? t = some (piece, n) ↔ ∃ x rest, t = x ++ rest ∧ Spells x piece ∧ n = x.length := by
  constructor
  · intro h
    unfold front? at h
    split at h
    · cases h
      exact ⟨_, _, rfl, .percent, rfl⟩
    · cases h
      exact ⟨_, _, rfl, .space, rfl⟩
    · cases h
      exact ⟨_, _, rfl, .encodedSpace, rfl⟩
    · obtain ⟨⟨m, k⟩, hbody, hpair⟩ := Option.map_eq_some_iff.mp h
      cases hpair
      obtain ⟨flag, inside, behind, rfl, hm, hl, rfl⟩ := body?_eq_some hbody
      exact ⟨braced inside, behind, by simp [braced], .expansion hm hl, by simp [braced]⟩
    · cases h
  · rintro ⟨x, rest, rfl, hx, rfl⟩
    cases hx with
    | percent => rfl
    | space => rfl
    | encodedSpace => rfl
    | expansion hm hl => simp [braced, front?, body?_of_written hm hl]

theorem begins_of_front? {piece : Piece} (h : front? t = some (piece, n)) :
    (∃ d rest, t = '%' :: d :: rest ∧ d ∈ ['%', '_', '-', '{']) ∧ ∃ k, n = k + 1 := by
  obtain ⟨x, rest, rfl, hx, rfl⟩ := front?_eq_some_iff.mp h
  cases hx <;> exact ⟨⟨_, _, rfl, by decide⟩, _, rfl⟩

theorem front?_eq_none (h : ∀ d rest, t = '%' :: d :: rest → d ∉ ['%', '_', '-', '{']) : front? t = none := by
  cases hfront : front? t with
  | none => rfl
  | some x =>
    obtain ⟨⟨d, rest, ht, hd⟩, -⟩ := begins_of_front? hfront
    exact absurd hd (h d rest ht)

theorem front?_of_unclosed (h : '}' ∉ r) : front? ('%' :: '{' :: r) = none := by
  cases hbody : body? r with
  | none => simp only [front?, hbody, Option.map_none]
  | some x =>
    obtain ⟨-, inside, behind, rfl, -⟩ := body?_eq_some hbody
    exact absurd (List.mem_append_right inside List.mem_cons_self) h

/-! The scan -/

theorem scanFrom_of_front {piece : Piece} (h : front? (c :: r) = some (piece, n + 1)) :
    scanFrom 0 (c :: r) = piece :: scanFrom n r := by
  simp only [scanFrom, h, Nat.add_sub_cancel]

theorem scanFrom_of_none (h : front? (c :: r) = none) : scanFrom 0 (c :: r) = .character c :: scanFrom 0 r := by
  simp only [scanFrom, h]

theorem scanFrom_past (t behind : Text) : scanFrom t.length (t ++ behind) = scanFrom 0 behind := by
  induction t with
  | nil => rfl
  | cons c r ih => exact ih

theorem scan_of_none (h : front? (c :: t) = none) : scan (c :: t) = .character c :: scan t := scanFrom_of_none h

theorem scan_of_spells {x : Text} {piece : Piece} (h : Spells x piece) (rest : Text) :
    scan (x ++ rest) = piece :: scan rest := by
  have hfront : front? (x ++ rest) = some (piece, x.length) := front?_eq_some_iff.mpr ⟨x, rest, rfl, h, rfl⟩
  obtain ⟨-, k, hk⟩ := begins_of_front? hfront
  cases x with
  | nil => cases hk
  | cons c r =>
    rw [List.cons_append] at hfront ⊢
    rw [scan, scanFrom_of_front hfront, scanFrom_past, scan]

theorem scan_braced (h : m.IsWritten flag inside) (hl : isLatin m.letter = true) :
    scan (braced inside) = [.expansion m] := by
  rw [← List.append_nil (braced inside), scan_of_spells (.expansion h hl)]
  rfl

/-! What a text is made of -/

inductive MadeOf : Text → List Piece → Prop
  | nil : MadeOf [] []
  | character {c : Char} {t : Text} {ps : List Piece} : MadeOf t ps → MadeOf (c :: t) (.character c :: ps)
  | spelled {x t : Text} {piece : Piece} {ps : List Piece} : Spells x piece → MadeOf t ps →
      MadeOf (x ++ t) (piece :: ps)

theorem madeOf_scan (t : Text) : MadeOf t (scan t) := by
  -- The scan goes on behind a macro, so that the induction is on the length.
  induction hn : t.length using Nat.strong_induction_on generalizing t with
  | _ n ih =>
    subst hn
    cases t with
    | nil => exact .nil
    | cons c r =>
      cases hfront : front? (c :: r) with
      | none =>
        rw [scan_of_none hfront]
        exact .character (ih r.length (Nat.lt_succ_self _) r rfl)
      | some found =>
        obtain ⟨x, rest, htext, hx, -⟩ := front?_eq_some_iff.mp hfront
        have hshorter : rest.length < (x ++ rest).length := by
          rw [List.length_append]
          exact Nat.lt_add_of_pos_left (List.length_pos_iff.mpr hx.ne_nil)
        rw [htext] at ih ⊢
        rw [scan_of_spells hx]
        exact .spelled hx (ih rest.length hshorter rest rfl)

/-- Where no percent sign is left, no macro reaches over the end. -/
theorem MadeOf.scan_append (hmade : MadeOf t ps) (h : .character '%' ∉ ps) (u : Text) :
    scan (t ++ u) = ps ++ scan u := by
  induction hmade with
  | nil => rfl
  | @character c r _ _ ih =>
    rw [List.mem_cons, not_or] at h
    have hc : c ≠ '%' := fun heq => h.1 (by rw [heq])
    have hnone : front? (c :: (r ++ u)) = none :=
      front?_eq_none fun d rest ht => absurd (List.cons.inj ht).1 hc
    rw [List.cons_append, scan_of_none hnone, ih h.2, List.cons_append]
  | spelled hx _ ih =>
    rw [List.mem_cons, not_or] at h
    rw [List.append_assoc, scan_of_spells hx, ih h.2, List.cons_append]

theorem MadeOf.isWritten (hmade : MadeOf t ps) (h : .expansion m ∈ ps) :
    ∃ flag inside, m.IsWritten flag inside ∧ isLatin m.letter = true := by
  induction hmade with
  | nil => cases h
  | character _ ih =>
    cases h with
    | tail _ h => exact ih h
  | spelled hx _ ih =>
    cases h with
    | head =>
      cases hx with
      | expansion hm hl => exact ⟨_, _, hm, hl⟩
    | tail _ h => exact ih h

theorem isLatin_of_mem_scanFrom (h : .expansion m ∈ scanFrom 0 t) : isLatin m.letter = true := by
  obtain ⟨-, -, -, hl⟩ := (madeOf_scan t).isWritten h
  exact hl

/-! Characters outside of macros -/

def Piece.literal? : Piece → Option Char
  | .character c => some c
  | _ => none

def literals (t : Text) : Text := (scan t).filterMap Piece.literal?

theorem Spells.literal?_eq_none (h : Spells x piece) : piece.literal? = none := by
  cases h <;> rfl

end SenderPolicy.Macro
