import SenderPolicy.Proofs.Standard.MacroStrings
import SenderPolicy.Proofs.Term.Hosts

/-!
Domain names of the standard: what they are made of, and where they are cut from the prefix lengths behind them. A name
that is cut too early leaves its last label or its last macro to the lengths.
-/
namespace SenderPolicy.Standard
open Text
variable {c : Char} {t m spec ending cidr : Text} {depth : Nat}

/-! Characters -/

def IsVisible (c : Char) : Prop := 0x21 ≤ c.toNat ∧ c.toNat ≤ 0x7E

instance : DecidablePred IsVisible := fun _ => inferInstanceAs (Decidable (_ ∧ _))

theorem isLiteral_of_isAlphanum (h : c.isAlphanum = true) : IsLiteral c := by
  apply forall_ascii (P := fun c => c.isAlphanum = true → 0x21 ≤ c.toNat ∧ c.toNat ≤ 0x7E ∧ c ≠ '%')
  · decide +kernel
  · exact ascii_of_isAlphanum h
  · exact h

theorem isVisible_of_isAlphanum (h : c.isAlphanum = true) : IsVisible c :=
  ⟨(isLiteral_of_isAlphanum h).1, (isLiteral_of_isAlphanum h).2.1⟩

theorem IsMacro.escape_or_braced (h : IsMacro m) :
    (∃ c, (c = '%' ∨ c = '_' ∨ c = '-') ∧ m = ['%', c]) ∨
      ∃ inside, m = '%' :: '{' :: (inside ++ ['}']) ∧
        ∀ c ∈ inside, c.isAlphanum = true ∨ c ∈ ".-+,/_=".toList := by
  cases h with
  | escape hc => exact .inl ⟨_, hc, rfl⟩
  | @expansion letter digits flag delimiters hletter hdigits _ hflag hdelimiters =>
    refine .inr ⟨letter :: (digits ++ (flag ++ delimiters)), by simp, fun c hc => ?_⟩
    simp only [List.mem_cons, List.mem_append] at hc
    obtain rfl | hc | hc | hc := hc
    · have hlow : ∀ c ∈ "slodiphcrtv".toList, c.isAlphanum = true := List.all_eq_true.mp (by decide)
      exact .inl (isAlphanum_of_toLower (hlow _ hletter))
    · exact .inl (isAlphanum_of_isDigit (hdigits c hc))
    · obtain rfl | rfl | rfl := hflag
      · cases hc
      · exact .inl (List.mem_singleton.mp hc ▸ by decide)
      · exact .inl (List.mem_singleton.mp hc ▸ by decide)
    · exact .inr (hdelimiters c hc)

theorem IsMacro.isVisible (h : IsMacro m) : ∀ c ∈ m, IsVisible c := by
  obtain ⟨d, hd, rfl⟩ | ⟨inside, rfl, hinside⟩ := h.escape_or_braced
  · obtain rfl | rfl | rfl := hd <;> simp [IsVisible]
  · intro c hc
    simp only [List.mem_cons, List.mem_append, List.not_mem_nil, or_false] at hc
    obtain rfl | rfl | hc | rfl := hc
    · simp [IsVisible]
    · simp [IsVisible]
    · rcases hinside c hc with hc | hc
      · exact isVisible_of_isAlphanum hc
      · have hall : ".-+,/_=".toList.all (fun c => decide (IsVisible c)) = true := by decide
        exact of_decide_eq_true (List.all_eq_true.mp hall c hc)
    · simp [IsVisible]

theorem IsMacroString.isVisible (h : IsMacroString t) : ∀ c ∈ t, IsVisible c := by
  induction h with
  | nil => simp
  | literal hc _ ih =>
    rw [List.forall_mem_cons]
    exact ⟨⟨hc.1, hc.2.1⟩, ih⟩
  | expanded hm _ ih =>
    rw [List.forall_mem_append]
    exact ⟨hm.isVisible, ih⟩

theorem IsTopLabel.characters (h : IsTopLabel t) : ∀ c ∈ t, c.isAlphanum = true ∨ c = '-' := by
  intro c hc
  cases h with
  | lettered hx hd hy =>
    simp only [List.mem_append, List.mem_cons] at hc
    obtain hc | rfl | hc := hc
    · exact .inl (hx c hc)
    · exact .inl (isAlphanum_of_isAlpha hd)
    · exact .inl (hy c hc)
  | hyphened _ hx hy hd =>
    simp only [List.mem_append, List.mem_cons, List.not_mem_nil, or_false] at hc
    obtain hc | rfl | hc | rfl := hc
    · exact .inl (hx c hc)
    · exact .inr rfl
    · exact hy c hc
    · exact .inl hd

theorem IsDomainEnd.macro_or_dotted (h : IsDomainEnd ending) :
    IsMacro ending ∨ '.' ∈ ending ∧ ∀ c ∈ ending, c.isAlphanum = true ∨ c = '-' ∨ c = '.' := by
  cases h with
  | expanded hm => exact .inl hm
  | label hl =>
    refine .inr ⟨List.mem_cons_self, ?_⟩
    rw [List.forall_mem_cons]
    exact ⟨.inr (.inr rfl), fun c hc => (hl.characters c hc).imp_right .inl⟩
  | dotted hl =>
    refine .inr ⟨List.mem_cons_self, ?_⟩
    rw [List.forall_mem_cons, List.forall_mem_append]
    exact ⟨.inr (.inr rfl), fun c hc => (hl.characters c hc).imp_right .inl, by simp⟩

theorem IsDomainEnd.isMacroString (h : IsDomainEnd ending) : IsMacroString ending := by
  obtain hm | ⟨-, hall⟩ := h.macro_or_dotted
  · exact hm.isMacroString
  · apply IsMacroString.of_literals
    intro c hc
    obtain hc | rfl | rfl := hall c hc
    · exact isLiteral_of_isAlphanum hc
    · simp [IsLiteral]
    · simp [IsLiteral]

theorem IsDomainSpec.isMacroString (h : IsDomainSpec spec) : IsMacroString spec := by
  obtain ⟨front, ending, rfl, hfront, hending⟩ := h
  exact hfront.append hending.isMacroString

/-- An ending has a character that is none of a prefix length. -/
theorem IsDomainEnd.exists_mark (h : IsDomainEnd ending) : ∃ c ∈ ending, c = '.' ∨ c = '%' := by
  obtain hm | ⟨hdot, -⟩ := h.macro_or_dotted
  · obtain ⟨d, -, rfl⟩ | ⟨inside, rfl, -⟩ := hm.escape_or_braced
    · exact ⟨'%', by simp, .inr rfl⟩
    · exact ⟨'%', by simp, .inr rfl⟩
  · exact ⟨'.', hdot, .inl rfl⟩

theorem IsDomainSpec.ne_nil (h : IsDomainSpec spec) : spec ≠ [] := by
  obtain ⟨front, ending, rfl, -, hending⟩ := h
  obtain ⟨c, hc, -⟩ := hending.exists_mark
  exact List.append_ne_nil_of_right_ne_nil _ (List.ne_nil_of_mem hc)

/-! The cut in front of the prefix lengths -/

theorem cutLengthsAt_within (h : ∀ c ∈ t, c ≠ '{' ∧ c ≠ '}') (rest : Text) :
    Term.cutLengthsAt (depth + 1) (t ++ rest) =
      (t ++ (Term.cutLengthsAt (depth + 1) rest).1, (Term.cutLengthsAt (depth + 1) rest).2) := by
  rw [Term.cutLengthsAt_of_withinBraces (Term.withinBraces_of_bare h depth), Term.openBraces_of_bare h]

theorem IsMacro.withinBraces (h : IsMacro m) (depth : Nat) : Term.WithinBraces depth m := by
  obtain ⟨piece, hspells, -⟩ := h.exists_piece
  exact Term.withinBraces_of_spells hspells depth

theorem IsDomainEnd.withinBraces (h : IsDomainEnd ending) (depth : Nat) : Term.WithinBraces depth ending := by
  obtain hm | ⟨-, hall⟩ := h.macro_or_dotted
  · exact hm.withinBraces depth
  · exact Term.withinBraces_of_notin (fun hslash => absurd (hall _ hslash) (by decide)) depth

/-- Where a domain name is cut, its ending stands behind the cut. -/
theorem IsDomainSpec.cut (h : IsDomainSpec spec) :
    (∃ front behind, (∀ rest, Term.cutLengths (spec ++ rest) = (front, some (behind ++ rest))) ∧
        ∃ c ∈ behind, c = '.' ∨ c = '%') ∨
      ∃ depth, ∀ rest, Term.cutLengths (spec ++ rest) =
        (spec ++ (Term.cutLengthsAt depth rest).1, (Term.cutLengthsAt depth rest).2) := by
  obtain ⟨front, ending, rfl, -, hending⟩ := h
  by_cases hwithin : Term.WithinBraces 0 front
  · have hspec : Term.WithinBraces 0 (front ++ ending) :=
      Term.withinBraces_append.mpr ⟨hwithin, hending.withinBraces _⟩
    exact .inr ⟨_, Term.cutLengthsAt_of_withinBraces hspec⟩
  · obtain ⟨host, behind, -, hcut⟩ := Term.cutLengthsAt_of_not_withinBraces hwithin
    obtain ⟨c, hc, hmark⟩ := hending.exists_mark
    refine .inl ⟨host, behind ++ ending, fun rest => ?_, c, List.mem_append_right _ hc, hmark⟩
    rw [List.append_assoc, List.append_assoc]
    exact hcut (ending ++ rest)

end SenderPolicy.Standard
