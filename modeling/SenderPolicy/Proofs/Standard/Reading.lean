import SenderPolicy.Proofs.Record.Reading
import SenderPolicy.Proofs.Standard.DomainNames
import SenderPolicy.Proofs.Standard.Networks
import SenderPolicy.Proofs.Standard.PrefixLengths
import SenderPolicy.Proofs.Term.Recognition

/-!
Records of the standard are read. Each term is one word, and is read as what it is: a directive by its name and what stands
behind it, a modifier by its name and its value.
-/
namespace SenderPolicy.Standard
open Text
variable {c : Char} {kind : Kind} {w : Written} {ws : List Written} {name value rest : Text}

/-! Names -/

theorem known_names : (Kind.mechanisms ++ Kind.modifiers).all (fun kind =>
    kind.name.all Char.isAlphanum && kind.name.head?.any Char.isAlpha) = true := by
  decide

theorem characters_of_known (hk : kind ∈ Kind.mechanisms ++ Kind.modifiers)
    (h : name.map Char.toLower = kind.name) : ∀ c ∈ name, c.isAlphanum = true := by
  have hrow := List.all_eq_true.mp known_names kind hk
  rw [Bool.and_eq_true, List.all_eq_true] at hrow
  intro c hc
  exact isAlphanum_of_toLower (hrow.1 _ (h ▸ List.mem_map_of_mem hc))

theorem first_of_known (hk : kind ∈ Kind.mechanisms ++ Kind.modifiers)
    (h : name.map Char.toLower = kind.name) : ∃ c r, name = c :: r ∧ c.isAlpha = true := by
  have hrow := List.all_eq_true.mp known_names kind hk
  rw [Bool.and_eq_true, ← h] at hrow
  cases name with
  | nil => cases hrow.2
  | cons c r => exact ⟨c, r, rfl, isAlpha_of_toLower hrow.2⟩

theorem isNameCharacter_of_isAlphanum (h : c.isAlphanum = true) : Term.isNameCharacter c = true := by
  apply forall_ascii (P := fun c => c.isAlphanum = true → Term.isNameCharacter c = true)
  · decide +kernel
  · exact ascii_of_isAlphanum h
  · exact h

theorem visible_of_nameCharacter (h : c.isAlphanum = true ∨ c = '-' ∨ c = '_' ∨ c = '.') :
    IsVisible c ∧ Term.isNameCharacter c = true := by
  obtain h | rfl | rfl | rfl := h
  · exact ⟨isVisible_of_isAlphanum h, isNameCharacter_of_isAlphanum h⟩
  · decide
  · decide
  · decide

namespace Derived

theorem map_toLower_name (h : Derived w) (hk : w.kind ≠ .unknownModifier) : w.name.map Char.toLower = w.kind.name := by
  cases h with
  | other => exact absurd rfl hk
  | _ => assumption

theorem isOtherName (h : Derived w) (hk : w.kind = .unknownModifier) : IsOtherName w.name := by
  cases h with
  | other hname => exact hname
  | _ => cases hk

theorem mem_known (h : Derived w) (hk : w.kind ≠ .unknownModifier) : w.kind ∈ Kind.mechanisms ++ Kind.modifiers := by
  cases h with
  | other => exact absurd rfl hk
  | _ => simp [Kind.mechanisms, Kind.modifiers]

theorem name_characters (h : Derived w) : ∀ c ∈ w.name, c.isAlphanum = true ∨ c = '-' ∨ c = '_' ∨ c = '.' := by
  by_cases hk : w.kind = .unknownModifier
  · exact (h.isOtherName hk).characters
  · intro c hc
    exact .inl (characters_of_known (h.mem_known hk) (h.map_toLower_name hk) c hc)

theorem name_first (h : Derived w) : ∃ c r, w.name = c :: r ∧ c.isAlpha = true := by
  by_cases hk : w.kind = .unknownModifier
  · exact (h.isOtherName hk).first
  · exact first_of_known (h.mem_known hk) (h.map_toLower_name hk)

theorem isName (h : Derived w) : Term.IsName w.name := by
  obtain ⟨c, r, hname, hc⟩ := h.name_first
  constructor
  · intro d hd
    exact (visible_of_nameCharacter (h.name_characters d hd)).2
  · simp [hname, isLatin_of_isAlpha hc]

theorem ascii_name (h : Derived w) : ∀ c ∈ w.name, c.toNat < 128 := by
  intro c hc
  have hvisible := (visible_of_nameCharacter (h.name_characters c hc)).1
  exact Nat.lt_of_le_of_lt hvisible.2 (by decide)

theorem lower_name (h : Derived w) (hk : w.kind ≠ .unknownModifier) : lower w.name = w.kind.name :=
  (lower_of_ascii h.ascii_name).trans (h.map_toLower_name hk)

theorem isName_lower (h : Derived w) : Term.IsName (lower w.name) := by
  apply Term.isName_lower h.isName
  rw [lower_of_ascii h.ascii_name, List.mem_map]
  intro hmark
  obtain ⟨c, hc, heq⟩ := hmark
  exact forall_ascii (P := fun c => c.toLower ≠ '\u0307') (by decide +kernel) (h.ascii_name c hc) heq

theorem ofName?_lower (h : Derived w) (hk : w.kind.isModifier = true) :
    Kind.ofName? Kind.modifiers (lower w.name) = if w.kind = .unknownModifier then none else some w.kind := by
  by_cases hother : w.kind = .unknownModifier
  · have hunknown := (h.isOtherName hother).unknown
    have hlower := lower_of_ascii h.ascii_name
    have hredirect : Kind.name .redirect ≠ lower w.name := fun heq => hunknown.1 (heq ▸ hlower).symm
    have hexp : Kind.name .exp ≠ lower w.name := fun heq => hunknown.2 (heq ▸ hlower).symm
    simp [Kind.ofName?, Kind.modifiers, hother, hredirect, hexp]
  · have hmem : w.kind ∈ Kind.modifiers := by
      cases h with
      | other => exact absurd rfl hother
      | redirect | explanation => simp [Kind.modifiers]
      | _ => cases hk
    have hall : ∀ kind ∈ Kind.modifiers, Kind.ofName? Kind.modifiers kind.name = some kind := by decide
    rw [h.lower_name hother, if_neg hother, hall w.kind hmem]

/-! Values -/

theorem isMacroString (h : Derived w) (hk : w.kind ≠ .ip4 ∧ w.kind ≠ .ip6) (hv : w.value = some value) :
    IsMacroString value := by
  cases h with
  | all => cases hv
  | ip4 => exact absurd rfl hk.1
  | ip6 => exact absurd rfl hk.2
  | a _ hspec | mx _ hspec | ptr _ hspec => exact (hspec value hv).isMacroString
  | inclusion _ hspec | existence _ hspec | redirect _ hspec => exact Option.some.inj hv ▸ hspec.isMacroString
  | explanation _ hspec | other _ hspec => exact Option.some.inj hv ▸ hspec

theorem isVisible_value (h : Derived w) (hv : w.value = some value) : ∀ c ∈ value, IsVisible c := by
  by_cases hk : w.kind ≠ .ip4 ∧ w.kind ≠ .ip6
  · exact (h.isMacroString hk hv).isVisible
  · intro c hc
    cases h with
    | ip4 _ hquad =>
      cases hv
      obtain hdigit | rfl := hquad.characters c hc
      · exact isVisible_of_isAlphanum (isAlphanum_of_isDigit hdigit)
      · decide
    | ip6 _ hgroups =>
      cases hv
      obtain hdigit | rfl | rfl := hgroups.characters c hc
      · exact isVisible_of_isAlphanum hdigit
      · decide
      · decide
    | _ => simp at hk

theorem lengths_characters (h : Derived w) : ∀ c ∈ w.lengths, c.isDigit = true ∨ c = '/' := by
  cases h with
  | a _ _ hl | mx _ _ hl => exact hl.characters
  | ip4 _ _ hl | ip6 _ _ hl => exact hl.characters
  | _ => simp

theorem modifier_parts (h : Derived w) (hk : w.kind.isModifier = true) :
    w.sign = none ∧ w.lengths = [] ∧ ∃ value, w.value = some value := by
  cases h with
  | redirect | explanation | other => exact ⟨rfl, rfl, _, rfl⟩
  | _ => cases hk

theorem isSeparator (h : Derived w) (hk : w.kind.isModifier = false) :
    ∀ c, w.tail.head? = some c → Term.isSeparator c = true := by
  cases hv : w.value with
  | some v => simp [Written.tail, hv, hk, Term.isSeparator]
  | none =>
    have htail : w.tail = w.lengths := by simp [Written.tail, hv]
    rw [htail]
    cases h with
    | a _ _ hl | mx _ _ hl => exact hl.isSeparator
    | all | ptr => simp
    | _ => cases hv

end Derived

/-! Terms -/

theorem ofSymbol?_of_isAlpha (h : c.isAlpha = true) : Qualifier.ofSymbol? c = none := by
  unfold Qualifier.ofSymbol?
  split
  · exact absurd h (by decide)
  · exact absurd h (by decide)
  · exact absurd h (by decide)
  · exact absurd h (by decide)
  · rfl

namespace Derived

theorem take_text (h : Derived w) : Qualifier.take w.text = (w.sign, w.name ++ w.tail) := by
  obtain ⟨c, r, hname, hc⟩ := h.name_first
  rw [Written.text, hname]
  cases w.sign with
  | none => simp [Qualifier.take, ofSymbol?_of_isAlpha hc]
  | some q => simp [Qualifier.take, Term.ofSymbol?_symbol]

theorem parse_directive (h : Derived w) (hk : w.kind ∈ Kind.mechanisms) :
    Term.parse w.text = Term.ofMechanism (w.sign.getD .pass) w.kind.name w.tail := by
  have hfacts : ∀ kind ∈ Kind.mechanisms, kind ≠ .unknownModifier ∧ kind.isModifier = false := by decide
  obtain ⟨hne, hplain⟩ := hfacts w.kind hk
  rw [Term.parse_eq, h.take_text]
  exact Term.readBody_of_named _ h.isName.1 (h.lower_name hne) (h.isSeparator hplain)

theorem parse_modifier (h : Derived w) (hk : w.kind.isModifier = true) (hv : w.value = some value) :
    Term.parse w.text = Term.ofModifier .pass (lower w.name) value := by
  obtain ⟨hsign, hlengths, -⟩ := h.modifier_parts hk
  have htail : w.tail = '=' :: value := by simp [Written.tail, hv, hk, hlengths]
  have hline : '\n' ∉ value := fun hc => absurd (h.isVisible_value hv _ hc) (by decide)
  rw [Term.parse_eq, h.take_text, hsign, htail]
  exact Term.readBody_of_modifier (Term.splitModifier?_of_name h.isName (Term.singleLine?_of_line hline))

theorem kind_parse (h : Derived w) : (Term.parse w.text).kind = w.kind := by
  cases hk : w.kind.isModifier with
  | true =>
    obtain ⟨-, -, value, hv⟩ := h.modifier_parts hk
    rw [h.parse_modifier hk hv, Term.kind_ofModifier, h.ofName?_lower hk]
    split
    · rename_i hother
      exact hother.symm
    · rfl
  | false =>
    have hmem : w.kind ∈ Kind.mechanisms := by
      cases h with
      | redirect | explanation | other => cases hk
      | _ => simp [Kind.mechanisms]
    have hall : ∀ kind ∈ Kind.mechanisms, Kind.ofName? Kind.mechanisms kind.name = some kind := by decide
    rw [h.parse_directive hmem, Term.kind_ofMechanism, hall w.kind hmem, Option.getD_some]

theorem isVisible_tail (h : Derived w) : ∀ c ∈ w.tail, IsVisible c := by
  have hlengths : ∀ c ∈ w.lengths, IsVisible c := by
    intro c hc
    have hliteral := isLiteral_of_length (h.lengths_characters c hc)
    exact ⟨hliteral.1, hliteral.2.1⟩
  rw [Written.tail, List.forall_mem_append]
  refine ⟨?_, hlengths⟩
  cases hv : w.value with
  | none => simp
  | some v =>
    rw [List.forall_mem_cons]
    exact ⟨by cases w.kind.isModifier <;> decide, h.isVisible_value hv⟩

theorem isSolid (h : Derived w) : IsSolid w.text := by
  have hvisible : ∀ c ∈ w.text, IsVisible c := by
    simp only [Written.text, List.forall_mem_append]
    refine ⟨?_, fun c hc => (visible_of_nameCharacter (h.name_characters c hc)).1, h.isVisible_tail⟩
    cases w.sign with
    | none => simp
    | some q => cases q <;> simp [Qualifier.symbol, IsVisible]
  constructor
  · obtain ⟨c, r, hname, -⟩ := h.name_first
    simp [Written.text, hname]
  · intro c hc
    exact isBlank_of_visible (hvisible c hc).1 (hvisible c hc).2

end Derived

/-! Records -/

theorem words_terms (h : IsTerms ws rest) (t : Text) : words (t ++ rest) = words t ++ ws.map Written.text := by
  have hblanks (n : Nat) : ∀ c ∈ List.replicate n ' ', isBlank c = true := by
    intro c hc
    rw [List.eq_of_mem_replicate hc]
    decide
  have hspace : isBlank ' ' = true := by decide
  induction h generalizing t with
  | @ending n => simp [words_append_blanks t (hblanks n)]
  | @term n w ws rest hw _ ih =>
    have hfront : words (t ++ (List.replicate (n + 1) ' ' ++ w.text)) = words t ++ [w.text] := by
      rw [List.replicate_succ', List.append_assoc, List.singleton_append, ← List.append_assoc,
        words_append_blank hspace, words_append_blanks t (hblanks n), words_of_solid hw.isSolid]
    have hrest := ih (t ++ (List.replicate (n + 1) ' ' ++ w.text))
    rw [hfront] at hrest
    simpa using hrest

def recordOf (ws : List Written) : Record := ⟨some Record.versionTag, (ws.map Written.text).map Term.parse⟩

theorem parse?_terms (h : IsTerms ws rest) : Record.parse? (Record.versionTag ++ rest) = some (recordOf ws) := by
  have hwords := words_terms h Record.versionTag
  rw [words_of_solid Record.versionTag_solid] at hwords
  exact Record.parse?_of_words hwords

end SenderPolicy.Standard
