import SenderPolicy.Proofs.Text.CaseTable

/-!
Lower case. What has been lowered stays as it is, and lowering neither makes nor takes away the characters
that a grammar of ASCII knows, but for letters; the dotted capital I alone becomes a letter and a mark.
-/
namespace SenderPolicy.Text
variable {c d : Char} {t u : Text}

/-- A character that lowering keeps as it is, wherever it stands. -/
def IsLow (c : Char) : Prop := lowerLetter c = c ∧ c ≠ 'Σ' ∧ c ≠ 'İ'

def Kin (c d : Char) : Prop :=
  isBlank d = isBlank c ∧ isLatin d = isLatin c ∧
    (c.toNat < 128 ∨ d.toNat < 128 → isLatin d = false → d = c)

instance (c : Char) : Decidable (IsLow c) := inferInstanceAs (Decidable (_ ∧ _))

instance (c d : Char) : Decidable (Kin c d) := inferInstanceAs (Decidable (_ ∧ _ ∧ _))

theorem ascii_low : ((List.range 128).all fun n =>
    decide (IsLow (lowerLetter (Char.ofNat n)) ∧ Kin (Char.ofNat n) (lowerLetter (Char.ofNat n)))) = true := by
  decide +kernel

theorem isLatin_of_beyond (hc : 127 < c.toNat) (hout : latinRanges.covers c = false) :
    isLatin c = false := by
  have hne (d : Char) (hd : latinRanges.covers d = true) : c ≠ d := by
    rintro rfl
    rw [hout] at hd
    cases hd
  have hupper : c.toLower = c := by
    refine dif_neg fun h => ?_
    have hle : c.toNat ≤ 90 := UInt32.le_iff_toNat_le.mp h.2
    omega
  have hfolded : folded c = c := by
    unfold folded
    rw [if_neg fun h => h.elim (hne 'İ' (by decide)) (hne 'ı' (by decide)), if_neg (hne 'ſ' (by decide)),
      if_neg (hne '\u212A' (by decide)), hupper]
  rw [isLatin, hfolded]
  refine Bool.and_eq_false_iff.mpr (.inr (decide_eq_false fun h => ?_))
  have hle : c.toNat ≤ 122 := UInt32.le_iff_toNat_le.mp h
  omega

theorem toNat_ofNat_of_valid {m : Nat} (h : m.isValidChar) : (Char.ofNat m).toNat = m := by
  rw [Char.ofNat, dif_pos h]
  rfl

theorem image_low_of_plain {run : LowerRun} (hrun : run ∈ lowerRuns) (hplain : run.plain = true) {m : Nat}
    (h : run.image? c.toNat = some m) : IsLow (Char.ofNat m) ∧ Kin c (Char.ofNat m) := by
  obtain ⟨hfirst, hlast, -, hm⟩ := LowerRun.image?_eq_some h
  simp only [LowerRun.plain, Bool.and_eq_true, Nat.blt_eq] at hplain
  obtain ⟨⟨⟨⟨hbeyond, htarget⟩, hletters⟩, hforms⟩, hend⟩ := hplain
  have hbeyond' : 127 < c.toNat := by omega
  -- What neither the letter nor its form may be is told by the ends of the run.
  have hletter := Ranges.outside hletters hfirst hlast
  have hform := Ranges.outside (n := m) hforms (by omega) (by rw [LowerRun.lastTarget]; omega)
  have hvalid : m.isValidChar := by
    have hsurrogate := hform (0xD800, 0xDFFF) (by simp)
    have hlt : m < 0x110000 := by
      rw [LowerRun.lastTarget] at hend
      omega
    simp only at hsurrogate
    exact hsurrogate.imp id fun h => ⟨h, hlt⟩
  have hd := toNat_ofNat_of_valid hvalid
  rw [← hd] at hform
  have hblank : isBlank c = false :=
    Ranges.covers_eq_false fun range h => hletter range (List.mem_append_left _ h)
  have hblank' : isBlank (Char.ofNat m) = false :=
    Ranges.covers_eq_false fun range h =>
      hform range (List.mem_append_left _ (List.mem_append_left _ h))
  have hlatin : latinRanges.covers (Char.ofNat m) = false :=
    Ranges.covers_eq_false fun range h =>
      hform range (List.mem_append_left _ (List.mem_append_right _ h))
  have hlatin' : isLatin (Char.ofNat m) = false := isLatin_of_beyond (by omega) hlatin
  have hfixed : lowerLetter (Char.ofNat m) = Char.ofNat m := by
    have hascii : ¬ m < 128 := by omega
    simp only [lowerLetter, hd, if_neg hascii, LowerRun.image_fixed hrun h]
  refine ⟨⟨hfixed, ?_, ?_⟩, ?_, ?_, ?_⟩
  · intro hsigma
    have hout := hform (0x3A3, 0x3A3) (by simp)
    rw [hsigma] at hout
    exact absurd hout (by decide)
  · intro hdotted
    rw [hdotted] at hlatin
    exact absurd hlatin (by decide)
  · rw [hblank, hblank']
  · rw [hlatin', isLatin_of_beyond hbeyond' (Ranges.covers_eq_false fun range h =>
      hletter range (List.mem_append_right _ h))]
  · omega

theorem image_low {run : LowerRun} (hrun : run ∈ lowerRuns) {m : Nat} (h : run.image? c.toNat = some m) :
    IsLow (Char.ofNat m) ∧ Kin c (Char.ofNat m) := by
  have hcheck := List.all_eq_true.mp lowerRuns_plain run hrun
  rcases Bool.or_eq_true _ _ ▸ hcheck with hkelvin | hplain
  · obtain ⟨hfirst, hlast, -, hm⟩ := LowerRun.image?_eq_some h
    simp only [LowerRun.isKelvin, Bool.and_eq_true, Nat.beq_eq] at hkelvin
    obtain ⟨⟨hf, hl⟩, ht⟩ := hkelvin
    obtain rfl : m = 0x6B := by omega
    obtain rfl : c = '\u212A' := by rw [← Char.ofNat_toNat c, show c.toNat = 0x212A by omega]
    decide +kernel
  · exact image_low_of_plain hrun hplain h

theorem lowerLetter_low (hs : c ≠ 'Σ') (hi : c ≠ 'İ') : IsLow (lowerLetter c) ∧ Kin c (lowerLetter c) := by
  by_cases hascii : c.toNat < 128
  · have hrow := List.all_eq_true.mp ascii_low c.toNat (List.mem_range.mpr hascii)
    simpa [Char.ofNat_toNat] using hrow
  · cases hfind : lowerRuns.findSome? (·.image? c.toNat) with
    | none =>
      have hsame : lowerLetter c = c := by simp only [lowerLetter, if_neg hascii, hfind]
      rw [hsame]
      exact ⟨⟨hsame, hs, hi⟩, rfl, rfl, fun _ _ => rfl⟩
    | some m =>
      have hletter : lowerLetter c = Char.ofNat m := by simp only [lowerLetter, if_neg hascii, hfind]
      obtain ⟨run, hrun, himage⟩ := List.exists_of_findSome?_eq_some hfind
      rw [hletter]
      exact image_low hrun himage

/-! Texts -/

inductive Becomes : Char → Char → Prop
  | sigma : Becomes 'Σ' 'σ'
  | finalSigma : Becomes 'Σ' 'ς'
  | letter : Becomes 'İ' 'i'
  | mark : Becomes 'İ' '\u0307'
  | plain {c : Char} : c ≠ 'Σ' → c ≠ 'İ' → Becomes c (lowerLetter c)

theorem of_mem_lowerForm {b : Bool} (h : d ∈ lowerForm b c t) : Becomes c d := by
  unfold lowerForm at h
  split at h
  · rename_i hs
    subst hs
    split at h
    · rw [List.mem_singleton.mp h]
      exact .finalSigma
    · rw [List.mem_singleton.mp h]
      exact .sigma
  · rename_i hs
    split at h
    · rename_i hi
      subst hi
      cases h with
      | head => exact .letter
      | tail _ h =>
        rw [List.mem_singleton.mp h]
        exact .mark
    · rename_i hi
      rw [List.mem_singleton.mp h]
      exact .plain hs hi

theorem of_mem_lowerFrom {b : Bool} (h : d ∈ lowerFrom b t) : ∃ c ∈ t, Becomes c d := by
  induction t generalizing b with
  | nil => cases h
  | cons c r ih =>
    cases List.mem_append.mp h with
    | inl h => exact ⟨c, List.mem_cons_self, of_mem_lowerForm h⟩
    | inr h =>
      obtain ⟨e, he, hbecomes⟩ := ih h
      exact ⟨e, List.mem_cons_of_mem c he, hbecomes⟩

theorem lowerForm_ne_nil (b : Bool) (c : Char) (t : Text) : lowerForm b c t ≠ [] := by
  unfold lowerForm
  split
  · split <;> exact List.cons_ne_nil _ _
  · split <;> exact List.cons_ne_nil _ _

theorem of_head?_lowerFrom {b : Bool} (h : (lowerFrom b t).head? = some d) : ∃ c, t.head? = some c ∧ Becomes c d := by
  cases t with
  | nil => cases h
  | cons c r =>
    obtain ⟨e, form, hform⟩ := List.exists_cons_of_ne_nil (lowerForm_ne_nil b c r)
    rw [lowerFrom, hform, List.cons_append, List.head?_cons] at h
    cases h
    exact ⟨c, rfl, of_mem_lowerForm (hform ▸ List.mem_cons_self)⟩

theorem of_getLast?_lowerFrom {b : Bool} (h : (lowerFrom b t).getLast? = some d) :
    ∃ c, t.getLast? = some c ∧ Becomes c d := by
  induction t generalizing b with
  | nil => cases h
  | cons c r ih =>
    rw [lowerFrom, List.getLast?_append] at h
    cases hrest : (lowerFrom (if isIgnorable c then b else isCased c) r).getLast? with
    | some e =>
      rw [hrest] at h
      cases h
      obtain ⟨a, ha, hbecomes⟩ := ih hrest
      exact ⟨a, by rw [List.getLast?_cons, ha]; rfl, hbecomes⟩
    | none =>
      rw [hrest] at h
      have hnil : r = [] := by
        cases r with
        | nil => rfl
        | cons e r =>
          have hempty := List.getLast?_eq_none_iff.mp hrest
          rw [lowerFrom, List.append_eq_nil_iff] at hempty
          exact absurd hempty.1 (lowerForm_ne_nil _ e r)
      exact ⟨c, by rw [hnil]; rfl, of_mem_lowerForm (List.mem_of_getLast? h)⟩

namespace Becomes

theorem low (h : Becomes c d) : IsLow d := by
  cases h with
  | plain hs hi => exact (lowerLetter_low hs hi).1
  | _ => decide +kernel

theorem isBlank_eq (h : Becomes c d) : isBlank d = isBlank c := by
  cases h with
  | plain hs hi => exact (lowerLetter_low hs hi).2.1
  | _ => decide

theorem eq_of_ascii (h : Becomes c d) (hd : d.toNat < 128) (hl : isLatin d = false) : d = c := by
  cases h with
  | plain hs hi => exact (lowerLetter_low hs hi).2.2.2 (.inr hd) hl
  | letter => exact absurd hl (by decide)
  | _ => exact absurd hd (by decide)

end Becomes

theorem lowerFrom_of_low (b : Bool) (h : ∀ c ∈ t, IsLow c) : lowerFrom b t = t := by
  induction t generalizing b with
  | nil => rfl
  | cons c r ih =>
    obtain ⟨hc, hs, hi⟩ := h c List.mem_cons_self
    rw [lowerFrom, lowerForm, if_neg hs, if_neg hi, hc, List.singleton_append,
      ih _ fun d hd => h d (List.mem_cons_of_mem c hd)]

theorem lower_of_low (h : ∀ c ∈ t, IsLow c) : lower t = t := lowerFrom_of_low false h

theorem lower_lower (t : Text) : lower (lower t) = lower t :=
  lower_of_low fun d hd => by
    obtain ⟨c, -, hbecomes⟩ := of_mem_lowerFrom hd
    exact hbecomes.low

theorem of_mem_lower (h : d ∈ lower t) : ∃ c ∈ t, Becomes c d := of_mem_lowerFrom h

end SenderPolicy.Text
