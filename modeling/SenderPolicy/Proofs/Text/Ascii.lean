import SenderPolicy.Proofs.Text.Lowering
import SenderPolicy.Text.Blank

/-!
ASCII characters. What is decidable of a character is told of all of them by going through their numbers.
-/
namespace SenderPolicy.Text
variable {c : Char} {t : Text}

theorem forall_ascii {P : Char → Prop} (h : ∀ n < 128, P (Char.ofNat n)) (hc : c.toNat < 128) : P c := by
  have hn := h c.toNat hc
  rwa [Char.ofNat_toNat] at hn

theorem ascii_of_isAlphanum (h : c.isAlphanum = true) : c.toNat < 128 := by
  have ascii (high : Char) (h : c.val ≤ high.val) (hhigh : high.toNat < 128) : c.toNat < 128 :=
    Nat.lt_of_le_of_lt (UInt32.le_iff_toNat_le.mp h) hhigh
  obtain hletter | hdigit := Bool.or_eq_true_iff.mp h
  · obtain hupper | hlower := Bool.or_eq_true_iff.mp hletter
    · exact ascii 'Z' (of_decide_eq_true hupper).2 (by decide)
    · exact ascii 'z' (of_decide_eq_true (Bool.and_eq_true_iff.mp hlower).2) (by decide)
  · exact ascii '9' (of_decide_eq_true (Bool.and_eq_true_iff.mp hdigit).2) (by decide)

theorem isAlphanum_of_isDigit (h : c.isDigit = true) : c.isAlphanum = true := Bool.or_eq_true_iff.mpr (.inr h)

theorem isAlphanum_of_isAlpha (h : c.isAlpha = true) : c.isAlphanum = true := Bool.or_eq_true_iff.mpr (.inl h)

theorem isAlpha_of_isLower (h : c.isLower = true) : c.isAlpha = true := Bool.or_eq_true_iff.mpr (.inr h)

theorem ascii_of_toLower (h : c.toLower.toNat < 128) : c.toNat < 128 := by
  unfold Char.toLower at h
  split at h
  · rename_i hupper
    have hz : c.toNat ≤ 90 := UInt32.le_iff_toNat_le.mp hupper.2
    omega
  · exact h

theorem isAlphanum_of_toLower (h : c.toLower.isAlphanum = true) : c.isAlphanum = true := by
  apply forall_ascii (P := fun c => c.toLower.isAlphanum = true → c.isAlphanum = true)
  · decide +kernel
  · exact ascii_of_toLower (ascii_of_isAlphanum h)
  · exact h

theorem isAlpha_of_toLower (h : c.toLower.isAlpha = true) : c.isAlpha = true := by
  apply forall_ascii (P := fun c => c.toLower.isAlpha = true → c.isAlpha = true)
  · decide +kernel
  · exact ascii_of_toLower (ascii_of_isAlphanum (isAlphanum_of_isAlpha h))
  · exact h

theorem isLatin_of_isAlpha (h : c.isAlpha = true) : isLatin c = true := by
  apply forall_ascii (P := fun c => c.isAlpha = true → isLatin c = true)
  · decide +kernel
  · exact ascii_of_isAlphanum (isAlphanum_of_isAlpha h)
  · exact h

theorem isBlank_of_visible (hlow : 0x21 ≤ c.toNat) (hhigh : c.toNat ≤ 0x7E) : isBlank c = false := by
  have hall : c.toNat < 128 → 0x21 ≤ c.toNat → c.toNat ≤ 0x7E → isBlank c = false := by
    apply forall_ascii (P := fun c => 0x21 ≤ c.toNat → c.toNat ≤ 0x7E → isBlank c = false)
    decide +kernel
  exact hall (by omega) hlow hhigh

theorem isBlank_of_isDigit (h : c.isDigit = true) : isBlank c = false := by
  apply forall_ascii (P := fun c => c.isDigit = true → isBlank c = false)
  · decide +kernel
  · exact ascii_of_isAlphanum (isAlphanum_of_isDigit h)
  · exact h

theorem lowerFrom_of_ascii (b : Bool) (h : ∀ c ∈ t, c.toNat < 128) : lowerFrom b t = t.map Char.toLower := by
  induction t generalizing b with
  | nil => rfl
  | cons c r ih =>
    rw [List.forall_mem_cons] at h
    have hsigma : c ≠ 'Σ' := by rintro rfl; exact absurd h.1 (by decide)
    have hdotted : c ≠ 'İ' := by rintro rfl; exact absurd h.1 (by decide)
    rw [lowerFrom, ih _ h.2, lowerForm, if_neg hsigma, if_neg hdotted, lowerLetter, if_pos h.1]
    rfl

theorem lower_of_ascii (h : ∀ c ∈ t, c.toNat < 128) : lower t = t.map Char.toLower := lowerFrom_of_ascii false h

end SenderPolicy.Text
