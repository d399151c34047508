import Mathlib.Data.List.Basic
import Mathlib.Data.List.Induction
import SenderPolicy.Address.Ipv4
import SenderPolicy.Proofs.Text.Digits

/-!
Numbers written in decimal. Of the texts of ASCII digits, those without a zero in front of others are the
ones that a number is written as.
-/
namespace SenderPolicy.Text
variable {c : Char} {t : Text} {n : Nat}

/-- ASCII digits, and no zero in front of others. -/
structure IsPlain (t : Text) : Prop where
  digits : ∀ c ∈ t, c.isDigit = true
  bare : t.head? = some '0' → t = ['0']

theorem toNat_of_isDigit (h : c.isDigit = true) : 48 ≤ c.toNat ∧ c.toNat ≤ 57 := by
  simpa [Char.isDigit, UInt32.le_iff_toNat_le] using h

theorem decimal_of_digit (h : c.isDigit = true) : decimal (c.toNat - '0'.toNat) = [c] := by
  have hc := toNat_of_isDigit h
  have hdigit : c.toNat - '0'.toNat < 10 := by
    change c.toNat - 48 < 10
    omega
  rw [decimal, Nat.toDigits_of_lt_base hdigit]
  congr 1
  apply Char.toNat_inj.mp
  rw [Nat.toNat_digitChar_of_lt_ten hdigit]
  change 48 + (c.toNat - 48) = c.toNat
  omega

theorem decimal_concat (hn : 0 < n) (hc : c.isDigit = true) :
    decimal (10 * n + (c.toNat - '0'.toNat)) = decimal n ++ [c] := by
  have hdigit : c.toNat - '0'.toNat < 10 := by
    have := toNat_of_isDigit hc
    change c.toNat - 48 < 10
    omega
  rw [← decimal_of_digit hc]
  exact (Nat.toDigits_append_toDigits (by decide) hn hdigit).symm

theorem decimal_ne_nil (n : Nat) : decimal n ≠ [] := Nat.toDigits_ne_nil

theorem isDigit_of_mem_decimal (h : c ∈ decimal n) : c.isDigit = true :=
  Nat.isDigit_of_mem_toDigits (by decide) (by decide) h

theorem eq_zero_of_head (h : (decimal n).head? = some '0') : n = 0 := by
  induction n using Nat.strongRecOn with
  | ind n ih =>
    by_cases hsmall : n < 10
    · rw [decimal, Nat.toDigits_of_lt_base hsmall] at h
      exact Nat.digitChar_eq_zero.mp (Option.some.inj h)
    · have hten : 10 ≤ n := Nat.le_of_not_lt hsmall
      rw [decimal, Nat.toDigits_of_base_le (by decide) hten] at h
      obtain ⟨first, rest, hfirst⟩ := List.exists_cons_of_ne_nil (decimal_ne_nil (n / 10))
      rw [show Nat.toDigits 10 (n / 10) = first :: rest from hfirst] at h
      have hzero := ih (n / 10) (by omega) (by rw [hfirst]; exact h)
      omega

theorem isPlain_decimal (n : Nat) : IsPlain (decimal n) := by
  refine ⟨fun c => isDigit_of_mem_decimal, fun h => ?_⟩
  rw [eq_zero_of_head h]
  rfl

theorem readDigits_decimal (n : Nat) : Ipv4.readDigits (decimal n) = n :=
  Nat.ofDigitChars_eq_foldl.symm.trans Nat.ofDigitChars_ten_toDigits

theorem readDigits_concat (t : Text) (c : Char) :
    Ipv4.readDigits (t ++ [c]) = 10 * Ipv4.readDigits t + (c.toNat - '0'.toNat) := by
  simp [Ipv4.readDigits]

theorem IsPlain.decimal_readDigits (h : IsPlain t) (hne : t ≠ []) : decimal (Ipv4.readDigits t) = t := by
  -- A number is written by its last digit, behind what is left of it without that digit.
  induction t using List.reverseRecOn with
  | nil => exact absurd rfl hne
  | append_singleton front c ih =>
    have hc := h.digits c (by simp)
    rw [readDigits_concat]
    cases front with
    | nil => simpa [Ipv4.readDigits] using decimal_of_digit hc
    | cons d rest =>
      have hd : d ≠ '0' := by
        rintro rfl
        simpa using h.bare rfl
      have hfront : IsPlain (d :: rest) :=
        ⟨fun e he => h.digits e (List.mem_append_left _ he), fun hz => absurd (Option.some.inj hz) hd⟩
      have hread := ih hfront (List.cons_ne_nil d rest)
      rw [decimal_concat _ hc, hread]
      refine Nat.pos_of_ne_zero fun hzero => hd ?_
      rw [hzero] at hread
      exact (List.cons.inj hread).1.symm

/-! Digits among those of every script -/

theorem isDecimal_of_isDigit (h : c.isDigit = true) : isDecimal c = true := by
  have hc := toNat_of_isDigit h
  simp [isDecimal, Ranges.covers, decimalRanges, hc]

theorem decimalValue_of_isDigit (h : c.isDigit = true) : decimalValue c = c.toNat - '0'.toNat := by
  have hc := toNat_of_isDigit h
  have hfirst : decimalValue c = (c.toNat - 48) % 10 := by
    simp [decimalValue, decimalRanges, hc]
  rw [hfirst]
  change (c.toNat - 48) % 10 = c.toNat - 48
  omega

theorem ofDigits_eq_readDigits (h : ∀ c ∈ t, c.isDigit = true) : ofDigits t = Ipv4.readDigits t := by
  unfold ofDigits Ipv4.readDigits
  apply List.foldl_ext
  intro n c hc
  rw [decimalValue_of_isDigit (h c hc)]

end SenderPolicy.Text
