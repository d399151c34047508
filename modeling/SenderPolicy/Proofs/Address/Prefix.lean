import Mathlib.Data.Nat.Bitwise
import SenderPolicy.Address

/-!
The first bits of addresses. That two addresses agree in them is said in three ways: bit by bit, by what is left when
the other bits are shifted out, and by what is left when they are masked. Of an address that stands for a shorter one
the first ninety-six bits are fixed, so the first bits of the shorter one are those behind them.
-/
namespace SenderPolicy

section
variable {w n : Nat} {a b : BitVec w}

def AgreeUpTo (n : Nat) (a b : BitVec w) : Prop := ∀ i < n, a.getMsbD i = b.getMsbD i

instance : Decidable (AgreeUpTo n a b) := Nat.decidableBallLT n fun i _ => a.getMsbD i = b.getMsbD i

def prefixMask (w n : Nat) : BitVec w := BitVec.allOnes w <<< (w - n)

theorem AgreeUpTo.mono {m : Nat} (h : AgreeUpTo n a b) (hm : m ≤ n) : AgreeUpTo m a b :=
  fun i hi => h i (Nat.lt_of_lt_of_le hi hm)

theorem getMsbD_prefixMask (h : n ≤ w) (i : Nat) : (prefixMask w n).getMsbD i = decide (i < n) := by
  rw [prefixMask, BitVec.getMsbD_shiftLeft, BitVec.getMsbD_allOnes]
  exact decide_eq_decide.mpr (by omega)

theorem agreeUpTo_iff_masked (h : n ≤ w) : AgreeUpTo n a b ↔ a &&& prefixMask w n = b &&& prefixMask w n := by
  constructor
  · intro hagree
    refine BitVec.eq_of_getMsbD_eq fun i _ => ?_
    rw [BitVec.getMsbD_and, BitVec.getMsbD_and, getMsbD_prefixMask h]
    by_cases hi : i < n
    · rw [hagree i hi]
    · rw [decide_eq_false hi, Bool.and_false, Bool.and_false]
  · intro hmasked i hi
    have hbit := congrArg (BitVec.getMsbD · i) hmasked
    simpa only [BitVec.getMsbD_and, getMsbD_prefixMask h, decide_eq_true hi, Bool.and_true] using hbit

theorem agreeUpTo_iff_div (h : n ≤ w) :
    AgreeUpTo n a b ↔ a.toNat / Nat.pow 2 (w - n) = b.toNat / Nat.pow 2 (w - n) := by
  have hbit (x : BitVec w) (j : Nat) : (x.toNat / 2 ^ (w - n)).testBit j = x.getLsbD (j + (w - n)) := by
    rw [Nat.testBit_div_two_pow, BitVec.testBit_toNat]
  rw [Nat.pow_eq]
  constructor
  · intro hagree
    refine Nat.eq_of_testBit_eq fun j => ?_
    rw [hbit, hbit]
    by_cases hj : j < n
    · have hmsb := hagree (n - 1 - j) (by omega)
      rw [BitVec.getMsbD_eq_getLsbD, BitVec.getMsbD_eq_getLsbD, decide_eq_true (by omega),
        show w - 1 - (n - 1 - j) = j + (w - n) by omega] at hmsb
      simpa only [Bool.true_and] using hmsb
    · rw [BitVec.getLsbD_of_ge a _ (by omega), BitVec.getLsbD_of_ge b _ (by omega)]
  · intro hdiv i hi
    have hlsb := congrArg (Nat.testBit · (n - 1 - i)) hdiv
    simp only [hbit, show n - 1 - i + (w - n) = w - 1 - i by omega] at hlsb
    rw [BitVec.getMsbD_eq_getLsbD, BitVec.getMsbD_eq_getLsbD, hlsb]

end

/-! Addresses that stand for shorter ones -/

namespace Ipv6
variable {n : Nat} {short short' : Ipv4.Bits} {bits bits' : Bits}

/-- The address that stands for the shorter one. -/
def mapping (short : Ipv4.Bits) : Bits := 0xFFFF#96 ++ short

theorem toNat_mapping (short : Ipv4.Bits) : (mapping short).toNat = 0xFFFF * 0x100000000 + short.toNat := by
  rw [mapping, BitVec.toNat_append, ← Nat.shiftLeft_add_eq_or_of_lt short.isLt, Nat.shiftLeft_eq]
  rfl

theorem mapped?_eq_some_iff : mapped? bits = some short ↔ bits = mapping short := by
  have hshort := short.isLt
  have hbits := bits.isLt
  unfold mapped?
  constructor
  · intro h
    split at h
    · rename_i hblock
      refine BitVec.eq_of_toNat_eq ?_
      rw [toNat_mapping, ← Option.some.inj h, BitVec.toNat_ofNat]
      omega
    · cases h
  · rintro rfl
    rw [toNat_mapping, if_pos (by omega)]
    refine congrArg some (BitVec.eq_of_toNat_eq ?_)
    rw [BitVec.toNat_ofNat]
    omega

theorem mapped?_mapping (short : Ipv4.Bits) : mapped? (mapping short) = some short := mapped?_eq_some_iff.mpr rfl

theorem getMsbD_mapping (short : Ipv4.Bits) (i : Nat) :
    (mapping short).getMsbD i = if i < 96 then (0xFFFF#96).getMsbD i else short.getMsbD (i - 96) := by
  rw [mapping, BitVec.getMsbD_append]
  by_cases hi : i < 96
  · rw [if_neg (Nat.not_le.mpr hi), if_pos hi]
  · rw [if_pos (Nat.not_lt.mp hi), if_neg hi]

theorem isSome_mapped?_iff : (mapped? bits).isSome ↔ AgreeUpTo 96 bits (mapping 0) := by
  rw [agreeUpTo_iff_div (by decide), toNat_mapping, mapped?]
  split_ifs with h
  · exact iff_of_true rfl h
  · exact iff_of_false Bool.false_ne_true h

theorem agreeUpTo_mapping (short short' : Ipv4.Bits) : AgreeUpTo 96 (mapping short) (mapping short') := by
  intro i hi
  rw [getMsbD_mapping, getMsbD_mapping, if_pos hi, if_pos hi]

theorem mapping_and_prefixMask (hlow : 96 ≤ n) (hhigh : n ≤ 128) (short : Ipv4.Bits) :
    mapping short &&& prefixMask 128 n = mapping (short &&& prefixMask 32 (n - 96)) := by
  refine BitVec.eq_of_getMsbD_eq fun i _ => ?_
  rw [BitVec.getMsbD_and, getMsbD_mapping, getMsbD_mapping, getMsbD_prefixMask hhigh, BitVec.getMsbD_and,
    getMsbD_prefixMask (by omega)]
  by_cases hi : i < 96
  · rw [if_pos hi, if_pos hi, decide_eq_true (by omega), Bool.and_true]
  · rw [if_neg hi, if_neg hi]
    congr 1
    exact decide_eq_decide.mpr (by omega)

/-- A mask of ninety-six bits or more changes only bits of the shorter address that an address stands for. -/
theorem mapped?_and_prefixMask (hlow : 96 ≤ n) (hhigh : n ≤ 128) (bits : Bits) :
    mapped? (bits &&& prefixMask 128 n) = (mapped? bits).map (· &&& prefixMask 32 (n - 96)) := by
  cases h : mapped? bits with
  | some short =>
    rw [mapped?_eq_some_iff.mp h, mapping_and_prefixMask hlow hhigh, mapped?_mapping]
    rfl
  | none =>
    have hnot : ¬ (mapped? bits).isSome := by simp [h]
    rw [Option.map_none, ← Option.not_isSome_iff_eq_none, isSome_mapped?_iff]
    intro hblock
    refine hnot (isSome_mapped?_iff.mpr fun i hi => ?_)
    rw [← hblock i hi, BitVec.getMsbD_and, getMsbD_prefixMask hhigh, decide_eq_true (by omega), Bool.and_true]

end Ipv6
end SenderPolicy
