import SenderPolicy.Proofs.Text.Ascii
import SenderPolicy.Proofs.Text.Composition

/-!
Composing a text in lower case. No character that lowering keeps is decomposed into one that it changes, and none that
it changes stands for a pair of those that it keeps. The letters that are changed are the bits of one number, for the
tables are long, and a bit is soon looked up.
-/
namespace SenderPolicy.Text
variable {c : Char} {n : Nat} {ns : List Nat} {run : LowerRun}

/-! Sets of code points -/

def union (ns : List Nat) : Nat := ns.foldr (· ||| ·) 0

theorem testBit_union : (union ns).testBit n = true ↔ ∃ m ∈ ns, m.testBit n = true := by
  induction ns with
  | nil => simp [union]
  | cons m rest ih =>
    have hcons : union (m :: rest) = m ||| union rest := rfl
    simp only [hcons, Nat.testBit_or, Bool.or_eq_true, ih, List.mem_cons, exists_eq_or_imp]

namespace LowerRun

def letters (run : LowerRun) : Nat :=
  union ((List.range ((run.last - run.first) / run.step + 1)).map fun i => Nat.pow 2 (run.first + run.step * i))

theorem mem_letters : run.letters.testBit n = true ↔
    ∃ i < (run.last - run.first) / run.step + 1, run.first + run.step * i = n := by
  rw [letters, testBit_union]
  constructor
  · rintro ⟨m, hm, hbit⟩
    obtain ⟨i, hi, rfl⟩ := List.mem_map.mp hm
    exact ⟨i, List.mem_range.mp hi, by simpa [Nat.testBit_two_pow] using hbit⟩
  · rintro ⟨i, hi, rfl⟩
    exact ⟨_, List.mem_map_of_mem (List.mem_range.mpr hi), Nat.testBit_two_pow_self⟩

theorem testBit_letters (hordered : run.first ≤ run.last) :
    run.letters.testBit n = true ↔ (run.image? n).isSome = true := by
  rw [mem_letters, image?, Option.isSome_ite]
  constructor
  · rintro ⟨i, hi, rfl⟩
    have hlast := Nat.mul_le_of_le_div run.step i _ (Nat.le_of_lt_succ hi)
    rw [Nat.mul_comm] at hlast
    exact ⟨Nat.le_add_right _ _, by omega, by rw [Nat.add_sub_cancel_left, Nat.mul_mod_right]⟩
  · rintro ⟨hfirst, hlast, hmod⟩
    refine ⟨(n - run.first) / run.step, Nat.lt_succ_of_le (Nat.div_le_div_right (by omega)), ?_⟩
    rw [Nat.mul_div_cancel' (Nat.dvd_of_mod_eq_zero hmod)]
    omega

end LowerRun

/-! Letters that are changed -/

/-- The letters that lowering changes: those of ASCII, the two that are no letters of the table, and the letters of the
table. -/
def raisedRuns : List LowerRun :=
  ⟨0x41, 0x5A, 1, 0x61⟩ :: ⟨0x130, 0x130, 1, 0x69⟩ :: ⟨0x3A3, 0x3A3, 1, 0x3C3⟩ :: lowerRuns

def raised : Nat := union (raisedRuns.map LowerRun.letters)

theorem testBit_raised : raised.testBit n = true ↔ ∃ run ∈ raisedRuns, (run.image? n).isSome = true := by
  have hall : (raisedRuns.all fun run => Nat.ble run.first run.last) = true := by decide +kernel
  have hletters (run : LowerRun) (hrun : run ∈ raisedRuns) :
      run.letters.testBit n = true ↔ (run.image? n).isSome = true :=
    LowerRun.testBit_letters (Nat.le_of_ble_eq_true (List.all_eq_true.mp hall run hrun))
  rw [raised, testBit_union]
  constructor
  · rintro ⟨m, hm, hbit⟩
    obtain ⟨run, hrun, rfl⟩ := List.mem_map.mp hm
    exact ⟨run, hrun, (hletters run hrun).mp hbit⟩
  · rintro ⟨run, hrun, himage⟩
    exact ⟨_, List.mem_map_of_mem hrun, (hletters run hrun).mpr himage⟩

theorem isLow_iff_of_ascii (h : c.toNat < 128) : IsLow c ↔ raised.testBit c.toNat = false := by
  apply forall_ascii (P := fun c => IsLow c ↔ raised.testBit c.toNat = false)
  · decide +kernel
  · exact h

theorem lowerLetter_of_beyond (h : 127 < c.toNat) : lowerLetter c = match lowerRuns.findSome? (·.image? c.toNat) with
    | some m => Char.ofNat m
    | none => c :=
  if_neg (Nat.not_lt.mpr h)

/-- Beyond ASCII a letter that is kept is in no run, for what a run makes of a letter is in none. -/
theorem isLow_iff_of_beyond (h : 127 < c.toNat) : IsLow c ↔ raised.testBit c.toNat = false := by
  have hletter := lowerLetter_of_beyond h
  rw [← Bool.not_eq_true, testBit_raised]
  constructor
  · rintro ⟨hfixed, hsigma, hdotted⟩ ⟨run, hrun, himage⟩
    obtain ⟨m, hm⟩ := Option.isSome_iff_exists.mp himage
    obtain ⟨hfirst, hlast, -⟩ := LowerRun.image?_eq_some hm
    simp only [raisedRuns, List.mem_cons] at hrun
    obtain rfl | rfl | rfl | hrun := hrun
    · exact absurd hlast (by simp only; omega)
    · exact hdotted (Char.toNat_inj.mp (Nat.le_antisymm hlast hfirst))
    · exact hsigma (Char.toNat_inj.mp (Nat.le_antisymm hlast hfirst))
    · -- the form that a run gives is in no run, while the letter is in one
      cases hfind : lowerRuns.findSome? (·.image? c.toNat) with
      | none =>
        rw [List.findSome?_eq_none_iff.mp hfind run hrun] at hm
        cases hm
      | some k =>
        obtain ⟨run', hrun', himage'⟩ := List.exists_of_findSome?_eq_some hfind
        have hnone := LowerRun.image_fixed hrun' himage'
        simp only [hfind] at hletter
        rw [hletter] at hfixed
        by_cases hvalid : k.isValidChar
        · rw [← hfixed, toNat_ofNat_of_valid hvalid, hnone] at hfind
          cases hfind
        · rw [← hfixed, Char.ofNat, dif_neg hvalid] at h
          exact absurd h (by decide)
  · intro hnone
    have hout (run : LowerRun) (hrun : run ∈ raisedRuns) : run.image? c.toNat = none := by
      simpa using fun himage => hnone ⟨run, hrun, himage⟩
    have hfind : lowerRuns.findSome? (·.image? c.toNat) = none :=
      List.findSome?_eq_none_iff.mpr fun run hrun => hout run (by simp [raisedRuns, hrun])
    simp only [hfind] at hletter
    refine ⟨hletter, ?_, ?_⟩
    · rintro rfl
      exact hnone ⟨⟨0x3A3, 0x3A3, 1, 0x3C3⟩, by simp [raisedRuns], by decide⟩
    · rintro rfl
      exact hnone ⟨⟨0x130, 0x130, 1, 0x69⟩, by simp [raisedRuns], by decide⟩

theorem isLow_iff : IsLow c ↔ raised.testBit c.toNat = false := by
  by_cases h : c.toNat < 128
  · exact isLow_iff_of_ascii h
  · exact isLow_iff_of_beyond (Nat.le_of_not_lt h)

theorem isLow_between {first last : Nat}
    (h : (raisedRuns.all fun run => Nat.blt last run.first || Nat.blt run.last first) = true) (hvalid : n.isValidChar)
    (hfirst : first ≤ n) (hlast : n ≤ last) : IsLow (Char.ofNat n) := by
  rw [isLow_iff, toNat_ofNat_of_valid hvalid, ← Bool.not_eq_true, testBit_raised]
  rintro ⟨run, hrun, himage⟩
  obtain ⟨m, hm⟩ := Option.isSome_iff_exists.mp himage
  obtain ⟨hmin, hmax, -⟩ := LowerRun.image?_eq_some hm
  have hrow := List.all_eq_true.mp h run hrun
  simp only [Bool.or_eq_true, Nat.blt_eq] at hrow
  omega

theorem closed_isLow : Closed IsLow where
  splits pair hpair := by
    have hall : ((compositePairs ++ splitPairs).all fun pair => raised.testBit (Char.ofNat pair.1).toNat ||
        !(raised.testBit (Char.ofNat pair.2.1).toNat || raised.testBit (Char.ofNat pair.2.2).toNat)) = true := by
      decide +kernel
    have hrow := List.all_eq_true.mp hall pair hpair
    simp only [isLow_iff]
    intro hlow
    simpa [hlow] using hrow
  joints pair hpair := by
    have hall : (compositePairs.all fun pair => !raised.testBit (Char.ofNat pair.1).toNat ||
        (raised.testBit (Char.ofNat pair.2.1).toNat || raised.testBit (Char.ofNat pair.2.2).toNat)) = true := by
      decide +kernel
    have hrow := List.all_eq_true.mp hall pair hpair
    simp only [isLow_iff]
    intro hfirst hsecond
    simpa [hfirst, hsecond] using hrow
  singletons pair hpair := by
    have hall : (singletons.all fun pair => raised.testBit (Char.ofNat pair.1).toNat ||
        !raised.testBit (Char.ofNat pair.2).toNat) = true := by
      decide +kernel
    have hrow := List.all_eq_true.mp hall pair hpair
    simp only [isLow_iff]
    intro hlow
    simpa [hlow] using hrow
  jamo n hfirst hlast := isLow_between (by decide +kernel) (.inl (by omega)) hfirst hlast
  syllables n hfirst hlast := isLow_between (by decide +kernel) (.inl (by omega)) hfirst hlast

theorem low_composed {t : Text} (h : ∀ c ∈ t, IsLow c) : lower (composed t) = composed t :=
  lower_of_low (closed_isLow.composed h)

end SenderPolicy.Text
