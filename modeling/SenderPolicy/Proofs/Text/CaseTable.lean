import SenderPolicy.Text.Blank
import SenderPolicy.Text.Case

/-!
The table of lower-case forms. It is checked run by run: the forms of one run are letters of no other run,
and neither a run nor its forms hold a blank or one of the few letters that are told apart by themselves.
-/
namespace SenderPolicy.Text

def Ranges.avoid (ranges : Ranges) (first last : Nat) : Bool :=
  ranges.all fun (a, b) => Nat.blt last a || Nat.blt b first

/-- The letters beyond ASCII that are Latin ones where case is ignored. -/
def latinRanges : Ranges := [(0x130, 0x131), (0x17F, 0x17F), (0x212A, 0x212A)]

namespace LowerRun

def lastTarget (run : LowerRun) : Nat := run.target + (run.last - run.first)

def misses (a b : LowerRun) : Bool :=
  Nat.blt a.lastTarget b.first || Nat.blt b.last a.target ||
    (Nat.beq b.step 2 && (Nat.beq a.step 2 || Nat.beq a.first a.last) &&
      Nat.beq ((a.target + b.first) % 2) 1)

/-- Beyond ASCII a run holds neither a blank nor a Latin letter, and its forms neither these nor the
capital sigma. -/
def plain (run : LowerRun) : Bool :=
  Nat.blt 127 run.first && Nat.blt 127 run.target &&
    (blankRanges ++ latinRanges).avoid run.first run.last &&
    (blankRanges ++ latinRanges ++ [(0x3A3, 0x3A3), (0xD800, 0xDFFF)]).avoid
      run.target run.lastTarget && Nat.blt run.lastTarget 0x110000

def isKelvin (run : LowerRun) : Bool :=
  Nat.beq run.first 0x212A && Nat.beq run.last 0x212A && Nat.beq run.target 0x6B

end LowerRun

theorem lowerRuns_miss : (lowerRuns.all fun a => lowerRuns.all a.misses) = true := by decide +kernel

theorem lowerRuns_plain : (lowerRuns.all fun run => run.isKelvin || run.plain) = true := by decide +kernel

theorem Ranges.outside {ranges : Ranges} {first last n : Nat} (h : ranges.avoid first last = true)
    (hfirst : first ≤ n) (hlast : n ≤ last) : ∀ range ∈ ranges, n < range.1 ∨ range.2 < n := by
  intro range hrange
  have hout := List.all_eq_true.mp h range hrange
  simp only [Bool.or_eq_true, Nat.blt_eq] at hout
  omega

theorem Ranges.covers_eq_false {ranges : Ranges} {c : Char}
    (h : ∀ range ∈ ranges, c.toNat < range.1 ∨ range.2 < c.toNat) : ranges.covers c = false := by
  refine List.any_eq_false.mpr fun range hrange hin => ?_
  have hout := h range hrange
  simp only [Bool.and_eq_true, decide_eq_true_eq] at hin
  omega

namespace LowerRun
variable {a b run : LowerRun} {m n : Nat}

theorem image?_eq_some (h : run.image? n = some m) :
    run.first ≤ n ∧ n ≤ run.last ∧ (n - run.first) % run.step = 0 ∧ m = run.target + (n - run.first) := by
  unfold image? at h
  split at h
  · rename_i hin
    exact ⟨hin.1, hin.2.1, hin.2.2, (Option.some.inj h).symm⟩
  · cases h

theorem image?_of_misses (h : a.misses b = true) (ha : a.image? n = some m) : b.image? m = none := by
  obtain ⟨hfirst, hlast, hstep, rfl⟩ := image?_eq_some ha
  cases hb : b.image? (a.target + (n - a.first)) with
  | none => rfl
  | some k =>
    obtain ⟨hfirst', hlast', hstep', -⟩ := image?_eq_some hb
    simp only [misses, lastTarget, Bool.or_eq_true, Bool.and_eq_true, Nat.blt_eq, Nat.beq_eq] at h
    obtain (h | h) | ⟨⟨htwo, hsame⟩, hodd⟩ := h
    · omega
    · omega
    · rw [htwo] at hstep'
      cases hsame with
      | inl hsame =>
        rw [hsame] at hstep
        omega
      | inr hsame => omega

theorem image_fixed (hrun : run ∈ lowerRuns) (h : run.image? n = some m) :
    lowerRuns.findSome? (·.image? m) = none := by
  refine List.findSome?_eq_none_iff.mpr fun b hb => ?_
  exact image?_of_misses (List.all_eq_true.mp (List.all_eq_true.mp lowerRuns_miss run hrun) b hb) h

end LowerRun
end SenderPolicy.Text
