import SenderPolicy.Proofs.Text.Capitals

/-!
Names that normalizing keeps. They are those that each of its steps keeps: a step that changes a name cannot be undone by
the steps behind it, since what is left out is missed, and composing a text in lower case brings no capital into it. What
normalizing gives need not be such a name: a blank may stand where a dot stood behind it, and there may be a pair to be
composed where a character without width stood, or a capital.
-/
namespace SenderPolicy.Domain
open Text
variable {c d : Char} {n s t : Text}

def stripped (t : Text) : Text :=
  dropTrailing (· == '.') (trim (t.filter fun c => !isZeroWidth c))

theorem normalized_eq (t : Text) : normalized t = lower (stripped (composed t)) := rfl

/-! Characters that are left out -/

def droppedRanges : Ranges := blankRanges ++ [(0x2E, 0x2E), (0x200B, 0x200D), (0xFEFF, 0xFEFF)]

/-- The characters that are left out in some places: blanks, dots, and those without width. -/
def isDropped (c : Char) : Bool := droppedRanges.covers c

theorem isDropped_eq (c : Char) : isDropped c = (isBlank c || (c == '.' || isZeroWidth c)) := by
  have hdot : (c == '.') = Ranges.covers [(0x2E, 0x2E)] c := (congrFun (Ranges.covers_single '.') c).symm
  have hwidth : isZeroWidth c = Ranges.covers [(0x200B, 0x200D), (0xFEFF, 0xFEFF)] c := by
    rw [Bool.eq_iff_iff]
    simp only [isZeroWidth, Ranges.covers, List.any_cons, List.any_nil, Bool.or_false, Bool.or_eq_true,
      Bool.and_eq_true, decide_eq_true_eq, beq_iff_eq]
    omega
  have hsplit : droppedRanges = blankRanges ++ ([(0x2E, 0x2E)] ++ [(0x200B, 0x200D), (0xFEFF, 0xFEFF)]) := rfl
  rw [isDropped, hsplit, Ranges.covers_append, Ranges.covers_append, ← hdot, ← hwidth]
  rfl

theorem keptOut_isDropped : KeptOut isDropped := keptOut_covers (by decide) (by decide) (by decide)

theorem eq_of_becomes (h : Becomes c d) (hd : isDropped d = true) : d = c := by
  cases h with
  | plain hs hi =>
    by_cases hascii : c.toNat < 128
    · revert hd
      apply forall_ascii (P := fun c => isDropped (lowerLetter c) = true → lowerLetter c = c)
      · decide +kernel
      · exact hascii
    · have hletter := lowerLetter_of_beyond (Nat.le_of_not_lt hascii)
      cases hfind : lowerRuns.findSome? (·.image? c.toNat) with
      | none => simpa only [hfind] using hletter
      | some m =>
        simp only [hfind] at hletter
        have hall : (lowerRuns.all fun run => droppedRanges.avoid run.target run.lastTarget) = true := by
          decide +kernel
        obtain ⟨run, hrun, himage⟩ := List.exists_of_findSome?_eq_some hfind
        obtain ⟨hfirst, hlast, -, hm⟩ := LowerRun.image?_eq_some himage
        have hout : isDropped (Char.ofNat m) = false :=
          Ranges.covers_ofNat (by decide) (List.all_eq_true.mp hall run hrun) (by omega) (by rw [LowerRun.lastTarget]; omega)
        rw [hletter, hout] at hd
        cases hd
  | _ => exact absurd hd (by decide)

theorem countP_lowerForm_le (b : Bool) (c : Char) (t : Text) :
    (lowerForm b c t).countP isDropped ≤ [c].countP isDropped := by
  unfold lowerForm
  split
  · split <;> exact Nat.le_trans (Nat.le_of_eq (by decide)) (Nat.zero_le _)
  · rename_i hs
    split
    · exact Nat.le_trans (Nat.le_of_eq (by decide)) (Nat.zero_le _)
    · rename_i hi
      rw [List.countP_singleton, List.countP_singleton]
      split
      · rename_i hdropped
        have hsame := eq_of_becomes (.plain hs hi) hdropped
        rw [hsame] at hdropped
        exact Nat.le_of_eq (if_pos hdropped).symm
      · exact Nat.zero_le _

theorem countP_lowerFrom_le (b : Bool) (t : Text) : (lowerFrom b t).countP isDropped ≤ t.countP isDropped := by
  induction t generalizing b with
  | nil => exact Nat.le_refl _
  | cons c r ih =>
    rw [lowerFrom, List.countP_append, List.countP_cons, Nat.add_comm, ← List.countP_singleton]
    exact Nat.add_le_add (ih _) (countP_lowerForm_le b c r)

/-! Leaving characters out -/

/-- The second text is the first one without some of the characters that may be left out. -/
structure Sheds (t u : Text) : Prop where
  sublist : u.Sublist t
  kept : u.countP (fun c => !isDropped c) = t.countP fun c => !isDropped c

namespace Sheds

theorem trans {u v : Text} (h : Sheds t u) (h' : Sheds u v) : Sheds t v :=
  ⟨h'.sublist.trans h.sublist, h'.kept.trans h.kept⟩

theorem filter (t : Text) : Sheds t (t.filter fun c => !isZeroWidth c) := by
  refine ⟨List.filter_sublist, ?_⟩
  rw [List.countP_filter]
  refine List.countP_congr fun c _ => ?_
  simp [isDropped_eq]

theorem dropTrailing {drops : Char → Bool} (h : ∀ c, drops c = true → isDropped c = true) (t : Text) :
    Sheds t (Text.dropTrailing drops t) := by
  refine ⟨dropTrailing_sublist drops t, ?_⟩
  obtain ⟨u, hu, hdrops⟩ := dropTrailing_append drops t
  have hzero : u.countP (fun c => !isDropped c) = 0 := List.countP_eq_zero.mpr fun c hc => by simp [h c (hdrops c hc)]
  conv => rhs; rw [hu, List.countP_append, hzero, Nat.add_zero]

theorem trim (t : Text) : Sheds t (Text.trim t) := by
  have hblank (c : Char) (hc : isBlank c = true) : isDropped c = true := by rw [isDropped_eq, hc]; rfl
  have hfront : Sheds t (t.dropWhile isBlank) := by
    refine ⟨List.dropWhile_sublist isBlank, ?_⟩
    have hzero : (t.takeWhile isBlank).countP (fun c => !isDropped c) = 0 :=
      List.countP_eq_zero.mpr fun c hc => by simp [hblank c (List.all_eq_true.mp List.all_takeWhile c hc)]
    conv => rhs; rw [← List.takeWhile_append_dropWhile (p := isBlank) (l := t), List.countP_append, hzero, Nat.zero_add]
  exact hfront.trans (dropTrailing hblank _)

theorem stripped (t : Text) : Sheds t (stripped t) :=
  ((filter t).trans (trim _)).trans (dropTrailing (fun c hc => by rw [isDropped_eq, hc]; simp) _)

theorem eq_of_countP {u : Text} (h : Sheds t u) (hcount : t.countP isDropped ≤ u.countP isDropped) : u = t := by
  refine h.sublist.eq_of_length_le ?_
  have hkept := h.kept
  have hlength (v : Text) : v.length = v.countP isDropped + v.countP fun c => !isDropped c := by
    rw [List.length_eq_countP_add_countP isDropped]
    simp only [Bool.not_eq_true, Bool.decide_eq_false]
  rw [hlength t, hlength u]
  omega

end Sheds

/-! Fixed points -/

theorem normalized_eq_self_iff : normalized n = n ↔ composed n = n ∧ stripped n = n ∧ lower n = n := by
  constructor
  · intro h
    have hlow : ∀ c ∈ n, IsLow c := by
      rw [← h, normalized_eq]
      intro d hd
      obtain ⟨c, -, hbecomes⟩ := of_mem_lower hd
      exact hbecomes.low
    have hcount : (composed n).countP isDropped ≤ (stripped (composed n)).countP isDropped :=
      calc
        (composed n).countP isDropped ≤ n.countP isDropped := keptOut_isDropped.countP_composed_le n
        _ = (normalized n).countP isDropped := by rw [h]
        _ ≤ (stripped (composed n)).countP isDropped := countP_lowerFrom_le false _
    have hstripped := (Sheds.stripped _).eq_of_countP hcount
    have hcomposed : composed n = n :=
      calc
        composed n = lower (composed n) := (low_composed hlow).symm
        _ = lower (stripped (composed n)) := by rw [hstripped]
        _ = n := h
    exact ⟨hcomposed, hcomposed ▸ hstripped, lower_of_low hlow⟩
  · rintro ⟨hcomposed, hstripped, hlower⟩
    rw [normalized_eq, hcomposed, hstripped, hlower]

theorem stripped_eq_self_iff : stripped t = t ↔
    (∀ c ∈ t, isZeroWidth c = false) ∧ trim t = t ∧ t.getLast? ≠ some '.' := by
  constructor
  · intro h
    have hfront : t.Sublist (trim (t.filter fun c => !isZeroWidth c)) := by
      conv => lhs; rw [← h]
      exact dropTrailing_sublist _ _
    have hvisible : (t.filter fun c => !isZeroWidth c) = t :=
      List.filter_sublist.eq_of_length_le (hfront.trans (Sheds.trim _).sublist).length_le
    have htrim : trim t = t := by
      rw [hvisible] at hfront
      exact (Sheds.trim t).sublist.eq_of_length_le hfront.length_le
    refine ⟨fun c hc => by simpa using List.filter_eq_self.mp hvisible c hc, htrim, fun hdot => ?_⟩
    rw [← h] at hdot
    exact absurd (not_drops_of_getLast? hdot) (by decide)
  · rintro ⟨hvisible, htrim, hdot⟩
    rw [stripped, List.filter_eq_self.mpr fun c hc => by rw [hvisible c hc]; rfl, htrim]
    refine dropTrailing_eq_self fun c hc => beq_false_of_ne ?_
    rintro rfl
    exact hdot hc

/-! Names normalized twice -/

theorem isZeroWidth_of_mem_normalized (h : c ∈ normalized s) : isZeroWidth c = false := by
  refine Bool.eq_false_iff.mpr fun hwidth => ?_
  obtain ⟨d, hd, hbecomes⟩ := of_mem_lower h
  obtain rfl := eq_of_becomes hbecomes (by simp [isDropped_eq, hwidth])
  have hkept := (List.mem_filter.mp ((Sheds.trim _).sublist.subset (of_mem_dropTrailing hd))).2
  simp [hwidth] at hkept

theorem isBlank_of_head?_normalized (h : (normalized s).head? = some c) : isBlank c = false := by
  obtain ⟨d, hd, hbecomes⟩ := of_head?_lowerFrom h
  rw [hbecomes.isBlank_eq]
  exact isBlank_of_head?_trim (head?_of_dropTrailing hd)

theorem getLast?_normalized_ne_dot (s : Text) : (normalized s).getLast? ≠ some '.' := by
  intro h
  obtain ⟨c, hc, hbecomes⟩ := of_getLast?_lowerFrom h
  have hout := not_drops_of_getLast? hc
  rw [← eq_of_becomes hbecomes (by decide)] at hout
  cases hout

theorem lower_normalized (s : Text) : lower (normalized s) = normalized s := lower_lower _

theorem stripped_normalized_eq_iff : stripped (normalized s) = normalized s ↔
    ∀ c, (normalized s).getLast? = some c → isBlank c = false := by
  rw [stripped_eq_self_iff]
  constructor
  · rintro ⟨-, htrim, -⟩ c hc
    rw [← htrim] at hc
    exact isBlank_of_getLast?_trim hc
  · intro hlast
    exact ⟨fun c => isZeroWidth_of_mem_normalized, trim_eq_self (fun c => isBlank_of_head?_normalized) hlast,
      getLast?_normalized_ne_dot s⟩

/-- What normalizing gives stays as it is exactly if it is composed and no blank stands at its end. -/
theorem normalized_twice_iff (s : Text) :
    normalized (normalized s) = normalized s ↔
      composed (normalized s) = normalized s ∧ ∀ c, (normalized s).getLast? = some c → isBlank c = false := by
  rw [normalized_eq_self_iff, stripped_normalized_eq_iff, and_iff_left (lower_normalized s)]

/-- A blank before the last dot, a character without width before a mark, and a capital whose composed form is there in
lower case only: a second time changes these names again. -/
theorem second_time_changes :
    normalized (normalized "d.example .") ≠ normalized "d.example ." ∧
      normalized (normalized "e\u200B\u0301") ≠ normalized "e\u200B\u0301" ∧
      normalized (normalized "H\u0331") ≠ normalized "H\u0331" := by
  decide +kernel

end SenderPolicy.Domain
