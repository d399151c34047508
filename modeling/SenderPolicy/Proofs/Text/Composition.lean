import SenderPolicy.Domain
import SenderPolicy.Proofs.Text.Lowering
import SenderPolicy.Proofs.Text.Words

/-!
What composing brings into a text. No character of a decomposition is a blank unless the character itself is one, and
what stands for a pair never is; and a percent sign comes of nothing else. So the name of a domain keeps no blank and no
percent sign that it had not. Nor does a text that is composed get more of such characters than it has.
-/
namespace SenderPolicy.Text
variable {base c d : Char} {marks t u : Text} {n : Nat} {bad : Char → Bool} {good : Char → Prop}

/-- There is no blank in the text. -/
def Unbroken (t : Text) : Prop := ∀ c ∈ t, isBlank c = false

instance (t : Text) : Decidable (Unbroken t) := List.decidableBAll (isBlank · = false) t

theorem Unbroken.of_subset (h : Unbroken t) (hsub : ∀ c ∈ u, c ∈ t) : Unbroken u := fun c hc => h c (hsub c hc)

theorem unbroken_cons : Unbroken (c :: t) ↔ isBlank c = false ∧ Unbroken t := List.forall_mem_cons

theorem unbroken_append : Unbroken (t ++ u) ↔ Unbroken t ∧ Unbroken u := List.forall_mem_append

/-! The tables -/

/-- By the tables no character comes into the class, neither by decomposing nor by composing. -/
structure KeptOut (bad : Char → Bool) : Prop where
  pairs : ∀ pair ∈ compositePairs ++ splitPairs, bad (Char.ofNat pair.1) = false ∧
    bad (Char.ofNat pair.2.1) = false ∧ bad (Char.ofNat pair.2.2) = false
  singletons : ∀ pair ∈ singletons, bad (Char.ofNat pair.1) = true ∨ bad (Char.ofNat pair.2) = false
  jamo : ∀ n, 0x1100 ≤ n → n ≤ 0x11FF → bad (Char.ofNat n) = false
  syllables : ∀ n, 0xAC00 ≤ n → n ≤ 0xD7FF → bad (Char.ofNat n) = false

structure Closed (good : Char → Prop) : Prop where
  splits : ∀ pair ∈ compositePairs ++ splitPairs, good (Char.ofNat pair.1) →
    good (Char.ofNat pair.2.1) ∧ good (Char.ofNat pair.2.2)
  joints : ∀ pair ∈ compositePairs, good (Char.ofNat pair.2.1) → good (Char.ofNat pair.2.2) →
    good (Char.ofNat pair.1)
  singletons : ∀ pair ∈ singletons, good (Char.ofNat pair.1) → good (Char.ofNat pair.2)
  jamo : ∀ n, 0x1100 ≤ n → n ≤ 0x11FF → good (Char.ofNat n)
  syllables : ∀ n, 0xAC00 ≤ n → n ≤ 0xD7FF → good (Char.ofNat n)

theorem KeptOut.closed (hbad : KeptOut bad) : Closed (bad · = false) where
  splits pair hpair _ := (hbad.pairs pair hpair).2
  joints pair hpair _ _ := (hbad.pairs pair (List.mem_append_left splitPairs hpair)).1
  singletons pair hpair hgood := (hbad.singletons pair hpair).resolve_left (by rw [hgood]; exact Bool.false_ne_true)
  jamo := hbad.jamo
  syllables := hbad.syllables

namespace Ranges
variable {ranges : Ranges} {first last : Nat}

theorem covers_ofNat (hzero : ranges.covers '\x00' = false) (h : ranges.avoid first last = true) (hfirst : first ≤ n)
    (hlast : n ≤ last) : ranges.covers (Char.ofNat n) = false := by
  by_cases hvalid : n.isValidChar
  · refine covers_eq_false ?_
    rw [toNat_ofNat_of_valid hvalid]
    exact outside h hfirst hlast
  · rw [Char.ofNat, dif_neg hvalid]
    exact hzero

def holds (ranges : Ranges) (n : Nat) : Bool := ranges.any fun (first, last) => Nat.ble first n && Nat.ble n last

theorem holds_eq_true : ranges.holds n = true ↔ ∃ first last, (first, last) ∈ ranges ∧ first ≤ n ∧ n ≤ last := by
  simp [holds]

theorem covers_append (ranges ranges' : Ranges) (c : Char) :
    (ranges ++ ranges').covers c = (ranges.covers c || ranges'.covers c) := List.any_append

theorem covers_single (d : Char) : covers [(d.toNat, d.toNat)] = (· == d) := by
  funext c
  rw [Bool.eq_iff_iff, beq_iff_eq, ← Char.toNat_inj]
  simp only [covers, List.any_cons, List.any_nil, Bool.or_false, Bool.and_eq_true, decide_eq_true_eq]
  omega

end Ranges

def rowRanges : Ranges :=
  [(0x3001, 0xFB4E), (0xA8, 0x167F), (0x3B, 0x7A), (0x1681, 0x1FFF), (0x2190, 0x2FFF), (0x11000, 0x2A6FF)]

/-- The quads that are blanks, and what each is split into. -/
def quads : List (Nat × Nat) := [(0x2000, 0x2002), (0x2001, 0x2003)]

theorem rows_of_pairs : ((compositePairs ++ splitPairs).all fun pair =>
    rowRanges.holds pair.1 && rowRanges.holds pair.2.1 && rowRanges.holds pair.2.2) = true := by
  decide +kernel

theorem rows_of_singletons : (singletons.all fun pair => rowRanges.holds pair.2 || quads.contains pair) = true := by
  decide +kernel

/-- A class is kept out if it has no character of the rows, and of the quads none that is not split already. -/
theorem keptOut_covers {ranges : Ranges} (hzero : ranges.covers '\x00' = false)
    (hrows : (rowRanges.all fun run => ranges.avoid run.1 run.2) = true)
    (hquads : (quads.all fun pair => ranges.covers (Char.ofNat pair.1) || !ranges.covers (Char.ofNat pair.2)) = true) :
    KeptOut ranges.covers := by
  have hrun {first last : Nat} (hmem : (first, last) ∈ rowRanges) {n : Nat} (hfirst : first ≤ n) (hlast : n ≤ last) :
      ranges.covers (Char.ofNat n) = false :=
    Ranges.covers_ofNat hzero (List.all_eq_true.mp hrows _ hmem) hfirst hlast
  have hout (n : Nat) (h : rowRanges.holds n = true) : ranges.covers (Char.ofNat n) = false := by
    obtain ⟨first, last, hmem, hfirst, hlast⟩ := Ranges.holds_eq_true.mp h
    exact hrun hmem hfirst hlast
  refine ⟨fun pair hpair => ?_, fun pair hpair => ?_, fun n hfirst hlast => ?_, fun n hfirst hlast => ?_⟩
  · have hrow := List.all_eq_true.mp rows_of_pairs pair hpair
    simp only [Bool.and_eq_true] at hrow
    exact ⟨hout _ hrow.1.1, hout _ hrow.1.2, hout _ hrow.2⟩
  · rcases Bool.or_eq_true_iff.mp (List.all_eq_true.mp rows_of_singletons pair hpair) with hrow | hquad
    · exact .inr (hout _ hrow)
    · have hsplit := List.all_eq_true.mp hquads pair (List.contains_iff_mem.mp hquad)
      simpa only [Bool.or_eq_true, Bool.not_eq_true'] using hsplit
  · exact hrun (.tail _ (.head _)) (by omega) (by omega)
  · exact hrun (.head _) (by omega) (by omega)

/-- Two blanks are split into blanks, the quads, and no other character is. -/
theorem keptOut_isBlank : KeptOut isBlank := keptOut_covers (by decide) (by decide) (by decide)

theorem keptOut_percent : KeptOut (· == '%') := by
  rw [← Ranges.covers_single]
  exact keptOut_covers (by decide) (by decide) (by decide)

/-! Decompositions -/

theorem range_of_splitSyllable? (h : splitSyllable? n = some t) :
    ∀ c ∈ t, ∃ m, c = Char.ofNat m ∧ 0x1100 ≤ m ∧ m ≤ 0x11FF := by
  have hleads : leadBase = 0x1100 ∧ leadCount = 19 := ⟨rfl, rfl⟩
  have hvowels : vowelBase = 0x1161 ∧ vowelCount = 21 := ⟨rfl, rfl⟩
  have htrails : trailBase = 0x11A7 ∧ trailCount = 28 := ⟨rfl, rfl⟩
  have htotal : leadCount * vowelCount * trailCount = vowelCount * trailCount * leadCount := rfl
  unfold splitSyllable? at h
  split at h
  · rename_i hin
    rw [htotal] at hin
    cases h
    have hlead : (n - syllableBase) / (vowelCount * trailCount) < leadCount :=
      Nat.div_lt_of_lt_mul (Nat.sub_lt_left_of_lt_add hin.1 hin.2)
    have hrest : (n - syllableBase) % (vowelCount * trailCount) < trailCount * vowelCount := by
      rw [Nat.mul_comm trailCount]
      exact Nat.mod_lt _ (by decide)
    have hvowel := Nat.div_lt_of_lt_mul hrest
    have htrail : (n - syllableBase) % trailCount < trailCount := Nat.mod_lt _ (by decide)
    generalize (n - syllableBase) / (vowelCount * trailCount) = lead at hlead
    generalize (n - syllableBase) % (vowelCount * trailCount) / trailCount = vowel at hvowel
    clear hin hrest htotal
    refine List.forall_mem_append.mpr ⟨List.forall_mem_cons.mpr ⟨⟨_, rfl, by omega, by omega⟩,
      List.forall_mem_cons.mpr ⟨⟨_, rfl, by omega, by omega⟩, nofun⟩⟩, ?_⟩
    split
    · exact nofun
    · exact List.forall_mem_cons.mpr ⟨⟨_, rfl, by omega, by omega⟩, nofun⟩
  · cases h

theorem Closed.split? (h : Closed good) (hc : good c) (hsplit : split? c = some t) : ∀ d ∈ t, good d := by
  unfold Text.split? at hsplit
  split at hsplit
  · rename_i hsyllable
    cases hsplit
    intro d hd
    obtain ⟨m, rfl, hfirst, hlast⟩ := range_of_splitSyllable? hsyllable d hd
    exact h.jamo m hfirst hlast
  · split at hsplit
    · rename_i m a b hfind
      cases hsplit
      have hsame : m = c.toNat := by simpa using List.find?_some hfind
      have hrow := h.splits _ (List.mem_of_find?_eq_some hfind) (by rwa [hsame, Char.ofNat_toNat])
      exact List.forall_mem_cons.mpr ⟨hrow.1, List.forall_mem_cons.mpr ⟨hrow.2, nofun⟩⟩
    · split at hsplit
      · rename_i m a hfind
        cases hsplit
        have hsame : m = c.toNat := by simpa using List.find?_some hfind
        have hrow := h.singletons _ (List.mem_of_find?_eq_some hfind) (by rwa [hsame, Char.ofNat_toNat])
        exact List.forall_mem_cons.mpr ⟨hrow, nofun⟩
      · cases hsplit

theorem Closed.decomposed (h : Closed good) (n : Nat) (hc : good c) : ∀ d ∈ decomposed n c, good d := by
  induction n generalizing c with
  | zero => exact List.forall_mem_cons.mpr ⟨hc, nofun⟩
  | succ n ih =>
    unfold Text.decomposed
    split
    · rename_i t hsplit
      intro d hd
      obtain ⟨e, he, hde⟩ := List.mem_flatMap.mp hd
      exact ih (h.split? hc hsplit e he) d hde
    · exact List.forall_mem_cons.mpr ⟨hc, nofun⟩

/-! Marks in order -/

theorem insertMark_perm (c : Char) (t : Text) : (insertMark c t).Perm (c :: t) := by
  induction t with
  | nil => exact .refl [c]
  | cons d r ih =>
    unfold insertMark
    split
    · exact (ih.cons d).trans (.swap c d r)
    · exact .refl _

theorem markOrdered_perm (t : Text) : (markOrdered t).Perm t := by
  induction t with
  | nil => exact .refl []
  | cons c r ih =>
    unfold markOrdered
    split
    · exact ih.cons c
    · exact (insertMark_perm c _).trans (ih.cons c)

/-! Pairs composed -/

theorem range_of_joinSyllable? {a b m : Nat} (h : joinSyllable? a b = some m) : 0xAC00 ≤ m ∧ m ≤ 0xD7FF := by
  have hbase : syllableBase = 0xAC00 := rfl
  have htotal : leadCount * vowelCount * trailCount = 11172 := rfl
  have hcounts : leadCount = 19 ∧ vowelCount = 21 ∧ trailCount = 28 := ⟨rfl, rfl, rfl⟩
  unfold joinSyllable? at h
  split at h
  · rename_i hin
    rw [← Option.some.inj h, hcounts.2.1, hcounts.2.2]
    have hlead : a - leadBase < leadCount := Nat.sub_lt_left_of_lt_add hin.1 hin.2.1
    have hvowel : b - vowelBase < vowelCount := Nat.sub_lt_left_of_lt_add hin.2.2.1 hin.2.2.2
    clear hin
    omega
  · split at h
    · rename_i hin
      rw [← Option.some.inj h]
      have htrail : b - trailBase < trailCount := Nat.sub_lt_left_of_lt_add (Nat.le_of_lt hin.2.2.2.1) hin.2.2.2.2
      omega
    · cases h

theorem Closed.join? {joint : Char} (h : Closed good) (hc : good c) (hd : good d) (hjoin : join? c d = some joint) :
    good joint := by
  unfold Text.join? at hjoin
  split at hjoin
  · rename_i m hsyllable
    cases hjoin
    obtain ⟨hfirst, hlast⟩ := range_of_joinSyllable? hsyllable
    exact h.syllables m hfirst hlast
  · obtain ⟨pair, hfind, rfl⟩ := Option.map_eq_some_iff.mp hjoin
    obtain ⟨hfirst, hsecond⟩ : pair.2.1 = c.toNat ∧ pair.2.2 = d.toNat := by simpa using List.find?_some hfind
    refine h.joints pair (List.mem_of_find?_eq_some hfind) ?_ ?_
    · rwa [hfirst, Char.ofNat_toNat]
    · rwa [hsecond, Char.ofNat_toNat]

theorem Closed.composeOnto (h : Closed good) (hbase : good base) (hmarks : ∀ c ∈ marks, good c)
    (ht : ∀ c ∈ t, good c) : ∀ c ∈ composeOnto base marks t, good c := by
  have hreverse {marks : Text} (h : ∀ c ∈ marks, good c) : ∀ c ∈ marks.reverse, good c :=
    fun c hc => h c (List.mem_reverse.mp hc)
  induction t generalizing base marks with
  | nil => exact List.forall_mem_cons.mpr ⟨hbase, hreverse hmarks⟩
  | cons c r ih =>
    obtain ⟨hc, hr⟩ := List.forall_mem_cons.mp ht
    simp only [Text.composeOnto]
    split
    · rename_i joint hjoint
      exact ih (h.join? hbase hc (Option.ite_none_right_eq_some.mp hjoint).2) hmarks hr
    · split
      · exact List.forall_mem_cons.mpr ⟨hbase, List.forall_mem_append.mpr ⟨hreverse hmarks, ih hc nofun hr⟩⟩
      · exact ih hbase (List.forall_mem_cons.mpr ⟨hc, hmarks⟩) hr

theorem Closed.compose (h : Closed good) (ht : ∀ c ∈ t, good c) : ∀ c ∈ compose t, good c := by
  induction t with
  | nil => exact ht
  | cons c r ih =>
    obtain ⟨hc, hr⟩ := List.forall_mem_cons.mp ht
    unfold Text.compose
    split
    · exact h.composeOnto hc nofun hr
    · exact List.forall_mem_cons.mpr ⟨hc, ih hr⟩

theorem Closed.composed (h : Closed good) (ht : ∀ c ∈ t, good c) : ∀ c ∈ composed t, good c := by
  unfold Text.composed
  split
  · exact ht
  · refine h.compose fun d hd => ?_
    obtain ⟨c, hc, hdc⟩ := List.mem_flatMap.mp ((markOrdered_perm _).mem_iff.mp hd)
    exact h.decomposed maxSplits (ht c hc) d hdc

/-! Characters that do not become more -/

theorem KeptOut.join? {joint : Char} (hbad : KeptOut bad) (h : join? c d = some joint) : bad joint = false := by
  unfold Text.join? at h
  split at h
  · rename_i m hsyllable
    cases h
    obtain ⟨hfirst, hlast⟩ := range_of_joinSyllable? hsyllable
    exact hbad.syllables m hfirst hlast
  · obtain ⟨pair, hfind, rfl⟩ := Option.map_eq_some_iff.mp h
    exact (hbad.pairs pair (List.mem_append_left splitPairs (List.mem_of_find?_eq_some hfind))).1

theorem KeptOut.split?_of_bad (hbad : KeptOut bad) (hc : bad c = true) (hsplit : split? c = some t) :
    ∃ d, t = [d] := by
  unfold Text.split? at hsplit
  split at hsplit
  · rename_i hsyllable
    unfold splitSyllable? at hsyllable
    split at hsyllable
    · rename_i hin
      have hlast : syllableBase + leadCount * vowelCount * trailCount = 0xD7A4 := rfl
      rw [hlast] at hin
      have hfalse := hbad.syllables c.toNat hin.1 (by omega)
      rw [Char.ofNat_toNat, hc] at hfalse
      cases hfalse
    · cases hsyllable
  · split at hsplit
    · rename_i m a b hfind
      have hsame : m = c.toNat := by simpa using List.find?_some hfind
      have hfalse := (hbad.pairs _ (List.mem_of_find?_eq_some hfind)).1
      rw [hsame, Char.ofNat_toNat, hc] at hfalse
      cases hfalse
    · split at hsplit
      · cases hsplit
        exact ⟨_, rfl⟩
      · cases hsplit

theorem KeptOut.countP_decomposed_le (hbad : KeptOut bad) (n : Nat) (c : Char) :
    (decomposed n c).countP bad ≤ [c].countP bad := by
  induction n generalizing c with
  | zero => exact Nat.le_refl _
  | succ n ih =>
    cases hc : bad c with
    | false =>
      rw [List.countP_eq_zero.mpr fun d hd => by simp [hbad.closed.decomposed (n + 1) hc d hd]]
      exact Nat.zero_le _
    | true =>
      rw [List.countP_singleton, if_pos hc]
      unfold Text.decomposed
      split
      · rename_i t hsplit
        obtain ⟨d, rfl⟩ := hbad.split?_of_bad hc hsplit
        rw [List.flatMap_singleton]
        exact Nat.le_trans (ih d) List.countP_le_length
      · exact List.countP_le_length

theorem KeptOut.countP_flatMap_le (hbad : KeptOut bad) (n : Nat) (t : Text) :
    (t.flatMap (decomposed n)).countP bad ≤ t.countP bad := by
  induction t with
  | nil => exact Nat.le_refl _
  | cons c r ih =>
    rw [List.flatMap_cons, List.countP_append, List.countP_cons, Nat.add_comm, ← List.countP_singleton]
    exact Nat.add_le_add ih (hbad.countP_decomposed_le n c)

theorem KeptOut.countP_composeOnto_le (hbad : KeptOut bad) (base : Char) (marks t : Text) :
    (composeOnto base marks t).countP bad ≤ (base :: marks).countP bad + t.countP bad := by
  induction t generalizing base marks with
  | nil => simp [Text.composeOnto, List.countP_cons]
  | cons c r ih =>
    simp only [Text.composeOnto]
    split
    · rename_i joint hjoint
      have hout := hbad.join? (Option.ite_none_right_eq_some.mp hjoint).2
      have hle := ih joint marks
      simp only [List.countP_cons, hout, Bool.false_eq_true, if_false] at hle ⊢
      omega
    · split
      · have hle := ih c []
        simp only [List.countP_cons, List.countP_append, List.countP_reverse, List.cons_append, List.countP_nil] at hle ⊢
        omega
      · have hle := ih base (c :: marks)
        simp only [List.countP_cons] at hle ⊢
        omega

theorem KeptOut.countP_compose_le (hbad : KeptOut bad) (t : Text) : (compose t).countP bad ≤ t.countP bad := by
  induction t with
  | nil => exact Nat.le_refl _
  | cons c r ih =>
    unfold Text.compose
    split
    · have hle := hbad.countP_composeOnto_le c [] r
      rwa [List.countP_singleton, Nat.add_comm, ← List.countP_cons] at hle
    · rw [List.countP_cons, List.countP_cons]
      exact Nat.add_le_add_right ih _

theorem KeptOut.countP_composed_le (hbad : KeptOut bad) (t : Text) : (composed t).countP bad ≤ t.countP bad := by
  unfold Text.composed
  split
  · exact Nat.le_refl _
  · calc
      _ ≤ (markOrdered (t.flatMap (decomposed maxSplits))).countP bad := hbad.countP_compose_le _
      _ = (t.flatMap (decomposed maxSplits)).countP bad := (markOrdered_perm _).countP_eq bad
      _ ≤ t.countP bad := hbad.countP_flatMap_le maxSplits t

/-! Names -/

theorem KeptOut.of_mem_normalized (hbad : KeptOut bad) (ht : ∀ c ∈ t, bad c = false)
    (hd : d ∈ Domain.normalized t) : ∃ c, bad c = false ∧ Becomes c d := by
  obtain ⟨c, hc, hbecomes⟩ := of_mem_lower hd
  exact ⟨c, hbad.closed.composed ht c (List.mem_filter.mp (of_mem_trimmed (of_mem_dropTrailing hc))).1, hbecomes⟩

theorem unbroken_normalized (ht : Unbroken t) : Unbroken (Domain.normalized t) := by
  intro d hd
  obtain ⟨c, hc, hbecomes⟩ := keptOut_isBlank.of_mem_normalized ht hd
  rwa [hbecomes.isBlank_eq]

theorem percent_notin_normalized (ht : '%' ∉ t) : '%' ∉ Domain.normalized t := by
  intro hd
  have hplain : ∀ c ∈ t, (c == '%') = false := fun c hc => beq_false_of_ne fun he => ht (he ▸ hc)
  obtain ⟨c, hc, hbecomes⟩ := keptOut_percent.of_mem_normalized hplain hd
  rw [← hbecomes.eq_of_ascii (by decide) (by decide)] at hc
  cases hc

end SenderPolicy.Text
