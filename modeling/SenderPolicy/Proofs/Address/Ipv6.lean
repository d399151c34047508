import Mathlib.Data.List.Nodup
import SenderPolicy.Address.Ipv6
import SenderPolicy.Proofs.Failure
import SenderPolicy.Proofs.Text.Words

/-!
The text of an address of 128 bits is read back as the address. What the printer leaves out, the longest run of zeros,
is what the reader puts in for the gap.
-/
namespace SenderPolicy.Ipv6
open Text
variable {n : Nat} {c : Char} {ms ns : List Nat} {gs high low parts : List Text} {bits : Bits}

/-! Groups -/

theorem digitValue?_digitChar (h : n < 16) : digitValue? (Nat.digitChar n) = some n := by
  have hall : ((List.range 16).all fun n => digitValue? (Nat.digitChar n) == some n) = true := by decide
  exact eq_of_beq (List.all_eq_true.mp hall n (List.mem_range.mpr h))

theorem mapM_digitValue?_toDigits (n : Nat) :
    ∃ digits, (Nat.toDigits 16 n).mapM digitValue? = some digits ∧ digits.foldl (fun n d => 16 * n + d) 0 = n := by
  induction n using Nat.strongRecOn with
  | ind n ih =>
    by_cases hsmall : n < 16
    · rw [Nat.toDigits_of_lt_base hsmall]
      exact ⟨[n], by simp [digitValue?_digitChar hsmall], by simp⟩
    · obtain ⟨digits, hdigits, hvalue⟩ := ih (n / 16) (by omega)
      rw [Nat.toDigits_of_base_le (by decide) (Nat.le_of_not_lt hsmall)]
      refine ⟨digits ++ [n % 16], ?_, ?_⟩
      · simp [hdigits, digitValue?_digitChar (Nat.mod_lt n (by decide : 0 < 16))]
      · rw [List.foldl_append, hvalue]
        simp only [List.foldl_cons, List.foldl_nil]
        omega

theorem readGroup_toDigits (h : n < 65536) : readGroup (Nat.toDigits 16 n) = .ok n := by
  obtain ⟨digits, hdigits, hvalue⟩ := mapM_digitValue?_toDigits n
  have hlength : (Nat.toDigits 16 n).length ≤ 4 := (Nat.length_toDigits_le_iff (by decide) (by decide)).mpr h
  rw [readGroup, hdigits]
  simp only [if_neg (Nat.not_lt.mpr hlength), hvalue]

theorem mapM_readGroup (h : ∀ n ∈ ns, n < 65536) : (ns.map (Nat.toDigits 16)).mapM readGroup = .ok ns := by
  induction ns with
  | nil => rfl
  | cons n rest ih =>
    rw [List.forall_mem_cons] at h
    rw [List.map_cons, List.mapM_cons, readGroup_toDigits h.1, ih h.2]
    rfl

theorem isSome_of_mem_toDigits (h : c ∈ Nat.toDigits 16 n) : (digitValue? c).isSome = true := by
  induction n using Nat.strongRecOn with
  | ind n ih =>
    by_cases hsmall : n < 16
    · rw [Nat.toDigits_of_lt_base hsmall, List.mem_singleton] at h
      rw [h, digitValue?_digitChar hsmall]
      rfl
    · rw [Nat.toDigits_of_base_le (by decide) (Nat.le_of_not_lt hsmall), List.mem_append, List.mem_singleton] at h
      rcases h with h | h
      · exact ih (n / 16) (by omega) h
      · rw [h, digitValue?_digitChar (Nat.mod_lt n (by decide))]
        rfl

theorem ne_of_mem_toDigits {d : Char} (h : c ∈ Nat.toDigits 16 n) (hd : digitValue? d = none) : c ≠ d := by
  rintro rfl
  have hsome := isSome_of_mem_toDigits h
  rw [hd] at hsome
  cases hsome

/-! Parts -/

/-- The parts of groups that are written one after another: those of no group are one empty part. -/
def sides (gs : List Text) : List Text := if gs = [] then [[]] else gs

theorem sides_of_ne_nil (h : gs ≠ []) : sides gs = gs := if_neg h

theorem pieces_joined_groups (h : ∀ g ∈ gs, ∀ c ∈ g, (c == ':') = false) :
    pieces (· == ':') (joined [':'] gs) = sides gs := by
  unfold sides
  split
  · rename_i hnil
    subst hnil
    rfl
  · rename_i hne
    exact pieces_joined hne h

theorem length_sides (gs : List Text) : (sides gs).length = max 1 gs.length := by
  unfold sides
  split
  · rename_i hnil
    subst hnil
    rfl
  · rename_i hne
    have hpos := List.length_pos_iff.mpr hne
    omega

theorem sides_ne_nil (gs : List Text) : sides gs ≠ [] := by
  unfold sides
  split <;> simp_all

theorem expandTail_of_undotted (t : Text) (h : ∀ p ∈ parts, p.contains '.' = false) :
    expandTail t parts = .ok parts := by
  unfold expandTail
  split
  · rename_i last hlast
    rw [h last (List.mem_of_getLast? hlast)]
    rfl
  · rfl

/-! The gap -/

theorem filter_range_of_unique {p : Nat → Bool} {k m : Nat} (hk : k < m) (h : ∀ i < m, p i = true ↔ i = k) :
    (List.range m).filter p = [k] := by
  have hfilter : (List.range m).filter p = (List.range m).filter (· == k) := by
    refine List.filter_congr fun i hi => ?_
    rw [Bool.eq_iff_iff, h i (List.mem_range.mp hi), beq_iff_eq]
  rw [hfilter, List.filter_beq, List.count_eq_one_of_mem List.nodup_range (List.mem_range.mpr hk)]
  rfl

theorem gaps_of_full (h : ∀ p ∈ parts, p ≠ []) : gaps parts = [] := by
  refine List.filter_eq_nil_iff.mpr fun i hi => ?_
  have hlt := List.mem_range.mp hi
  have hne : parts[i] ≠ [] := h _ (List.getElem_mem hlt)
  simp [List.getElem?_eq_getElem hlt, hne]

/-- Of the parts around a gap only an outermost one is empty, and that is no gap. -/
theorem gaps_around (hhigh : ∀ g ∈ high, g ≠ []) (hlow : ∀ g ∈ low, g ≠ []) :
    gaps (sides high ++ [] :: sides low) = [(sides high).length] := by
  have hh := length_sides high
  have hl := length_sides low
  refine filter_range_of_unique (by simp) fun i hi => ?_
  rw [List.length_append, List.length_cons] at hi ⊢
  -- An empty part in front of the gap, or behind it, is outermost, and so it is no gap.
  obtain hlt | rfl | hgt := Nat.lt_trichotomy i (sides high).length
  · refine iff_of_false ?_ (Nat.ne_of_lt hlt)
    by_cases hnil : high = []
    · subst hnil
      have hzero : i = 0 := by simpa [sides] using hlt
      simp [hzero]
    · rw [sides_of_ne_nil hnil] at hlt ⊢
      have hne : high[i] ≠ [] := hhigh _ (List.getElem_mem hlt)
      simp [List.getElem?_append_left hlt, List.getElem?_eq_getElem hlt, hne]
  · refine iff_of_true ?_ rfl
    simp only [Bool.and_eq_true, decide_eq_true_eq, beq_iff_eq, List.getElem?_append_right (Nat.le_refl _),
      Nat.sub_self, List.getElem?_cons_zero, and_true]
    omega
  · refine iff_of_false ?_ (Nat.ne_of_gt hgt)
    by_cases hnil : low = []
    · subst hnil
      have hone : (sides []).length = 1 := rfl
      have hlast : ¬ i + 1 < (sides high).length + ((sides []).length + 1) := by omega
      simp [hlast]
    · obtain ⟨j, rfl⟩ : ∃ j, i = (sides high).length + (j + 1) := ⟨i - (sides high).length - 1, by omega⟩
      rw [sides_of_ne_nil hnil] at hi ⊢
      have hj : j < low.length := by omega
      have hne : low[j] ≠ [] := hlow _ (List.getElem_mem hj)
      simp [List.getElem?_append_right, List.getElem?_eq_getElem hj, hne]

theorem besideGap_sides (outermost : Option Text) (fault : AddressFault) (hgs : ∀ g ∈ gs, g ≠ [])
    (h : ∃ p, outermost = some p ∧ p ∈ sides gs) : besideGap outermost fault (sides gs) = .ok gs := by
  obtain ⟨p, rfl, hp⟩ := h
  by_cases hnil : gs = []
  · subst hnil
    obtain rfl : p = [] := List.mem_singleton.mp hp
    rfl
  · rw [sides_of_ne_nil hnil] at hp ⊢
    have hne : some p ≠ some [] := fun heq => hgs p hp (Option.some.inj heq)
    rw [besideGap, if_neg hne]

/-- Groups on both sides of a gap are read, with the zeros that are left out. The last part may be a dotted one as long as
it stands for groups of `low`. -/
theorem read_around {t : Text} (hpieces : pieces (· == ':') t = sides high ++ [] :: parts) (hparts : parts ≠ [])
    (hexpand : expandTail t (sides high ++ [] :: parts) = .ok (sides high ++ [] :: sides low))
    (hhigh : ∀ g ∈ high, g ≠ []) (hlow : ∀ g ∈ low, g ≠ []) (hlength : high.length + low.length < 8)
    (hreadHigh : high.mapM readGroup = .ok ms) (hreadLow : low.mapM readGroup = .ok ns) :
    read t = .ok (ofGroups (ms ++ List.replicate (8 - (ms.length + ns.length)) 0 ++ ns)) := by
  have hh := length_sides high
  have hl := length_sides low
  have hempty : t.isEmpty = false := by
    cases t with
    | nil =>
      have hone := congrArg List.length hpieces
      simp [pieces] at hone
      omega
    | cons c r => rfl
  have hpos := List.length_pos_iff.mpr hparts
  have hfew : ¬ (sides high ++ [] :: parts).length < 3 := by simp; omega
  have hmany : ¬ 9 < (sides high ++ [] :: sides low).length := by simp; omega
  have htake : (sides high ++ [] :: sides low).take (sides high).length = sides high := by simp
  have hdrop : (sides high ++ [] :: sides low).drop ((sides high).length + 1) = sides low := by simp
  have hhead (fault : AddressFault) :
      besideGap (sides high ++ [] :: sides low).head? fault (sides high) = .ok high := by
    refine besideGap_sides _ fault hhigh ?_
    obtain ⟨p, ps, hp⟩ := List.exists_cons_of_ne_nil (sides_ne_nil high)
    exact ⟨p, by simp [hp], by simp [hp]⟩
  have hlast (fault : AddressFault) :
      besideGap (sides high ++ [] :: sides low).getLast? fault (sides low) = .ok low := by
    refine besideGap_sides _ fault hlow ?_
    refine ⟨(sides low).getLast (sides_ne_nil low), ?_, List.getLast_mem _⟩
    rw [List.getLast?_append_cons, List.getLast?_cons, List.getLast?_eq_some_getLast (sides_ne_nil low)]
    rfl
  unfold read
  simp only [↓reduceIte, hempty, Bool.false_eq_true, hpieces, hfew, hexpand, ok_bind, hmany, gaps_around hhigh hlow,
    htake, hdrop, hhead, hlast, Nat.not_le.mpr hlength, hreadHigh, hreadLow, AddressFault.within]
  rfl

theorem read_full {t : Text} (hpieces : pieces (· == ':') t = parts) (hparts : 3 ≤ parts.length)
    (hexpand : expandTail t parts = .ok gs) (hgs : ∀ g ∈ gs, g ≠ []) (hlength : gs.length = 8)
    (hread : gs.mapM readGroup = .ok ns) : read t = .ok (ofGroups ns) := by
  have hempty : t.isEmpty = false := by
    cases t with
    | nil =>
      rw [← hpieces] at hparts
      cases hparts with
      | step h => cases h
    | cons c r => rfl
  have hfew : ¬ parts.length < 3 := Nat.not_lt.mpr hparts
  have hmany : ¬ 9 < 8 := by decide
  have hhead : ¬ gs.head? = some [] := fun heq => hgs [] (List.mem_of_head? heq) rfl
  have hlast : ¬ gs.getLast? = some [] := fun heq => hgs [] (List.mem_of_getLast? heq) rfl
  unfold read
  simp only [↓reduceIte, hempty, Bool.false_eq_true, hpieces, hlength, hfew, hexpand, ok_bind, hmany,
    gaps_of_full hgs, ne_eq, not_true_eq_false, hhead, hlast, hread, AddressFault.within]
  rfl

/-! Groups that are printed -/

def printed (ns : List Nat) : List Text := ns.map (Nat.toDigits 16)

theorem ne_nil_of_mem_printed : ∀ g ∈ printed ns, g ≠ [] := by
  intro g hg
  obtain ⟨n, -, rfl⟩ := List.mem_map.mp hg
  exact Nat.toDigits_ne_nil

theorem pieces_groupsText (ns : List Nat) : pieces (· == ':') (groupsText ns) = sides (printed ns) := by
  apply pieces_joined_groups
  intro g hg c hc
  obtain ⟨n, -, rfl⟩ := List.mem_map.mp hg
  exact beq_false_of_ne (ne_of_mem_toDigits hc (by decide))

theorem not_dotted_of_mem_sides : ∀ p ∈ sides (printed ns), p.contains '.' = false := by
  intro p hp
  by_cases hnil : ns = []
  · subst hnil
    rw [List.mem_singleton.mp hp]
    rfl
  · rw [sides_of_ne_nil (by simpa [printed] using hnil)] at hp
    obtain ⟨n, -, rfl⟩ := List.mem_map.mp hp
    simpa using fun hc => ne_of_mem_toDigits hc (by decide) rfl

theorem read_gap (hlength : ms.length + ns.length < 8) (hms : ∀ n ∈ ms, n < 65536) (hns : ∀ n ∈ ns, n < 65536) :
    read (groupsText ms ++ [':', ':'] ++ groupsText ns) =
      .ok (ofGroups (ms ++ List.replicate (8 - (ms.length + ns.length)) 0 ++ ns)) := by
  have hpieces : pieces (· == ':') (groupsText ms ++ [':', ':'] ++ groupsText ns) =
      sides (printed ms) ++ [] :: sides (printed ns) := by
    have hcut (t : Text) : groupsText ms ++ [':', ':'] ++ t = groupsText ms ++ ':' :: ([] ++ ':' :: t) := by simp
    rw [hcut, pieces_append rfl, pieces_append rfl, pieces_groupsText, pieces_groupsText]
    rfl
  have hdots : ∀ p ∈ sides (printed ms) ++ [] :: sides (printed ns), p.contains '.' = false := by
    rw [List.forall_mem_append, List.forall_mem_cons]
    exact ⟨not_dotted_of_mem_sides, rfl, not_dotted_of_mem_sides⟩
  exact read_around hpieces (sides_ne_nil _) (expandTail_of_undotted _ hdots) ne_nil_of_mem_printed
    ne_nil_of_mem_printed (by simpa [printed] using hlength) (mapM_readGroup hms) (mapM_readGroup hns)

theorem read_groups (hlength : ns.length = 8) (h : ∀ n ∈ ns, n < 65536) :
    read (groupsText ns) = .ok (ofGroups ns) := by
  have hne : printed ns ≠ [] := by
    rintro hnil
    rw [List.map_eq_nil_iff.mp hnil] at hlength
    cases hlength
  have hpieces : pieces (· == ':') (groupsText ns) = printed ns := by
    rw [pieces_groupsText, sides_of_ne_nil hne]
  have hcount : (printed ns).length = 8 := by simpa [printed] using hlength
  have hdots : ∀ p ∈ printed ns, p.contains '.' = false := by
    rw [← sides_of_ne_nil hne]
    exact not_dotted_of_mem_sides
  exact read_full hpieces (by omega) (expandTail_of_undotted _ hdots) ne_nil_of_mem_printed hcount (mapM_readGroup h)

/-! The whole address -/

theorem length_groups (bits : Bits) : (groups bits).length = 8 := rfl

theorem lt_of_mem_groups (h : n ∈ groups bits) : n < 65536 := by
  obtain ⟨k, -, rfl⟩ := List.mem_map.mp h
  exact Nat.mod_lt _ (by decide)

theorem ofGroups_groups (bits : Bits) : ofGroups (groups bits) = bits := by
  have hlt := bits.isLt
  have hsum : (groups bits).foldl (fun n g => 65536 * n + g) 0 = bits.toNat := by
    simp only [groups, List.map_cons, List.map_nil, List.foldl_cons, List.foldl_nil, Nat.pow_eq, Nat.reducePow]
    omega
  rw [ofGroups, hsum, BitVec.ofNat_toNat, BitVec.setWidth_eq]

theorem replicate_zeroRun (ns : List Nat) : List.replicate (zeroRun ns) 0 ++ ns.drop (zeroRun ns) = ns := by
  induction ns with
  | nil => rfl
  | cons n rest ih =>
    cases n with
    | zero => simpa [zeroRun, List.replicate_succ] using ih
    | succ n => rfl

theorem read_text (bits : Bits) : read (text bits) = .ok bits := by
  have hall : ∀ n ∈ groups bits, n < 65536 := fun n hn => lt_of_mem_groups hn
  unfold text
  dsimp only
  generalize longestRun (groups bits) = start
  split
  · rename_i hwide
    generalize hwidth : zeroRun ((groups bits).drop start) = width at hwide ⊢
    have hsplit : (groups bits).take start ++ (List.replicate width 0 ++ (groups bits).drop (start + width)) =
        groups bits := by
      rw [← List.drop_drop, ← hwidth, replicate_zeroRun, List.take_append_drop]
    have hlength := congrArg List.length hsplit
    rw [List.length_append, List.length_append, List.length_replicate, length_groups] at hlength
    have hgap : 8 - (((groups bits).take start).length + ((groups bits).drop (start + width)).length) = width := by
      omega
    have hhigh : ∀ n ∈ (groups bits).take start, n < 65536 := fun n hn => hall n (List.mem_of_mem_take hn)
    have hlow : ∀ n ∈ (groups bits).drop (start + width), n < 65536 := fun n hn => hall n (List.mem_of_mem_drop hn)
    rw [read_gap (by omega) hhigh hlow, hgap, List.append_assoc, hsplit, ofGroups_groups]
  · rw [read_groups (length_groups bits) hall, ofGroups_groups]

end SenderPolicy.Ipv6
