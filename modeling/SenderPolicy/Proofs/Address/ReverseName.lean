import SenderPolicy.Address.ReverseName
import SenderPolicy.Proofs.Address.Digits
import SenderPolicy.Proofs.Address.Prefix

/-!
The name for a lookup in reverse is that of the address, however the address is written. The reader of name servers puts
the groups out to four digits each; where the other reader finds an address, the digits are those of the address.
-/
namespace SenderPolicy

namespace ReverseName
open Text
variable {n : Nat} {t u q : Text} {ms ns : List Nat} {gs high low parts : List Text}

/-! Octets -/

theorem readOctet?_of_readOctet (h : Ipv4.readOctet t = .ok n) : readOctet? t = some n := by
  unfold Ipv4.readOctet at h
  split_ifs at h with hempty hdigits hlong hzero hrange
  cases h
  have hlead : (t.length == 1 || t.head? != some '0') = true := by
    by_cases hhead : t.head? = some '0'
    · have hone : t = ['0'] := Decidable.not_not.mp fun hne => hzero ⟨hne, hhead⟩
      rw [hone]
      rfl
    · simp [hhead]
  have hall : t.all Char.isDigit = true := by simpa using hdigits
  rw [readOctet?, if_pos]
  simp only [hlead, hall, Bool.and_true, Bool.and_eq_true, Bool.not_eq_true', decide_eq_true_eq]
  exact ⟨by simpa using hempty, Nat.le_of_not_lt hrange⟩

theorem octets?_of_read {bits : Ipv4.Bits} (h : Ipv4.read t = .ok bits) : octets? t = some (Ipv4.octets bits) := by
  obtain ⟨hlength, hread⟩ := Ipv4.octets_of_read h
  unfold octets?
  dsimp only
  rw [if_pos hlength]
  exact mapM_eq_some_of_ok (fun _ _ => readOctet?_of_readOctet) hread

theorem isDotted_of_read {bits : Ipv4.Bits} (h : Ipv4.read t = .ok bits) : isDotted t = true := by
  obtain ⟨hlength, hread⟩ := Ipv4.octets_of_read h
  unfold isDotted
  dsimp only
  rw [hlength, Bool.and_eq_true, List.all_eq_true]
  refine ⟨rfl, fun p hp => ?_⟩
  obtain ⟨n, hn⟩ := of_mapM_eq_ok hread p hp
  rw [Bool.and_eq_true, List.all_eq_true]
  exact ⟨by simpa using Ipv4.ne_nil_of_readOctet hn, fun c hc => Ipv4.isDigit_of_readOctet hn hc⟩

/-! Groups -/

theorem padGroups?_append (h : List.Forall₂ Ipv6.Denotes gs ns) (left : Nat) (seen : Bool) (rest : List Text) :
    padGroups? left seen (gs ++ rest) = (padGroups? left seen rest).map (gs.map Ipv6.padded ++ ·) := by
  induction h with
  | nil => simp
  | cons hg _ ih =>
    obtain ⟨-, -, hlength, -⟩ := Ipv6.readGroup_eq_ok hg.2
    rw [List.cons_append, padGroups?, if_neg (by simp [hg.1]), if_neg (Nat.not_lt.mpr hlength), ih, Option.map_map]
    rfl

theorem lower_padded (h : List.Forall₂ Ipv6.Denotes gs ns) :
    (gs.map Ipv6.padded).flatten.map Char.toLower = (ns.map (hexadecimal 4)).flatten := by
  induction h with
  | nil => rfl
  | cons hg _ ih => rw [List.map_cons, List.flatten_cons, List.map_append, hg.padded, ih]; rfl

theorem isSome_of_mem_padded (h : List.Forall₂ Ipv6.Denotes gs ns) :
    ∀ c ∈ (gs.map Ipv6.padded).flatten, (Ipv6.digitValue? c).isSome = true := by
  induction h with
  | nil => exact fun c hc => nomatch hc
  | cons hg _ ih =>
    rw [List.map_cons, List.flatten_cons, List.forall_mem_append]
    exact ⟨hg.isSome_digitValue?, ih⟩

/-! The reader -/

/-- Where a colon stands at either end, there are two. -/
def NoLoneColon (t : Text) : Prop :=
  (t.head? = some ':' → "::".toList <+: t) ∧ (t.getLast? = some ':' → "::".toList <:+ t)

def chunksOf (t : Text) : List Text := pieces (· == ':') (dropOuterColon t)

/-- The text comes to digits: its dotted tail is rewritten, and the chunks are put out to full groups. -/
structure ComesTo (t u : Text) (gs : List Text) : Prop where
  nonempty : t ≠ []
  lone : NoLoneColon t
  tail : expandTail? (if t = "::".toList then "0::".toList else t) = some u
  few : (chunksOf u).length ≤ 8
  gap : (chunksOf u).length = 8 ∨ [] ∈ chunksOf u
  groups : padGroups? (9 - (chunksOf u).length) false (chunksOf u) = some gs
  digits : ∀ c ∈ gs.flatten, (Ipv6.digitValue? c).isSome = true

theorem noLoneColon_iff : NoLoneColon t ↔ ¬ ((t.head? = some ':' ∧ ¬ "::".toList.isPrefixOf t) ∨
    (t.getLast? = some ':' ∧ ¬ "::".toList.isSuffixOf t)) := by
  simp only [List.isPrefixOf_iff_prefix, List.isSuffixOf_iff_suffix, NoLoneColon]
  tauto

theorem nibbles?_of_comesTo (h : ComesTo t u gs) : nibbles? t = some (gs.flatten.map Char.toLower) := by
  have hlone := noLoneColon_iff.mp h.lone
  have hfew : ¬ ((chunksOf u).length < 8 ∧ ¬ (chunksOf u).contains [] = true) := by
    rintro ⟨hlt, hnot⟩
    rcases h.gap with hfull | hgap
    · omega
    · exact hnot (List.contains_iff_mem.mpr hgap)
  have hopen : ¬ (t.isEmpty ∨ (t.head? = some ':' ∧ ¬ "::".toList.isPrefixOf t) ∨
      (t.getLast? = some ':' ∧ ¬ "::".toList.isSuffixOf t)) := not_or.mpr ⟨by simpa using h.nonempty, hlone⟩
  have hchunks : pieces (· == ':') (dropOuterColon u) = chunksOf u := rfl
  unfold nibbles?
  dsimp only
  rw [if_neg hopen, h.tail]
  simp only [Option.bind_eq_bind, Option.bind_some, hchunks, if_neg (Nat.not_lt.mpr h.few), if_neg hfew, h.groups]
  exact if_pos (List.all_eq_true.mpr h.digits)

theorem comesTo_of_nibbles? {digits : Text} (h : nibbles? t = some digits) :
    ∃ u gs, ComesTo t u gs ∧ digits = gs.flatten.map Char.toLower := by
  unfold nibbles? at h
  obtain ⟨hopen, h⟩ := of_guard_eq_some h
  obtain ⟨u, htail, h⟩ := Option.bind_eq_some_iff.mp h
  obtain ⟨hlong, h⟩ := of_guard_eq_some h
  obtain ⟨hfew, h⟩ := of_guard_eq_some h
  obtain ⟨gs, hgroups, h⟩ := Option.bind_eq_some_iff.mp h
  obtain ⟨hdigits, heq⟩ := Option.ite_none_right_eq_some.mp h
  rw [not_or] at hopen
  refine ⟨u, gs, ⟨by simpa using hopen.1, noLoneColon_iff.mpr hopen.2, htail, Nat.le_of_not_lt hlong, ?_, hgroups,
    List.all_eq_true.mp hdigits⟩, (Option.some.inj heq).symm⟩
  by_cases hgap : [] ∈ chunksOf u
  · exact .inr hgap
  · refine .inl (Nat.le_antisymm (Nat.le_of_not_lt hlong) (Nat.le_of_not_lt fun hlt => hfew ⟨hlt, ?_⟩))
    rwa [List.contains_iff_mem]

/-! The dotted tail -/

def tailGroups (bits : Ipv4.Bits) : List Text :=
  match Ipv4.octets bits with
  | [a, b, c, d] => [hexadecimal 2 a ++ hexadecimal 2 b, hexadecimal 2 c ++ hexadecimal 2 d]
  | _ => []

theorem denotes_pair {a b : Nat} (ha : a < 256) (hb : b < 256) :
    Ipv6.Denotes (hexadecimal 2 a ++ hexadecimal 2 b) (256 * a + b) := by
  have htwo {n : Nat} (hn : n < 256) : hexadecimal 2 n = [Nat.digitChar (n / 16), Nat.digitChar (n % 16)] := by
    rw [hexadecimal_succ, hexadecimal, Nat.toDigits_of_lt_base (by omega)]
    rfl
  have hdigit (n : Nat) (hn : n < 16) := Ipv6.digitValue?_digitChar hn
  rw [htwo ha, htwo hb]
  refine ⟨List.cons_ne_nil _ _, ?_⟩
  simp only [Ipv6.readGroup, List.cons_append, List.nil_append, List.mapM_cons, List.mapM_nil,
    hdigit (a / 16) (by omega), hdigit (a % 16) (by omega), hdigit (b / 16) (by omega), hdigit (b % 16) (by omega)]
  simp
  omega

theorem denotes_tailGroups (bits : Ipv4.Bits) :
    List.Forall₂ Ipv6.Denotes (tailGroups bits) [bits.toNat / 65536, bits.toNat % 65536] := by
  have hlt := bits.isLt
  have hhigh : bits.toNat / 65536 = 256 * (bits.toNat / 16777216 % 256) + bits.toNat / 65536 % 256 := by omega
  have hlow : bits.toNat % 65536 = 256 * (bits.toNat / 256 % 256) + bits.toNat % 256 := by omega
  have hoctet (n : Nat) : n % 256 < 256 := Nat.mod_lt n (by decide)
  rw [hhigh, hlow]
  exact .cons (denotes_pair (hoctet _) (hoctet _)) (.cons (denotes_pair (hoctet _) (hoctet _)) .nil)

theorem withoutFinalNewline_eq_self (h : t.getLast? ≠ some '\n') : withoutFinalNewline t = t := if_neg h

theorem of_mem_withoutFinalNewline {c : Char} (h : c ∈ withoutFinalNewline t) : c ∈ t := by
  unfold withoutFinalNewline at h
  split at h
  · exact (List.dropLast_sublist t).subset h
  · exact h

theorem expandTail?_of_undotted (h : '.' ∉ t) : expandTail? t = some t := by
  have hbare : '.' ∉ withoutFinalNewline t := fun hmem => h (of_mem_withoutFinalNewline hmem)
  unfold expandTail?
  obtain hnone | ⟨front, tail, heq, hnone⟩ := exists_last_mark ':' (withoutFinalNewline t)
  · rw [cutAtLast_of_notin hnone]
  · rw [heq] at hbare ⊢
    have huncut : pieces (· == '.') tail = [tail] := pieces_of_uncut fun c hc =>
      beq_false_of_ne (by rintro rfl; exact hbare (by simp [hc]))
    rw [cutAtLast_of_mark hnone]
    simp [isDotted, huncut]

theorem expandTail?_of_quad {front : Text} {bits : Ipv4.Bits} (hq : Ipv4.read q = .ok bits) (hfront : '\n' ∉ front) :
    expandTail? (front ++ ':' :: q) = some (front ++ ':' :: joined [':'] (tailGroups bits)) := by
  have hline : (front ++ ':' :: q).getLast? ≠ some '\n' := by
    intro hlast
    have hmem := List.mem_of_getLast? hlast
    simp [hfront, Ipv4.notin_of_read (c := '\n') hq (by decide)] at hmem
  unfold expandTail?
  rw [withoutFinalNewline_eq_self hline, cutAtLast_of_mark (Ipv4.notin_of_read hq (by decide))]
  simp [isDotted_of_read hq, hfront, octets?_of_read hq, Ipv4.octets, tailGroups, joined]

/-! Colons at the ends -/

/-- Between the parts colons may be put: none is empty, and none has a colon itself. -/
def AreParts (parts : List Text) : Prop := ∀ p ∈ parts, p ≠ [] ∧ ':' ∉ p

theorem head?_joined_ne (h : AreParts parts) : (joined [':'] parts).head? ≠ some ':' := by
  intro hhead
  cases parts with
  | nil => cases hhead
  | cons p rest =>
    obtain ⟨⟨hne, hcolon⟩, -⟩ := List.forall_mem_cons.mp h
    obtain ⟨c, r, rfl⟩ := List.exists_cons_of_ne_nil hne
    refine hcolon (List.mem_cons.mpr (.inl ?_))
    cases rest <;> exact (Option.some.inj hhead).symm

theorem getLast?_joined_ne (h : AreParts parts) : (joined [':'] parts).getLast? ≠ some ':' := by
  intro hlast
  cases hparts : parts.getLast? with
  | none =>
    rw [List.getLast?_eq_none_iff.mp hparts] at hlast
    cases hlast
  | some p =>
    obtain ⟨hne, hcolon⟩ := h p (List.mem_of_getLast? hparts)
    rw [← List.dropLast_append_getLast? p hparts] at hlast
    refine hcolon (List.mem_of_getLast? ?_)
    by_cases hfront : parts.dropLast = []
    · rwa [hfront] at hlast
    · rwa [joined_append hfront (List.cons_ne_nil p []), joined, List.getLast?_append_of_ne_nil _ hne] at hlast

theorem dropOuterColon_eq_self (hfirst : t.head? ≠ some ':') (hlast : t.getLast? ≠ some ':') : dropOuterColon t = t := by
  have hfront : ¬ "::".toList.isPrefixOf t = true := by
    intro hprefix
    obtain ⟨rest, rfl⟩ := List.isPrefixOf_iff_prefix.mp hprefix
    exact hfirst rfl
  have hback : ¬ "::".toList.isSuffixOf t = true := by
    intro hsuffix
    obtain ⟨front, rfl⟩ := List.isSuffixOf_iff_suffix.mp hsuffix
    exact hlast (by simp)
  rw [dropOuterColon, if_neg hfront, if_neg hback]

theorem joined_ne_nil (hne : parts ≠ []) (h : AreParts parts) : joined [':'] parts ≠ [] := by
  obtain ⟨p, rest, rfl⟩ := List.exists_cons_of_ne_nil hne
  obtain ⟨c, r, rfl⟩ := List.exists_cons_of_ne_nil (List.forall_mem_cons.mp h).1.1
  cases rest <;> exact List.cons_ne_nil _ _

theorem pieces_joined_parts (h : AreParts parts) : pieces (· == ':') (joined [':'] parts) = Ipv6.sides parts :=
  Ipv6.pieces_joined_groups fun p hp c hc => beq_false_of_ne (by rintro rfl; exact (h p hp).2 hc)

theorem head?_append_ne (hne : high ≠ []) (hhigh : AreParts high) (t : Text) :
    (joined [':'] high ++ t).head? ≠ some ':' := by
  obtain ⟨c, r, hjoined⟩ := List.exists_cons_of_ne_nil (joined_ne_nil hne hhigh)
  have hhead := head?_joined_ne hhigh
  rw [hjoined] at hhead ⊢
  exact hhead

theorem getLast?_append_ne (hne : low ≠ []) (hlow : AreParts low) (t : Text) :
    (t ++ joined [':'] low).getLast? ≠ some ':' := by
  rw [List.getLast?_append_of_ne_nil _ (joined_ne_nil hne hlow)]
  exact getLast?_joined_ne hlow

theorem pieces_dropOuterColon (hhigh : AreParts high) (hlow : AreParts low) (hne : high ≠ [] ∨ low ≠ []) :
    pieces (· == ':') (dropOuterColon (joined [':'] high ++ ':' :: ':' :: joined [':'] low)) = high ++ [] :: low := by
  -- One of the two colons is dropped where the gap is outermost, and neither where it is within.
  by_cases hnone : high = []
  · subst hnone
    have hlow' : low ≠ [] := hne.resolve_left (· rfl)
    have hdrop : dropOuterColon (joined [':'] [] ++ ':' :: ':' :: joined [':'] low) = [] ++ ':' :: joined [':'] low :=
      if_pos (by simp [joined])
    rw [hdrop, pieces_append rfl, pieces_joined_parts hlow, Ipv6.sides_of_ne_nil hlow']
    rfl
  · have hfirst := head?_append_ne hnone hhigh
    by_cases hnone' : low = []
    · subst hnone'
      have hdrop : dropOuterColon (joined [':'] high ++ ':' :: ':' :: joined [':'] []) = joined [':'] high ++ [':'] := by
        have hfront : ¬ "::".toList.isPrefixOf (joined [':'] high ++ ':' :: ':' :: joined [':'] []) = true := by
          intro hprefix
          obtain ⟨rest, hrest⟩ := List.isPrefixOf_iff_prefix.mp hprefix
          exact hfirst _ (by rw [← hrest]; rfl)
        have hback : "::".toList.isSuffixOf (joined [':'] high ++ ':' :: ':' :: joined [':'] []) = true :=
          List.isSuffixOf_iff_suffix.mpr (List.suffix_append _ _)
        have hend : joined [':'] high ++ ':' :: ':' :: joined [':'] [] = (joined [':'] high ++ [':']) ++ [':'] := by
          simp [joined]
        rw [dropOuterColon, if_neg hfront, if_pos hback, hend, List.dropLast_concat]
      rw [hdrop, pieces_append rfl, pieces_joined_parts hhigh, Ipv6.sides_of_ne_nil hnone]
      rfl
    · have hlast : (joined [':'] high ++ ':' :: ':' :: joined [':'] low).getLast? ≠ some ':' := by
        rw [List.append_cons, List.append_cons]
        exact getLast?_append_ne hnone' hlow _
      have hcut (t : Text) : ':' :: ':' :: t = ':' :: ([] ++ ':' :: t) := rfl
      rw [dropOuterColon_eq_self (hfirst _) hlast, hcut, pieces_append rfl, pieces_append rfl, pieces_joined_parts hhigh,
        pieces_joined_parts hlow, Ipv6.sides_of_ne_nil hnone, Ipv6.sides_of_ne_nil hnone']
      rfl

/-! Spellings -/

theorem parts_of_spells (h : Ipv6.Spells parts ns) : AreParts parts := by
  cases h with
  | groups hgs => exact Ipv6.notin_of_mem_groups hgs (by decide)
  | quad hgs hq =>
    rw [AreParts, List.forall_mem_append, List.forall_mem_singleton]
    refine ⟨Ipv6.notin_of_mem_groups hgs (by decide), ?_, Ipv4.notin_of_read hq (by decide)⟩
    rintro rfl
    cases hq

theorem notin_joined_groups (h : List.Forall₂ Ipv6.Denotes gs ns) {d : Char} (hd : Ipv6.digitValue? d = none)
    (hcolon : d ≠ ':') : d ∉ joined [':'] gs := by
  intro hmem
  obtain hmark | ⟨g, hg, hmem⟩ := of_mem_joined hmem
  · exact hcolon (List.mem_singleton.mp hmark)
  · exact (Ipv6.notin_of_mem_groups h hd g hg).2 hmem

theorem exists_groups_of_spells (h : Ipv6.Spells parts ns) :
    ∃ gs, List.Forall₂ Ipv6.Denotes gs ns ∧ ∀ front, '.' ∉ front → '\n' ∉ front →
      front.getLast? = some ':' ∨ 2 ≤ parts.length →
      expandTail? (front ++ joined [':'] parts) = some (front ++ joined [':'] gs) := by
  cases h with
  | groups hgs =>
    refine ⟨parts, hgs, fun front hdot _ _ => expandTail?_of_undotted ?_⟩
    rw [List.mem_append, not_or]
    exact ⟨hdot, notin_joined_groups hgs (by decide) (by decide)⟩
  | @quad gs ms q bits hgs hq =>
    refine ⟨gs ++ tailGroups bits, List.rel_append hgs (denotes_tailGroups bits), fun front hdot hline hcolon => ?_⟩
    by_cases hnone : gs = []
    · subst hnone
      have hlast : front.getLast? = some ':' := hcolon.resolve_right (by simp)
      rw [← List.dropLast_append_getLast? ':' hlast] at hline ⊢
      have htail := expandTail?_of_quad hq (fun hmem => hline (List.mem_append_left _ hmem))
      simpa only [List.append_assoc, List.singleton_append, List.nil_append, joined] using htail
    · have hbefore : '\n' ∉ front ++ joined [':'] gs := by
        rw [List.mem_append, not_or]
        exact ⟨hline, notin_joined_groups hgs (by decide) (by decide)⟩
      have htail := expandTail?_of_quad hq hbefore
      have hne : tailGroups bits ≠ [] := List.cons_ne_nil _ _
      rw [joined_append hnone (List.cons_ne_nil q []), joined_append hnone hne]
      simpa only [List.append_assoc, List.singleton_append, joined] using htail

theorem padGroups?_around (hhigh : List.Forall₂ Ipv6.Denotes high ms) (hlow : List.Forall₂ Ipv6.Denotes low ns) (left : Nat) :
    padGroups? left false (high ++ [] :: low) = some ((high ++ (List.replicate left ['0'] ++ low)).map Ipv6.padded) := by
  have hend := padGroups?_append hlow left true []
  rw [List.append_nil] at hend
  rw [padGroups?_append hhigh, padGroups?, if_pos (by rfl), if_neg (by decide), hend, List.map_append, List.map_append,
    List.map_replicate]
  simp [padGroups?, Ipv6.padded]

theorem denotes_zeros (k : Nat) : List.Forall₂ Ipv6.Denotes (List.replicate k ['0']) (List.replicate k 0) := by
  induction k with
  | zero => exact .nil
  | succ k ih => exact .cons ⟨List.cons_ne_nil _ _, rfl⟩ ih

theorem lower_padded_eq_nibbles (h : List.Forall₂ Ipv6.Denotes gs ns) (hlength : ns.length = 8) :
    (gs.map Ipv6.padded).flatten.map Char.toLower = Ipv6.nibbles (Ipv6.ofGroups ns) := by
  rw [lower_padded h, Ipv6.nibbles, Ipv6.groups_ofGroups hlength (Ipv6.lt_of_mem_denoted h)]

theorem nibbles?_of_full (h : Ipv6.Spells parts ns) (hlength : ns.length = 8) :
    nibbles? (joined [':'] parts) = some (Ipv6.nibbles (Ipv6.ofGroups ns)) := by
  obtain ⟨gs, hgs, htail⟩ := exists_groups_of_spells h
  have hcount : gs.length = 8 := hgs.length_eq.trans hlength
  have hseven : 7 ≤ parts.length := by
    cases h with
    | groups h => rw [h.length_eq, hlength]; decide
    | quad h =>
      rw [List.length_append] at hlength ⊢
      rw [h.length_eq]
      exact Nat.le_of_succ_le_succ (Nat.le_of_eq hlength.symm)
  have hgroups := Ipv6.notin_of_mem_groups hgs (d := ':') (by decide)
  have hparts := parts_of_spells h
  have hhead := head?_joined_ne hparts
  have hne : parts ≠ [] := List.ne_nil_of_length_pos (by omega)
  rw [← lower_padded_eq_nibbles hgs hlength]
  have hchunks : chunksOf (joined [':'] gs) = gs := by
    rw [chunksOf, dropOuterColon_eq_self (head?_joined_ne hgroups) (getLast?_joined_ne hgroups),
      pieces_joined_parts hgroups, Ipv6.sides_of_ne_nil (List.ne_nil_of_length_pos (by omega))]
  have hdouble : joined [':'] parts ≠ "::".toList := fun heq => hhead (by rw [heq]; rfl)
  refine nibbles?_of_comesTo (u := joined [':'] gs) {
    nonempty := joined_ne_nil hne hparts
    lone := ⟨fun hcolon => absurd hcolon hhead, fun hcolon => absurd hcolon (getLast?_joined_ne hparts)⟩
    tail := by rw [if_neg hdouble]; exact htail [] (by simp) (by simp) (.inr (by omega))
    few := by rw [hchunks, hcount]
    gap := by rw [hchunks]; exact .inl hcount
    groups := ?_
    digits := isSome_of_mem_padded hgs }
  have hpad := padGroups?_append hgs (9 - gs.length) false []
  rw [List.append_nil] at hpad
  rw [hchunks, hpad]
  simp [padGroups?]

theorem noLoneColon_of_gap (hhigh : AreParts high) (hlow : AreParts low) :
    NoLoneColon (joined [':'] high ++ ':' :: ':' :: joined [':'] low) := by
  refine ⟨fun hcolon => ?_, fun hcolon => ?_⟩
  · by_cases hnone : high = []
    · subst hnone
      exact ⟨joined [':'] low, rfl⟩
    · exact absurd hcolon (head?_append_ne hnone hhigh _)
  · by_cases hnone : low = []
    · subst hnone
      exact List.suffix_append _ _
    · rw [List.append_cons, List.append_cons] at hcolon
      exact absurd hcolon (getLast?_append_ne hnone hlow _)

theorem ne_double_of_gap (hhigh : AreParts high) (hlow : AreParts low) (hne : high ≠ [] ∨ low ≠ []) :
    joined [':'] high ++ ':' :: ':' :: joined [':'] low ≠ "::".toList := by
  intro heq
  have hlength := congrArg List.length heq
  have htwo : "::".toList.length = 2 := rfl
  rw [List.length_append, List.length_cons, List.length_cons, htwo] at hlength
  rcases hne with hne | hne
  · have hpos := List.length_pos_iff.mpr (joined_ne_nil hne hhigh)
    omega
  · have hpos := List.length_pos_iff.mpr (joined_ne_nil hne hlow)
    omega

theorem nibbles?_of_gap (hhigh : List.Forall₂ Ipv6.Denotes high ms) (h : Ipv6.Spells low ns)
    (hroom : ms.length + ns.length < 8) (hne : high ≠ [] ∨ low ≠ []) :
    nibbles? (joined [':'] high ++ ':' :: ':' :: joined [':'] low) =
      some (Ipv6.nibbles (Ipv6.ofGroups (ms ++ List.replicate (8 - (ms.length + ns.length)) 0 ++ ns))) := by
  obtain ⟨gs, hgs, htail⟩ := exists_groups_of_spells h
  have hhigh' : AreParts high := Ipv6.notin_of_mem_groups hhigh (by decide)
  have hlow' : AreParts gs := Ipv6.notin_of_mem_groups hgs (by decide)
  have hne' : high ≠ [] ∨ gs ≠ [] := by
    refine hne.imp_right ?_
    rintro hlow rfl
    exact hlow (h.nil_iff.mpr (List.forall₂_nil_left_iff.mp hgs))
  have hcount : (high ++ [] :: gs).length = ms.length + ns.length + 1 := by
    rw [List.length_append, List.length_cons, hhigh.length_eq, hgs.length_eq]
    rfl
  have hleft : 9 - (high ++ [] :: gs).length = 8 - (ms.length + ns.length) := by omega
  have hall := List.rel_append hhigh (List.rel_append (denotes_zeros (8 - (ms.length + ns.length))) hgs)
  have htext (t : Text) : joined [':'] high ++ ':' :: ':' :: t = joined [':'] high ++ [':', ':'] ++ t := by simp
  have hcolons {d : Char} (hd : Ipv6.digitValue? d = none) (hcolon : d ≠ ':') : d ∉ joined [':'] high ++ [':', ':'] := by
    simpa [hcolon] using notin_joined_groups hhigh hd hcolon
  rw [List.append_assoc, ← lower_padded_eq_nibbles hall (by simp; omega)]
  have hchunks : chunksOf (joined [':'] high ++ ':' :: ':' :: joined [':'] gs) = high ++ [] :: gs :=
    pieces_dropOuterColon hhigh' hlow' hne'
  refine nibbles?_of_comesTo {
    nonempty := by simp
    lone := noLoneColon_of_gap hhigh' (parts_of_spells h)
    tail := ?_
    few := by rw [hchunks]; omega
    gap := .inr (by rw [hchunks]; simp)
    groups := by rw [hchunks, hleft]; exact padGroups?_around hhigh hgs _
    digits := isSome_of_mem_padded hall }
  rw [if_neg (ne_double_of_gap hhigh' (parts_of_spells h) hne), htext (joined [':'] low), htext (joined [':'] gs)]
  exact htail _ (hcolons (by decide) (by decide)) (hcolons (by decide) (by decide)) (.inl (by simp))

/-- However an address is written, its digits are found. -/
theorem nibbles?_of_spelling {bits : Ipv6.Bits} (h : Ipv6.IsSpelling t bits) : nibbles? t = some (Ipv6.nibbles bits) := by
  cases h with
  | full hparts hlength => exact nibbles?_of_full hparts hlength
  | @gap high low ms ns hhigh hlow hroom =>
    by_cases hne : high ≠ [] ∨ low ≠ []
    · exact nibbles?_of_gap hhigh hlow hroom hne
    · -- nothing but the double colon is read as if a zero stood in front of it
      rw [not_or, Decidable.not_not, Decidable.not_not] at hne
      obtain ⟨rfl, rfl⟩ := hne
      obtain rfl := List.forall₂_nil_left_iff.mp hhigh
      obtain rfl := hlow.nil_iff.mp rfl
      decide +kernel

/-! Addresses that stand for shorter ones -/

def values (t : Text) : List Nat := t.map fun c => (Ipv6.digitValue? c).getD 0

theorem values_hexadecimal (h : n < 65536) :
    values (hexadecimal 4 n) = [n / 4096, n / 256 % 16, n / 16 % 16, n % 16] := by
  have hdigit (k : Nat) (hk : k < 16) : (Ipv6.digitValue? (Nat.digitChar k)).getD 0 = k := by
    rw [Ipv6.digitValue?_digitChar hk]
    rfl
  rw [hexadecimal_four h]
  simp only [values, List.map_cons, List.map_nil, hdigit (n / 4096) (by omega), hdigit (n / 256 % 16) (by omega),
    hdigit (n / 16 % 16) (by omega), hdigit (n % 16) (by omega)]

theorem hexadecimal_inj {m : Nat} (hm : m < 65536) (hn : n < 65536) (h : hexadecimal 4 m = hexadecimal 4 n) : m = n := by
  have hvalues := congrArg values h
  rw [values_hexadecimal hm, values_hexadecimal hn] at hvalues
  simp only [List.cons.injEq, and_true] at hvalues
  omega

theorem isPrefix_of_hexadecimal (hms : ∀ n ∈ ms, n < 65536) (hns : ∀ n ∈ ns, n < 65536)
    (h : (ms.map (hexadecimal 4)).flatten <+: (ns.map (hexadecimal 4)).flatten) : ms <+: ns := by
  induction ms generalizing ns with
  | nil => exact List.nil_prefix
  | cons m rest ih =>
    obtain ⟨hm, hrest⟩ := List.forall_mem_cons.mp hms
    cases ns with
    | nil =>
      rw [List.map_cons, List.flatten_cons, hexadecimal_four hm] at h
      cases List.prefix_nil.mp h
    | cons n ns =>
      obtain ⟨hn, hothers⟩ := List.forall_mem_cons.mp hns
      obtain ⟨behind, hbehind⟩ := h
      rw [List.map_cons, List.flatten_cons, List.map_cons, List.flatten_cons, List.append_assoc] at hbehind
      have hlength : (hexadecimal 4 m).length = (hexadecimal 4 n).length := by
        rw [hexadecimal_four hm, hexadecimal_four hn]
        rfl
      obtain ⟨hfirst, hflat⟩ := List.append_inj hbehind hlength
      obtain rfl := hexadecimal_inj hm hn hfirst
      exact (List.prefix_cons_inj m).mpr (ih hrest hothers ⟨behind, hflat⟩)

theorem groups_mapping (short : Ipv4.Bits) : Ipv6.groups (Ipv6.mapping short) =
    [0, 0, 0, 0, 0, 0xFFFF, short.toNat / 65536, short.toNat % 65536] := by
  have hlt := short.isLt
  simp only [Ipv6.groups, Ipv6.toNat_mapping, List.map_cons, List.map_nil, Nat.pow_eq, Nat.reducePow, List.cons.injEq,
    and_true]
  omega

theorem mappedOctets?_nibbles (bits : Ipv6.Bits) :
    mappedOctets? (Ipv6.nibbles bits) = (Ipv6.mapped? bits).map Ipv4.octets := by
  have hblock : List.replicate 20 '0' ++ List.replicate 4 'f' =
      ([0, 0, 0, 0, 0, 0xFFFF].map (hexadecimal 4)).flatten := by decide +kernel
  cases hmapped : Ipv6.mapped? bits with
  | some short =>
    obtain rfl := Ipv6.mapped?_eq_some_iff.mp hmapped
    have hlt := short.isLt
    have hnibbles : Ipv6.nibbles (Ipv6.mapping short) = ([0, 0, 0, 0, 0, 0xFFFF].map (hexadecimal 4)).flatten ++
        (hexadecimal 4 (short.toNat / 65536) ++ hexadecimal 4 (short.toNat % 65536)) := by
      rw [Ipv6.nibbles, groups_mapping]
      simp
    have hdrop (t : Text) : (([0, 0, 0, 0, 0, 0xFFFF].map (hexadecimal 4)).flatten ++ t).drop 24 = t :=
      List.drop_left' (by decide +kernel)
    have hvalues : (hexadecimal 4 (short.toNat / 65536) ++ hexadecimal 4 (short.toNat % 65536)).map
        (fun c => (Ipv6.digitValue? c).getD 0) =
        values (hexadecimal 4 (short.toNat / 65536)) ++ values (hexadecimal 4 (short.toNat % 65536)) := List.map_append
    unfold mappedOctets?
    dsimp only
    rw [hblock, hnibbles, if_pos (List.isPrefixOf_iff_prefix.mpr (List.prefix_append _ _)), hdrop, hvalues,
      values_hexadecimal (by omega), values_hexadecimal (Nat.mod_lt _ (by decide))]
    simp only [List.cons_append, List.nil_append, Option.map_some, Ipv4.octets, Option.some.injEq, List.cons.injEq, and_true]
    omega
  | none =>
    refine if_neg fun hprefix => ?_
    rw [hblock, List.isPrefixOf_iff_prefix] at hprefix
    obtain ⟨behind, hbehind⟩ := isPrefix_of_hexadecimal (by decide) (fun n => Ipv6.lt_of_mem_groups) hprefix
    have hlt := bits.isLt
    have hfront := congrArg (List.take 6) hbehind
    simp only [List.cons_append, List.take_succ_cons, List.take_zero, Ipv6.groups, List.map_cons,
      List.cons.injEq, and_true, Nat.pow_eq, Nat.reducePow] at hfront
    have hhigh : bits.toNat / 0x100000000 = 0xFFFF := by omega
    rw [Ipv6.mapped?, if_pos hhigh] at hmapped
    cases hmapped

/-! Names -/

/-- The name of an address: its octets in reverse order, or its digits. -/
def nameOf : Address → Text
  | .v4 bits => ofOctets (Ipv4.octets bits)
  | .v6 bits _ => ofNibbles (Ipv6.nibbles bits)

theorem nibbles?_of_notin (h : ':' ∉ t) : nibbles? t = none := by
  have hbare : ':' ∉ withoutFinalNewline t := fun hmem => h (of_mem_withoutFinalNewline hmem)
  have hdouble : t ≠ "::".toList := by
    rintro rfl
    exact h (by decide)
  have hchunks : chunksOf t = [t] := by
    rw [chunksOf, dropOuterColon_eq_self (fun hhead => h (List.mem_of_head? hhead)) fun hlast => h (List.mem_of_getLast? hlast)]
    exact pieces_of_uncut fun c hc => beq_false_of_ne (by rintro rfl; exact h hc)
  refine Option.eq_none_iff_forall_ne_some.mpr fun digits hdigits => ?_
  obtain ⟨u, gs, hcomes, -⟩ := comesTo_of_nibbles? hdigits
  have htail := hcomes.tail
  rw [if_neg hdouble, expandTail?, cutAtLast_of_notin hbare] at htail
  cases htail
  have hgap := hcomes.gap
  rw [hchunks, List.mem_singleton] at hgap
  rcases hgap with hfull | hempty
  · cases hfull
  · exact hcomes.nonempty hempty.symm

theorem ofAddress?_of_read4 {bits : Ipv4.Bits} (h : Ipv4.read t = .ok bits) :
    ofAddress? t = some (nameOf (.v4 bits)) := by
  rw [ofAddress?, nibbles?_of_notin (Ipv4.notin_of_read h (by decide)), octets?_of_read h]
  rfl

theorem ofAddress?_of_read6 {bits : Ipv6.Bits} (h : Ipv6.read t = .ok bits) :
    ofAddress? t = some (nameOf (Address.unmapped (.v6 bits none))) := by
  simp only [ofAddress?, nibbles?_of_spelling (Ipv6.isSpelling_of_read h), mappedOctets?_nibbles, Address.unmapped]
  cases Ipv6.mapped? bits <;> rfl

theorem ofAddress?_of_read? {a : Address} (h : Address.read? t = some a) (hscope : ¬ a.IsScoped) :
    ofAddress? t = some (nameOf a.unmapped) := by
  obtain ⟨bits, hbits, rfl⟩ | ⟨bare, zone, bits, -, hsplit, hbits, rfl⟩ := Address.read?_cases h
  · exact ofAddress?_of_read4 hbits
  · obtain ⟨rfl, rfl⟩ | ⟨z, rfl, -⟩ := Address.splitZone_eq_ok hsplit
    · exact ofAddress?_of_read6 hbits
    · exact absurd trivial hscope

end ReverseName
end SenderPolicy
