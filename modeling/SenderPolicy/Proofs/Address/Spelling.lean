import Mathlib.Data.List.Forall2
import SenderPolicy.Proofs.Address.RoundTrip

/-!
How an address of 128 bits is written. A text that is read is eight groups with colons between them, or has a double
colon for the groups that are left out; the last two may be written as a dotted part. This is the text as it stands,
while the reader goes through its parts and their places.
-/
namespace SenderPolicy.Text
variable {separator : Text} {parts parts' : List Text}

theorem joined_append (h : parts ≠ []) (h' : parts' ≠ []) :
    joined separator (parts ++ parts') = joined separator parts ++ separator ++ joined separator parts' := by
  induction parts with
  | nil => exact absurd rfl h
  | cons p rest ih =>
    cases rest with
    | nil =>
      obtain ⟨q, qs, rfl⟩ := List.exists_cons_of_ne_nil h'
      rfl
    | cons q rest =>
      have hrest := ih (List.cons_ne_nil q rest)
      rw [List.cons_append] at hrest
      rw [List.cons_append, List.cons_append, joined, hrest, joined]
      simp only [List.append_assoc]

end SenderPolicy.Text

namespace SenderPolicy.Ipv6
open Text
variable {n : Nat} {ms ns : List Nat} {g q t : Text} {gs high low parts front : List Text} {bits : Bits}

/-! Groups -/

def Denotes (g : Text) (n : Nat) : Prop := g ≠ [] ∧ readGroup g = .ok n

theorem denotes_of_mapM (hne : ∀ g ∈ gs, g ≠ []) (h : gs.mapM readGroup = .ok ns) : List.Forall₂ Denotes gs ns := by
  have hread := mapM_eq_ok_iff.mp h
  clear h
  induction hread with
  | nil => exact .nil
  | cons hn _ ih =>
    rw [List.forall_mem_cons] at hne
    exact .cons ⟨hne.1, hn⟩ (ih hne.2)

/-- The groups that the parts stand for. A dotted part in the last place stands for two. -/
inductive Spells : List Text → List Nat → Prop
  | groups {gs : List Text} {ns : List Nat} : List.Forall₂ Denotes gs ns → Spells gs ns
  | quad {gs : List Text} {ns : List Nat} {q : Text} {bits : Ipv4.Bits} : List.Forall₂ Denotes gs ns →
      Ipv4.read q = .ok bits → Spells (gs ++ [q]) (ns ++ [bits.toNat / 65536, bits.toNat % 65536])

/-- The text is one of those that the address may be written as. -/
inductive IsSpelling : Text → Bits → Prop
  | full {parts : List Text} {ns : List Nat} : Spells parts ns → ns.length = 8 →
      IsSpelling (joined [':'] parts) (ofGroups ns)
  | gap {high low : List Text} {ms ns : List Nat} : List.Forall₂ Denotes high ms → Spells low ns →
      ms.length + ns.length < 8 → IsSpelling (joined [':'] high ++ ':' :: ':' :: joined [':'] low)
        (ofGroups (ms ++ List.replicate (8 - (ms.length + ns.length)) 0 ++ ns))

theorem Spells.nil_iff (h : Spells parts ns) : parts = [] ↔ ns = [] := by
  cases h with
  | groups h =>
    constructor
    · rintro rfl
      exact List.forall₂_nil_left_iff.mp h
    · rintro rfl
      exact List.forall₂_nil_right_iff.mp h
  | quad => simp

/-! The dotted part -/

theorem expandTail_eq_ok (h : expandTail t parts = .ok gs) : gs = parts ∨
    ∃ front q bits, parts = front ++ [q] ∧ Ipv4.read q = .ok bits ∧
      gs = front ++ [Nat.toDigits 16 (bits.toNat / 65536), Nat.toDigits 16 (bits.toNat % 65536)] := by
  unfold expandTail at h
  split at h
  · rename_i last hlast
    split at h
    · obtain ⟨bits, hread, h⟩ := of_bind_eq_ok h
      cases h
      exact .inr ⟨parts.dropLast, last, bits, (List.dropLast_append_getLast? last hlast).symm, within_eq_ok hread, rfl⟩
    · cases h
      exact .inl rfl
  · cases h
    exact .inl rfl

theorem Spells.cons (hg : Denotes g n) (h : Spells parts ns) : Spells (g :: parts) (n :: ns) := by
  cases h with
  | groups hgs => exact .groups (.cons hg hgs)
  | quad hgs hq =>
    have hlonger := Spells.quad (List.Forall₂.cons hg hgs) hq
    exact hlonger

theorem spells_of_tail {bits : Ipv4.Bits} (hq : Ipv4.read q = .ok bits)
    (h : List.Forall₂ Denotes (front ++ [Nat.toDigits 16 (bits.toNat / 65536), Nat.toDigits 16 (bits.toNat % 65536)]) ns) :
    Spells (front ++ [q]) ns := by
  have hlt := bits.isLt
  induction front generalizing ns with
  | nil =>
    obtain ⟨m, ms, ⟨-, hm⟩, hsecond, rfl⟩ := List.forall₂_cons_left_iff.mp h
    obtain ⟨n, ns, ⟨-, hn⟩, hend, rfl⟩ := List.forall₂_cons_left_iff.mp hsecond
    obtain rfl := List.forall₂_nil_left_iff.mp hend
    rw [readGroup_toDigits (by omega)] at hm hn
    cases hm
    cases hn
    exact .quad .nil hq
  | cons g rest ih =>
    obtain ⟨n, ns, hg, hrest, rfl⟩ := List.forall₂_cons_left_iff.mp h
    exact (ih hrest).cons hg

/-! The gap -/

theorem ne_nil_of_gaps_eq_nil (hgaps : gaps parts = []) (hhead : parts.head? ≠ some [])
    (hlast : parts.getLast? ≠ some []) : ∀ p ∈ parts, p ≠ [] := by
  rintro p hp rfl
  obtain ⟨i, hi, hempty⟩ := List.getElem_of_mem hp
  have hnone : parts[i]? = some [] := by rw [List.getElem?_eq_getElem hi, hempty]
  have hout : i ∉ gaps parts := by rw [hgaps]; exact List.not_mem_nil
  rw [mem_gaps_iff, not_and_or, not_and_or] at hout
  rcases hout with h | h | h
  · obtain rfl : i = 0 := Nat.eq_zero_of_not_pos h
    exact hhead (List.head?_eq_getElem?.trans hnone)
  · obtain rfl : i = parts.length - 1 := by omega
    exact hlast (List.getLast?_eq_getElem?.trans hnone)
  · exact h hnone

theorem ne_nil_of_mem_high (hgaps : gaps (high ++ [] :: low) = [high.length]) (hlow : low ≠ [])
    (hhead : (high ++ [] :: low).head? ≠ some []) : ∀ p ∈ high, p ≠ [] := by
  rintro p hp rfl
  obtain ⟨i, hi, hempty⟩ := List.getElem_of_mem hp
  have hnone : (high ++ [] :: low)[i]? = some [] := by
    rw [List.getElem?_append_left hi, List.getElem?_eq_getElem hi, hempty]
  have hpos := List.length_pos_iff.mpr hlow
  by_cases hzero : i = 0
  · rw [hzero] at hnone
    exact hhead (List.head?_eq_getElem?.trans hnone)
  · have hin : i ∈ gaps (high ++ [] :: low) :=
      mem_gaps_iff.mpr ⟨Nat.pos_of_ne_zero hzero, by simp; omega, hnone⟩
    rw [hgaps, List.mem_singleton] at hin
    exact Nat.ne_of_lt hi hin

theorem ne_nil_of_mem_low (hgaps : gaps (high ++ [] :: low) = [high.length])
    (hlast : (high ++ [] :: low).getLast? ≠ some []) : ∀ p ∈ low, p ≠ [] := by
  rintro p hp rfl
  obtain ⟨i, hi, hempty⟩ := List.getElem_of_mem hp
  have hnone : (high ++ [] :: low)[high.length + (i + 1)]? = some [] := by
    rw [List.getElem?_append_right (Nat.le_add_right _ _), Nat.add_sub_cancel_left, List.getElem?_cons_succ,
      List.getElem?_eq_getElem hi, hempty]
  have hlength : (high ++ [] :: low).length = high.length + (low.length + 1) := by simp
  by_cases hend : i + 1 = low.length
  · rw [List.getLast?_eq_getElem?, hlength, ← hend] at hlast
    exact hlast hnone
  · have hin : high.length + (i + 1) ∈ gaps (high ++ [] :: low) :=
      mem_gaps_iff.mpr ⟨by omega, by omega, hnone⟩
    rw [hgaps, List.mem_singleton] at hin
    omega

theorem joined_sides (gs : List Text) : joined [':'] (sides gs) = joined [':'] gs := by
  unfold sides
  split
  · rename_i hnil
    rw [hnil]
    rfl
  · rfl

theorem joined_around (high low : List Text) :
    joined [':'] (sides high ++ [] :: sides low) = joined [':'] high ++ ':' :: ':' :: joined [':'] low := by
  have hlow : joined [':'] ([] :: sides low) = ':' :: joined [':'] low := by
    obtain ⟨p, ps, hp⟩ := List.exists_cons_of_ne_nil (sides_ne_nil low)
    rw [← joined_sides low, hp]
    rfl
  rw [joined_append (sides_ne_nil high) (List.cons_ne_nil [] _), hlow, joined_sides]
  simp

theorem sides_of_besideGap {outermost : Option Text} {fault : AddressFault} {side : List Text}
    (hne : outermost ≠ some [] → ∀ p ∈ parts, p ≠ []) (hside : outermost = some [] → parts.length = 1 → parts = [[]])
    (hnonempty : parts ≠ []) (h : besideGap outermost fault parts = .ok side) :
    parts = sides side ∧ ∀ g ∈ side, g ≠ [] := by
  obtain ⟨hout, rfl⟩ | ⟨hout, hone, rfl⟩ := besideGap_eq_ok h
  · exact ⟨(sides_of_ne_nil hnonempty).symm, hne hout⟩
  · exact ⟨hside hout hone, fun g hg => nomatch hg⟩

theorem gap_in_front {x y : Text} (hx : x ≠ []) (hy : y ≠ []) (h : high ++ [] :: low = front ++ [x, y]) :
    ∃ inner, front = high ++ [] :: inner ∧ low = inner ++ [x, y] := by
  obtain ⟨rest, rfl, hrest⟩ | ⟨rest, rfl, hrest⟩ := List.append_eq_append_iff.mp h
  · cases rest with
    | nil => exact absurd (List.cons.inj hrest).1.symm hx
    | cons z rest =>
      obtain ⟨rfl, hlow⟩ := List.cons.inj hrest
      exact ⟨rest, rfl, hlow⟩
  · cases rest with
    | nil => exact absurd (List.cons.inj hrest).1 hx
    | cons z rest =>
      obtain ⟨-, hend⟩ := List.cons.inj hrest
      cases rest with
      | nil => exact absurd (List.cons.inj hend).1 hy
      | cons => simp at hend

theorem isSpelling_of_read (h : read t = .ok bits) : IsSpelling t bits := by
  obtain ⟨parts, hexpand, hreads⟩ := read_cases h
  have htext : joined [':'] (pieces (· == ':') t) = t := joined_pieces (by simp) t
  have htail := expandTail_eq_ok hexpand
  cases hreads with
  | full hgaps hlength hhead hlast hread =>
    have hgroups := denotes_of_mapM (ne_nil_of_gaps_eq_nil hgaps hhead hlast) hread
    have hcount := hgroups.length_eq
    rw [← htext]
    obtain rfl | ⟨front, q, bits, hparts, hq, rfl⟩ := htail
    · exact .full (.groups hgroups) (by omega)
    · rw [hparts]
      exact .full (spells_of_tail hq hgroups) (by omega)
  | @gap gap high low ms ns hgaps hhigh hlow hlength hreadHigh hreadLow =>
    obtain ⟨hparts, hat, hbefore, hbehind⟩ := split_at_gap (hgaps ▸ List.mem_singleton_self gap)
    generalize parts.take gap = before at hparts hat hbefore hhigh
    generalize parts.drop (gap + 1) = behind at hparts hbehind hlow
    subst hparts
    subst hat
    obtain ⟨rfl, hhighs⟩ := sides_of_besideGap (ne_nil_of_mem_high hgaps hbehind) (fun hempty hone => by
      obtain ⟨p, rfl⟩ := List.length_eq_one_iff.mp hone
      exact congrArg ([·]) (Option.some.inj hempty)) hbefore hhigh
    obtain ⟨rfl, hlows⟩ := sides_of_besideGap (fun hlast => ne_nil_of_mem_low hgaps hlast) (fun hempty hone => by
      obtain ⟨p, rfl⟩ := List.length_eq_one_iff.mp hone
      rw [List.getLast?_append_cons] at hempty
      exact congrArg ([·]) (Option.some.inj hempty)) hbehind hlow
    have hms := denotes_of_mapM hhighs hreadHigh
    have hns := denotes_of_mapM hlows hreadLow
    rw [hms.length_eq, hns.length_eq] at hlength
    rw [← htext]
    obtain hsame | ⟨front, q, bits, hfront, hq, htwo⟩ := htail
    · rw [← hsame, joined_around]
      exact .gap hms (.groups hns) hlength
    · -- the dotted part stands last, and so behind the gap
      obtain ⟨inner, rfl, hinner⟩ := gap_in_front Nat.toDigits_ne_nil Nat.toDigits_ne_nil htwo
      have hne : low ≠ [] := by
        rintro rfl
        simpa [sides] using congrArg List.length hinner
      rw [sides_of_ne_nil hne] at hinner
      subst hinner
      have hdotted : inner ++ [q] ≠ [] := List.append_ne_nil_of_right_ne_nil inner (List.cons_ne_nil q [])
      rw [hfront, List.append_assoc, List.cons_append, ← sides_of_ne_nil hdotted, joined_around]
      exact .gap hms (spells_of_tail hq hns) hlength

end SenderPolicy.Ipv6
