import Mathlib.Data.List.TakeWhile
import SenderPolicy.Address
import SenderPolicy.Proofs.Address.Ipv6

/-!
What the texts of addresses are made of. A zone follows a percent sign, and there is none in a text without a zone; so
an address with a zone has no form with all digits, since it is read off such a text.
-/
namespace SenderPolicy

theorem within_eq_ok {α : Type} {t : Text} {x : Except AddressFault α} {a : α} (h : AddressFault.within t x = .ok a) :
    x = .ok a := by
  cases x with
  | ok b => exact h
  | error f => cases h

namespace Ipv4
open Text
variable {c : Char} {t : Text} {bits : Bits}

theorem isDigit_of_readOctet {n : Nat} (h : readOctet t = .ok n) (hc : c ∈ t) : c.isDigit = true := by
  unfold readOctet at h
  split at h
  · cases h
  · split at h
    · cases h
    · rename_i hall
      exact List.all_eq_true.mp (by simpa using hall) c hc

theorem mem_of_read (h : read t = .ok bits) (hc : c ∈ t) : c = '.' ∨ c.isDigit = true := by
  unfold read at h
  dsimp only at h
  split at h
  · cases h
  · split at h
    · cases h
    · obtain ⟨octets, hread, -⟩ := of_map_eq_ok h
      obtain hdot | ⟨w, hw, hcw⟩ := mem_pieces_of_mem (· == '.') hc
      · exact .inl (eq_of_beq hdot)
      · obtain ⟨n, hn⟩ := of_mapM_eq_ok (within_eq_ok hread) w hw
        exact .inr (isDigit_of_readOctet hn hcw)

theorem notin_of_read (h : read t = .ok bits) (hc : ¬ (c = '.' ∨ c.isDigit = true)) : c ∉ t :=
  fun hmem => hc (mem_of_read h hmem)

theorem dot_mem_of_read (h : read t = .ok bits) : '.' ∈ t := by
  by_contra hnone
  have huncut : pieces (· == '.') t = [t] := pieces_of_uncut fun c hc =>
    beq_false_of_ne (by rintro rfl; exact hnone hc)
  simp only [read, huncut] at h
  split at h
  · cases h
  · cases h

theorem mem_of_text (h : c ∈ text bits) : c = '.' ∨ c.isDigit = true := by
  obtain hdot | ⟨p, hp, hc⟩ := of_mem_joined h
  · exact .inl (List.mem_singleton.mp hdot)
  · obtain ⟨n, -, rfl⟩ := List.mem_map.mp hp
    exact .inr (Nat.isDigit_of_mem_toDigits (by decide) (by decide) hc)

theorem percent_notin_text (bits : Bits) : '%' ∉ text bits := by
  intro h
  obtain h | h := mem_of_text h
  · exact absurd h (by decide)
  · exact absurd h (by decide)

end Ipv4

namespace Ipv6
open Text
variable {n : Nat} {c : Char} {ns : List Nat} {parts : List Text} {bits : Bits}

theorem isSome_of_readGroup {p : Text} (h : readGroup p = .ok n) (hc : c ∈ p) : (digitValue? c).isSome = true := by
  unfold readGroup at h
  split at h
  · cases h
  · rename_i digits hdigits
    exact isSome_of_mapM hdigits c hc

theorem besideGap_eq_ok {outermost : Option Text} {fault : AddressFault} {qs : List Text}
    (h : besideGap outermost fault parts = .ok qs) :
    outermost ≠ some [] ∧ qs = parts ∨ outermost = some [] ∧ parts.length = 1 ∧ qs = [] := by
  unfold besideGap at h
  split at h
  · rename_i hempty
    split at h
    · rename_i hone
      exact .inr ⟨hempty, hone, (Except.ok.inj h).symm⟩
    · cases h
  · rename_i hne
    exact .inl ⟨hne, (Except.ok.inj h).symm⟩

theorem readable_of_besideGap {outermost : Option Text} {fault : AddressFault} {qs : List Text}
    (hout : ∀ p, parts = [p] → outermost = some p) (h : besideGap outermost fault parts = .ok qs)
    (hread : qs.mapM readGroup = .ok ns) :
    ∀ p ∈ parts, p = [] ∨ ∃ n, readGroup p = .ok n := by
  intro p hp
  obtain ⟨-, rfl⟩ | ⟨hempty, hone, -⟩ := besideGap_eq_ok h
  · exact .inr (of_mapM_eq_ok hread p hp)
  · obtain ⟨q, rfl⟩ := List.length_eq_one_iff.mp hone
    rw [List.mem_singleton.mp hp]
    have hq := (hout q rfl).symm.trans hempty
    exact .inl (Option.some.inj hq)

theorem mem_gaps_iff {i : Nat} : i ∈ gaps parts ↔ 0 < i ∧ i + 1 < parts.length ∧ parts[i]? = some [] := by
  rw [gaps, List.mem_filter, List.mem_range]
  simp only [Bool.and_eq_true, decide_eq_true_eq, beq_iff_eq, and_assoc]
  exact and_iff_right_of_imp fun h => Nat.lt_of_succ_lt h.2.1

/-- The parts are groups only, or there is one gap with groups on both sides, and this is the number they make up. -/
inductive Reads (t : Text) (parts : List Text) : Bits → Prop
  | full {ns : List Nat} : gaps parts = [] → parts.length = 8 → parts.head? ≠ some [] → parts.getLast? ≠ some [] →
      parts.mapM readGroup = .ok ns → Reads t parts (ofGroups ns)
  | gap {gap : Nat} {high low : List Text} {ms ns : List Nat} : gaps parts = [gap] →
      besideGap parts.head? (.leadingColon t) (parts.take gap) = .ok high →
      besideGap parts.getLast? (.trailingColon t) (parts.drop (gap + 1)) = .ok low →
      high.length + low.length < 8 → high.mapM readGroup = .ok ms → low.mapM readGroup = .ok ns →
      Reads t parts (ofGroups (ms ++ List.replicate (8 - (ms.length + ns.length)) 0 ++ ns))

/-- What is read is what its parts come to, with a dotted last part as two groups. -/
theorem read_cases {t : Text} (h : read t = .ok bits) :
    ∃ parts, expandTail t (pieces (· == ':') t) = .ok parts ∧ Reads t parts bits := by
  unfold read at h
  replace h := (of_guard_eq_ok h).2
  replace h := (of_guard_eq_ok h).2
  obtain ⟨parts, hparts, h⟩ := of_bind_eq_ok h
  replace h := (of_guard_eq_ok h).2
  refine ⟨parts, hparts, ?_⟩
  dsimp only at h
  split at h
  · rename_i hgaps
    obtain ⟨hlength, h⟩ := of_guard_eq_ok h
    obtain ⟨hhead, h⟩ := of_guard_eq_ok h
    obtain ⟨hlast, h⟩ := of_guard_eq_ok h
    obtain ⟨ns, hns, h⟩ := of_bind_eq_ok h
    cases h
    exact .full hgaps (Decidable.not_not.mp hlength) hhead hlast (within_eq_ok hns)
  · rename_i gap hgaps
    obtain ⟨high, hhigh, h⟩ := of_bind_eq_ok h
    obtain ⟨low, hlow, h⟩ := of_bind_eq_ok h
    obtain ⟨hlength, h⟩ := of_guard_eq_ok h
    obtain ⟨ms, hms, h⟩ := of_bind_eq_ok h
    obtain ⟨ns, hns, h⟩ := of_bind_eq_ok h
    cases h
    exact .gap hgaps hhigh hlow (Nat.lt_of_not_le hlength) (within_eq_ok hms) (within_eq_ok hns)
  · cases h

theorem split_at_gap {gap : Nat} (h : gap ∈ gaps parts) :
    parts.take gap ++ [] :: parts.drop (gap + 1) = parts ∧ (parts.take gap).length = gap ∧
      parts.take gap ≠ [] ∧ parts.drop (gap + 1) ≠ [] := by
  obtain ⟨hpos, hinside, hgap⟩ := mem_gaps_iff.mp h
  have hlt : gap < parts.length := Nat.lt_of_succ_lt hinside
  have hempty : parts[gap] = [] := by simpa [List.getElem?_eq_getElem hlt] using hgap
  refine ⟨?_, List.length_take_of_le (Nat.le_of_lt hlt), ?_, ?_⟩
  · rw [← hempty, List.getElem_cons_drop, List.take_append_drop]
  · exact List.ne_nil_of_length_pos (by rwa [List.length_take_of_le (Nat.le_of_lt hlt)])
  · exact List.ne_nil_of_length_pos (by rw [List.length_drop]; omega)

theorem Reads.readable {t : Text} (h : Reads t parts bits) : ∀ p ∈ parts, p = [] ∨ ∃ n, readGroup p = .ok n := by
  cases h with
  | full _ _ _ _ hread => exact fun p hp => .inr (of_mapM_eq_ok hread p hp)
  | @gap gap _ _ _ _ hgaps hhigh hlow _ hreadHigh hreadLow =>
    obtain ⟨hparts, -⟩ := split_at_gap (hgaps ▸ List.mem_singleton_self gap)
    intro p hp
    rw [← hparts, List.mem_append, List.mem_cons] at hp
    rcases hp with hp | rfl | hp
    · refine readable_of_besideGap (fun q hq => ?_) hhigh hreadHigh p hp
      rw [← hparts, hq]
      rfl
    · exact .inl rfl
    · refine readable_of_besideGap (fun q hq => ?_) hlow hreadLow p hp
      rw [← hparts, hq]
      simp

theorem mem_of_expandTail {t w : Text} {ps : List Text} (h : expandTail t ps = .ok parts) (hw : w ∈ ps) :
    w ∈ parts ∨ ∃ bits, Ipv4.read w = .ok bits := by
  unfold expandTail at h
  split at h
  · rename_i last hlast
    split at h
    · obtain ⟨bits, hread, h⟩ := of_bind_eq_ok h
      cases h
      rw [← List.dropLast_append_getLast? last hlast, List.mem_append, List.mem_singleton] at hw
      obtain hw | rfl := hw
      · exact .inl (List.mem_append_left _ hw)
      · exact .inr ⟨bits, within_eq_ok hread⟩
    · cases h
      exact .inl hw
  · cases h
    exact .inl hw

theorem mem_of_read {t : Text} (h : read t = .ok bits) (hc : c ∈ t) :
    c = ':' ∨ (digitValue? c).isSome = true ∨ c = '.' ∨ c.isDigit = true := by
  obtain ⟨parts, hexpand, hparts⟩ := read_cases h
  obtain hcolon | ⟨w, hw, hcw⟩ := mem_pieces_of_mem (· == ':') hc
  · exact .inl (eq_of_beq hcolon)
  · obtain hmem | ⟨bits', hread⟩ := mem_of_expandTail hexpand hw
    · obtain rfl | ⟨n, hn⟩ := hparts.readable w hmem
      · cases hcw
      · exact .inr (.inl (isSome_of_readGroup hn hcw))
    · exact .inr (.inr (Ipv4.mem_of_read hread hcw))

theorem percent_notin_of_read {t : Text} (h : read t = .ok bits) : '%' ∉ t := by
  intro hc
  obtain hc | hc | hc | hc := mem_of_read h hc
  all_goals exact absurd hc (by decide)

theorem percent_notin_text (bits : Bits) : '%' ∉ text bits := percent_notin_of_read (read_text bits)

end Ipv6

namespace Address
open Text
variable {a : Address} {t : Text}

/-- The address has a zone. -/
def IsScoped : Address → Prop
  | .v6 _ (some _) => True
  | _ => False

instance : DecidablePred IsScoped
  | .v4 _ => .isFalse id
  | .v6 _ none => .isFalse id
  | .v6 _ (some _) => .isTrue trivial

theorem fullText_returns_iff (a : Address) : (∃ t, a.fullText = .ok t) ↔ ¬ a.IsScoped := by
  cases a with
  | v4 bits => exact iff_of_true ⟨_, rfl⟩ id
  | v6 bits zone =>
    cases zone with
    | none =>
      refine iff_of_true ⟨Ipv6.fullText bits, ?_⟩ id
      rw [fullText, text, Ipv6.read_text]
      rfl
    | some zone =>
      refine iff_of_false ?_ fun h => h trivial
      rintro ⟨t, ht⟩
      rw [fullText, text] at ht
      obtain ⟨bits', hread, -⟩ := of_map_eq_ok ht
      exact Ipv6.percent_notin_of_read hread (by simp)

theorem percent_notin_text (h : ¬ a.IsScoped) : '%' ∉ a.text := by
  cases a with
  | v4 bits => exact Ipv4.percent_notin_text bits
  | v6 bits zone =>
    cases zone with
    | none => exact Ipv6.percent_notin_text bits
    | some zone => exact absurd trivial h

theorem splitZone_of_bare (h : '%' ∉ t) : splitZone t = .ok (t, none) := by
  rw [splitZone, cutAtFirst_of_notin h]

theorem splitZone_of_percent {front behind : Text} (h : '%' ∉ front) :
    splitZone (front ++ '%' :: behind) = if behind.isEmpty || behind.contains '%' then
      .error (.zone (front ++ '%' :: behind)) else .ok (front, some behind) := by
  rw [splitZone, cutAtFirst_of_mark h]

theorem splitZone_eq_ok {bare : Text} {zone : Option Text} (h : splitZone t = .ok (bare, zone)) :
    zone = none ∧ t = bare ∨ ∃ z, zone = some z ∧ t = bare ++ '%' :: z ∧ '%' ∉ bare ∧ z ≠ [] ∧ '%' ∉ z := by
  by_cases hpercent : '%' ∈ t
  · obtain ⟨front, behind, rfl, hfront⟩ := List.eq_append_cons_of_mem hpercent
    rw [splitZone_of_percent hfront] at h
    split at h
    · cases h
    · rename_i hzone
      cases h
      simp only [Bool.or_eq_true, List.isEmpty_iff, List.contains_iff_mem, not_or] at hzone
      exact .inr ⟨behind, rfl, rfl, hfront, hzone⟩
  · rw [splitZone_of_bare hpercent] at h
    cases h
    exact .inl ⟨rfl, rfl⟩

theorem read4_eq_ok (h : read4 t = .ok a) : ∃ bits, Ipv4.read t = .ok bits ∧ a = .v4 bits := by
  unfold read4 at h
  split at h
  · cases h
  · exact of_map_eq_ok h

theorem read?_cases (h : read? t = some a) :
    (∃ bits, Ipv4.read t = .ok bits ∧ a = .v4 bits) ∨
    ∃ bare zone bits, '/' ∉ t ∧ splitZone t = .ok (bare, zone) ∧ Ipv6.read bare = .ok bits ∧ a = .v6 bits zone := by
  unfold read? at h
  cases hfour : read4 t with
  | ok b =>
    rw [hfour] at h
    cases h
    exact .inl (read4_eq_ok hfour)
  | error f =>
    cases hsix : read6 t with
    | error f' => rw [hfour, hsix] at h; cases h
    | ok b =>
      rw [hfour, hsix] at h
      cases h
      unfold read6 at hsix
      obtain ⟨hslash, hsix⟩ := of_guard_eq_ok hsix
      obtain ⟨⟨bare, zone⟩, hsplit, hsix⟩ := of_bind_eq_ok hsix
      obtain ⟨bits, hbits, hsix⟩ := of_bind_eq_ok hsix
      cases hsix
      exact .inr ⟨bare, zone, bits, by simpa using hslash, hsplit, hbits, rfl⟩

theorem isScoped_of_unmapped (h : a.unmapped.IsScoped) : a.IsScoped := by
  cases a with
  | v4 bits => exact h
  | v6 bits zone =>
    cases hshort : Ipv6.mapped? bits with
    | some short => simp only [unmapped, hshort] at h; cases h
    | none => simpa only [unmapped, hshort] using h

theorem percent_mem_of_read? (h : read? t = some a) (hs : a.IsScoped) : '%' ∈ t := by
  obtain ⟨bits, -, rfl⟩ | ⟨bare, zone, bits, -, hsplit, -, rfl⟩ := read?_cases h
  · cases hs
  · obtain ⟨rfl, -⟩ | ⟨z, -, rfl, -⟩ := splitZone_eq_ok hsplit
    · cases hs
    · simp

theorem percent_mem_of_parse? (h : parse? t = some a) (hs : a.IsScoped) : '%' ∈ t := by
  obtain ⟨b, hread, rfl⟩ := Option.map_eq_some_iff.mp h
  exact of_mem_trimmed (percent_mem_of_read? hread (isScoped_of_unmapped hs))

/-! Addresses of a family -/

theorem read4_of_read {bits : Ipv4.Bits} (h : Ipv4.read t = .ok bits) : read4 t = .ok (.v4 bits) := by
  have hslash : ¬ t.contains '/' = true :=
    fun hc => Ipv4.notin_of_read h (by decide) (List.contains_iff_mem.mp hc)
  rw [read4, if_neg hslash, h]
  rfl

theorem read6_of_splitZone {bare : Text} {zone : Option Text} {bits : Ipv6.Bits} (hslash : '/' ∉ t)
    (hsplit : splitZone t = .ok (bare, zone)) (hread : Ipv6.read bare = .ok bits) : read6 t = .ok (.v6 bits zone) := by
  unfold read6
  simp only [List.contains_eq_mem, hslash, decide_false, Bool.false_eq_true, if_false, hsplit, ok_bind, hread]
  rfl

theorem read?_of_read6 (hcolon : ':' ∈ t) (h : read6 t = .ok a) : read? t = some a := by
  unfold read?
  cases hfour : read4 t with
  | ok b =>
    obtain ⟨bits, hbits, -⟩ := read4_eq_ok hfour
    exact absurd (Ipv4.mem_of_read hbits hcolon) (by decide)
  | error f =>
    rw [h]
    rfl

theorem read?_of_bare (h : '%' ∉ t) (ha : read? t = some a) :
    (∃ bits, Ipv4.read t = .ok bits ∧ a = .v4 bits) ∨ ∃ bits, Ipv6.read t = .ok bits ∧ a = .v6 bits none := by
  obtain hfour | ⟨bare, zone, bits, -, hsplit, hbits, rfl⟩ := read?_cases ha
  · exact .inl hfour
  · rw [splitZone_of_bare h] at hsplit
    cases hsplit
    exact .inr ⟨bits, hbits, rfl⟩

end Address
end SenderPolicy
