import SenderPolicy.Proofs.Standard.Networks

/-!
The text of an address that has been read is read back as the address: of one that stands for a shorter address, the
text of the shorter one. Blanks, which are dropped around a text that is read, stand nowhere at its ends.
-/
namespace SenderPolicy
open Text

namespace Ipv4

theorem ofOctets_octets (bits : Bits) : ofOctets (octets bits) = bits := by
  have hlt := bits.isLt
  have hsum : (octets bits).foldl (fun n o => 256 * n + o) 0 = bits.toNat := by
    simp only [octets, List.foldl_cons, List.foldl_nil]
    omega
  rw [ofOctets, hsum, BitVec.ofNat_toNat, BitVec.setWidth_eq]

theorem read_text (bits : Bits) : read (text bits) = .ok bits := by
  have hoctet (n : Nat) : n % 256 < 256 := Nat.mod_lt n (by decide)
  have hread := Standard.read_quad (hoctet (bits.toNat / 16777216)) (hoctet (bits.toNat / 65536))
    (hoctet (bits.toNat / 256)) (hoctet bits.toNat)
  calc
    read (text bits) = .ok (ofOctets (octets bits)) := hread
    _ = .ok bits := by rw [ofOctets_octets]

theorem isBlank_of_read {c : Char} {t : Text} {bits : Bits} (h : read t = .ok bits) (hc : c ∈ t) :
    isBlank c = false := by
  obtain rfl | hdigit := mem_of_read h hc
  · decide
  · exact isBlank_of_isDigit hdigit

end Ipv4

namespace Ipv6

theorem isBlank_of_digitValue? {c : Char} (h : (digitValue? c).isSome = true) : isBlank c = false := by
  unfold digitValue? at h
  split_ifs at h with hdigit hlower hupper
  · exact isBlank_of_isDigit hdigit
  · exact isBlank_of_visible (Nat.le_trans (by decide) hlower.1) (Nat.le_trans hlower.2 (by decide))
  · exact isBlank_of_visible (Nat.le_trans (by decide) hupper.1) (Nat.le_trans hupper.2 (by decide))
  · cases h

theorem isBlank_of_read {c : Char} {t : Text} {bits : Bits} (h : read t = .ok bits) (hc : c ∈ t) :
    isBlank c = false := by
  obtain rfl | hhex | rfl | hdigit := mem_of_read h hc
  · decide
  · exact isBlank_of_digitValue? hhex
  · decide
  · exact isBlank_of_isDigit hdigit

end Ipv6

namespace Address
variable {a : Address} {t bare : Text} {zone : Option Text}

/-- A zone can be written if it is not empty and has no percent sign and no slash. -/
def IsWritable : Address → Prop
  | .v6 _ (some zone) => zone ≠ [] ∧ '%' ∉ zone ∧ '/' ∉ zone
  | _ => True

theorem slash_notin_of_read? (h : read? t = some a) : '/' ∉ t := by
  obtain ⟨bits, hbits, -⟩ | ⟨bare, zone, bits, hslash, -⟩ := read?_cases h
  · exact Ipv4.notin_of_read hbits (by decide)
  · exact hslash

theorem isBlank_of_head? {c : Char} (h : read? t = some a) (hc : t.head? = some c) : isBlank c = false := by
  obtain ⟨bits, hbits, -⟩ | ⟨bare, zone, bits, -, hsplit, hbits, -⟩ := read?_cases h
  · exact Ipv4.isBlank_of_read hbits (List.mem_of_head? hc)
  · suffices hbare : c ∈ bare from Ipv6.isBlank_of_read hbits hbare
    obtain ⟨-, rfl⟩ | ⟨z, -, rfl, -⟩ := splitZone_eq_ok hsplit
    · exact List.mem_of_head? hc
    · cases bare with
      | nil => cases hbits
      | cons d r => exact List.mem_cons.mpr (.inl (Option.some.inj hc).symm)

theorem isWritable_of_read? (h : read? t = some a) : a.IsWritable := by
  obtain ⟨bits, -, rfl⟩ | ⟨bare, zone, bits, hslash, hsplit, -, rfl⟩ := read?_cases h
  · trivial
  · obtain ⟨rfl, -⟩ | ⟨z, rfl, rfl, -, hne, hpercent⟩ := splitZone_eq_ok hsplit
    · trivial
    · exact ⟨hne, hpercent, fun hc => hslash (List.mem_append_right _ (List.mem_cons_of_mem _ hc))⟩

theorem read6_text {bits : Ipv6.Bits} (h : IsWritable (.v6 bits zone)) :
    read6 (text (.v6 bits zone)) = .ok (.v6 bits zone) := by
  have hread := Ipv6.read_text bits
  have hpercent := Ipv6.percent_notin_text bits
  have hslash : '/' ∉ Ipv6.text bits := by
    intro hc
    obtain hc | hc | hc | hc := Ipv6.mem_of_read hread hc
    all_goals exact absurd hc (by decide)
  cases zone with
  | none => exact read6_of_splitZone hslash (splitZone_of_bare hpercent) hread
  | some zone =>
    obtain ⟨hne, hone, hbare⟩ := h
    refine read6_of_splitZone ?_ ?_ hread
    · rw [text, List.mem_append, List.mem_cons, not_or, not_or]
      exact ⟨hslash, by decide, hbare⟩
    · rw [text, splitZone_of_percent hpercent, if_neg (by simp [hne, hone])]

theorem colon_mem_text (bits : Ipv6.Bits) (zone : Option Text) : ':' ∈ text (.v6 bits zone) := by
  have hcolon := Standard.colon_mem_of_read (Ipv6.read_text bits)
  cases zone with
  | none => exact hcolon
  | some zone => exact List.mem_append_left _ hcolon

theorem read?_text (h : a.IsWritable) : read? a.text = some a := by
  cases a with
  | v4 bits => rw [text, read?, read4_of_read (Ipv4.read_text bits)]
  | v6 bits zone => exact read?_of_read6 (colon_mem_text bits zone) (read6_text h)

theorem isBlank_of_getLast?_text (h : read? (trim t) = some a) {c : Char} (hc : a.text.getLast? = some c) :
    isBlank c = false := by
  obtain ⟨bits, -, rfl⟩ | ⟨bare, zone, bits, -, hsplit, -, rfl⟩ := read?_cases h
  · exact Ipv4.isBlank_of_read (Ipv4.read_text bits) (List.mem_of_getLast? hc)
  · obtain ⟨rfl, -⟩ | ⟨z, rfl, htrim, -, hne, -⟩ := splitZone_eq_ok hsplit
    · exact Ipv6.isBlank_of_read (Ipv6.read_text bits) (List.mem_of_getLast? hc)
    · -- the zone ends the text that was read as well as the one that is written
      refine isBlank_of_getLast?_trim (t := t) ?_
      rw [htrim, List.append_cons, List.getLast?_append_of_ne_nil _ hne]
      rwa [text, List.append_cons, List.getLast?_append_of_ne_nil _ hne] at hc

theorem parse?_of_writable (hwritable : a.IsWritable) (hunmapped : a.unmapped = a)
    (hlast : ∀ c, a.text.getLast? = some c → isBlank c = false) : parse? a.text = some a := by
  have hread := read?_text hwritable
  rw [parse?, trim_eq_self (fun c hc => isBlank_of_head? hread hc) hlast, hread, Option.map_some, hunmapped]

theorem parse?_text4 (bits : Ipv4.Bits) : parse? (Ipv4.text bits) = some (.v4 bits) :=
  parse?_of_writable (a := .v4 bits) trivial rfl fun _ hc =>
    Ipv4.isBlank_of_read (Ipv4.read_text bits) (List.mem_of_getLast? hc)

/-- An address that was read from a text is read again from its own. -/
theorem parse?_text (h : parse? t = some a) : parse? a.text = some a := by
  obtain ⟨b, hread, rfl⟩ := Option.map_eq_some_iff.mp h
  cases b with
  | v4 bits => exact parse?_text4 bits
  | v6 bits zone =>
    cases hmapped : Ipv6.mapped? bits with
    | some short =>
      simp only [unmapped, hmapped]
      exact parse?_text4 short
    | none =>
      have hself : (Address.v6 bits zone).unmapped = .v6 bits zone := by simp only [unmapped, hmapped]
      rw [hself]
      exact parse?_of_writable (isWritable_of_read? hread) hself fun c hc => isBlank_of_getLast?_text hread hc

end Address
end SenderPolicy
