import SenderPolicy.Address.Network
import SenderPolicy.Proofs.Address.Prefix
import SenderPolicy.Proofs.Address.RoundTrip

/-!
When an address is in a network. A text of a network denotes an address and the number of its bits that count, and what
is in the network are the addresses that share these bits. The comparison is also told with each of its steps that could
fail: the bits that do not count are cleared, a network of addresses that stand for shorter ones is written out as a
network of the shorter family, and that is read by a reader that refuses bits that do not count.
-/
namespace SenderPolicy
open Text

namespace Address
variable {a b : Address} {n : Nat}

/-- The number of bits of the family. -/
def width : Address → Nat
  | .v4 _ => 32
  | .v6 _ _ => 128

/-- The two are of one family, and their first bits, so many, agree. -/
def SharesPrefix (n : Nat) : Address → Address → Prop
  | .v4 a, .v4 b => AgreeUpTo n a b
  | .v6 a _, .v6 b _ => AgreeUpTo n a b
  | _, _ => False

instance : Decidable (SharesPrefix n a b) :=
  match a, b with
  | .v4 a, .v4 b => inferInstanceAs (Decidable (AgreeUpTo n a b))
  | .v6 a _, .v6 b _ => inferInstanceAs (Decidable (AgreeUpTo n a b))
  | .v4 _, .v6 _ _ => .isFalse id
  | .v6 _ _, .v4 _ => .isFalse id

/-- The address stands for a shorter one. -/
def IsMapped (a : Address) : Prop := ∃ short zone, a = .v6 (Ipv6.mapping short) zone

theorem isMapped_v6 {bits : Ipv6.Bits} {zone : Option Text} :
    IsMapped (.v6 bits zone) ↔ (Ipv6.mapped? bits).isSome := by
  constructor
  · rintro ⟨short, zone', h⟩
    cases h
    rw [Ipv6.mapped?_mapping]
    rfl
  · intro h
    obtain ⟨short, hshort⟩ := Option.isSome_iff_exists.mp h
    exact ⟨short, zone, by rw [Ipv6.mapped?_eq_some_iff.mp hshort]⟩

instance : DecidablePred IsMapped
  | .v4 _ => .isFalse fun ⟨_, _, h⟩ => nomatch h
  | .v6 bits _ => decidable_of_iff ((Ipv6.mapped? bits).isSome) isMapped_v6.symm

theorem unmapped_mapping (short : Ipv4.Bits) (zone : Option Text) :
    unmapped (.v6 (Ipv6.mapping short) zone) = .v4 short := by
  simp only [unmapped, Ipv6.mapped?_mapping]

theorem unmapped_of_not_isMapped (h : ¬ a.IsMapped) : a.unmapped = a := by
  cases a with
  | v4 bits => rfl
  | v6 bits zone =>
    rw [isMapped_v6, Option.not_isSome_iff_eq_none] at h
    simp only [unmapped, h]

/-- Without the bits that are fixed, no more bits are left than the shorter address has. -/
theorem IsMapped.le_width (h : a.IsMapped) (hn : n ≤ a.width) : n - 96 ≤ a.unmapped.width := by
  obtain ⟨short, zone, rfl⟩ := h
  rw [unmapped_mapping]
  exact Nat.sub_le_of_le_add hn

theorem not_isMapped_unmapped (a : Address) : ¬ a.unmapped.IsMapped := by
  by_cases h : a.IsMapped
  · obtain ⟨short, zone, rfl⟩ := h
    rw [unmapped_mapping]
    rintro ⟨_, _, h⟩
    cases h
  · rwa [unmapped_of_not_isMapped h]

theorem SharesPrefix.isMapped (h : a.SharesPrefix n b) (hb : b.IsMapped) (hn : 96 ≤ n) : a.IsMapped := by
  obtain ⟨short, zone, rfl⟩ := hb
  cases a with
  | v4 bits => exact absurd h id
  | v6 bits zone' =>
    rw [isMapped_v6, Ipv6.isSome_mapped?_iff]
    intro i hi
    rw [h.mono hn i hi]
    exact Ipv6.agreeUpTo_mapping short 0 i hi

end Address

namespace Network
variable {a b : Address} {n : Nat} {t : Text} {network : Network}

def around : Address → Nat → Network
  | .v4 bits, n => .v4 bits n
  | .v6 bits _, n => .v6 bits n

/-- What a text of a network says: an address, and how many of its bits count. The length may be left out or is written
in digits; for the shorter family it may be written as a mask, too. -/
inductive Denotes : Text → Address → Nat → Prop
  | alone {host a} : Address.read? host = some a → Denotes host a a.width
  | length {host digits a} : Address.read? host = some a → digits ≠ [] → (∀ c ∈ digits, c.isDigit = true) →
      digits.length ≤ maxDigits → Ipv4.readDigits digits ≤ a.width →
      Denotes (host ++ '/' :: digits) a (Ipv4.readDigits digits)
  | mask {host written bits mask n} : Address.read? host = some (.v4 bits) → Ipv4.read written = .ok mask →
      maskLength? mask = some n → Denotes (host ++ '/' :: written) (.v4 bits) n

theorem Denotes.decimal (ha : Address.read? t = some a) (hn : n ≤ a.width) : Denotes (t ++ '/' :: decimal n) a n := by
  have hwidth : a.width ≤ 128 := by cases a <;> simp [Address.width]
  have hthree : (Text.decimal n).length ≤ 3 := (Nat.length_toDigits_le_iff (by decide) (by decide)).mpr (by omega)
  have h := Denotes.length ha (decimal_ne_nil n) (fun c => isDigit_of_mem_decimal)
    (Nat.le_trans hthree (by decide)) (by rwa [readDigits_decimal])
  rwa [readDigits_decimal] at h

theorem readLength?_eq_some_iff {most : Nat} {digits : Text} :
    readLength? most digits = some n ↔ digits ≠ [] ∧ (∀ c ∈ digits, c.isDigit = true) ∧ digits.length ≤ maxDigits ∧
      Ipv4.readDigits digits ≤ most ∧ Ipv4.readDigits digits = n := by
  simp [readLength?, and_assoc]

theorem readLength?_of_mask {most : Nat} {written : Text} {mask : Ipv4.Bits} (h : Ipv4.read written = .ok mask) :
    readLength? most written = none := by
  rw [Option.eq_none_iff_forall_ne_some]
  intro n hn
  obtain ⟨-, hdigits, -⟩ := readLength?_eq_some_iff.mp hn
  exact absurd (hdigits '.' (Ipv4.dot_mem_of_read h)) (by decide)

theorem readLength4?_cases {written : Text} (h : readLength4? written = some n) :
    readLength? 32 written = some n ∨ ∃ mask, Ipv4.read written = .ok mask ∧ maskLength? mask = some n := by
  unfold readLength4? at h
  split at h
  · rename_i hdigits
    exact .inl (hdigits.trans h)
  · obtain ⟨mask, hmask, hn⟩ := Option.bind_eq_some_iff.mp h
    exact .inr ⟨mask, eq_ok_of_toOption hmask, hn⟩

theorem maskLength?_le {mask : Ipv4.Bits} (h : maskLength? mask = some n) : n ≤ 32 := by
  have hrange {p : Nat → Bool} (h : (List.range 33).find? p = some n) : n ≤ 32 :=
    Nat.le_of_lt_succ (List.mem_range.mp (List.mem_of_find?_eq_some h))
  unfold maskLength? at h
  split at h
  · rename_i hones
    cases h
    exact hrange hones
  · exact hrange h

theorem Denotes.le_width (h : Denotes t a n) : n ≤ a.width := by
  cases h with
  | alone _ => exact Nat.le_refl _
  | length _ _ _ _ hn => exact hn
  | mask _ _ hn => exact maskLength?_le hn

theorem Denotes.read? (h : Denotes t a n) : read? t = some (around a n) := by
  cases h with
  | alone ha =>
    rw [Network.read?, cutAtFirst_of_notin (Address.slash_notin_of_read? ha)]
    cases a <;> simp [ha, around, Address.width]
  | length ha hne hdigits hlong hn =>
    rw [Network.read?, cutAtFirst_of_mark (Address.slash_notin_of_read? ha)]
    have hlength := readLength?_eq_some_iff.mpr ⟨hne, hdigits, hlong, hn, rfl⟩
    cases a with
    | v4 bits => simp [ha, readLength4?, show readLength? 32 _ = some _ from hlength, around]
    | v6 bits zone => simp [ha, show readLength? 128 _ = some _ from hlength, around]
  | mask ha hmask hn =>
    rw [Network.read?, cutAtFirst_of_mark (Address.slash_notin_of_read? ha)]
    simp [ha, readLength4?, readLength?_of_mask hmask, hmask, Except.toOption, hn, around]

theorem denotes_of_read? (h : read? t = some network) : ∃ a n, Denotes t a n ∧ network = around a n := by
  unfold read? at h
  by_cases hslash : '/' ∈ t
  · obtain ⟨host, length, rfl, hhost⟩ := List.eq_append_cons_of_mem hslash
    rw [cutAtFirst_of_mark hhost] at h
    dsimp only at h
    cases ha : Address.read? host with
    | none => rw [ha] at h; cases h
    | some a =>
      rw [ha] at h
      cases a with
      | v4 bits =>
        obtain ⟨n, hn, rfl⟩ := Option.map_eq_some_iff.mp h
        obtain hn | ⟨mask, hmask, hn⟩ := readLength4?_cases hn
        · obtain ⟨hne, hdigits, hlong, hmost, rfl⟩ := readLength?_eq_some_iff.mp hn
          exact ⟨_, _, .length ha hne hdigits hlong hmost, rfl⟩
        · exact ⟨_, _, .mask ha hmask hn, rfl⟩
      | v6 bits zone =>
        obtain ⟨n, hn, rfl⟩ := Option.map_eq_some_iff.mp h
        obtain ⟨hne, hdigits, hlong, hmost, rfl⟩ := readLength?_eq_some_iff.mp hn
        exact ⟨_, _, .length ha hne hdigits hlong hmost, rfl⟩
  · rw [cutAtFirst_of_notin hslash] at h
    dsimp only at h
    cases ha : Address.read? t with
    | none => rw [ha] at h; cases h
    | some a =>
      rw [ha] at h
      refine ⟨a, a.width, .alone ha, ?_⟩
      cases a with
      | v4 bits => exact (Option.some.inj h).symm
      | v6 bits zone => exact (Option.some.inj h).symm

theorem contains_around (h : n ≤ b.width) : (around b n).contains a = true ↔ a.SharesPrefix n b := by
  cases a with
  | v4 a =>
    cases b with
    | v4 b =>
      rw [around, contains, beq_iff_eq, eq_comm]
      exact (agreeUpTo_iff_div h).symm
    | v6 b zone => exact iff_of_false Bool.false_ne_true id
  | v6 a zone =>
    cases b with
    | v4 b => exact iff_of_false Bool.false_ne_true id
    | v6 b zone =>
      rw [around, contains, beq_iff_eq, eq_comm]
      exact (agreeUpTo_iff_div h).symm

/-- Where all bits that are fixed count, a network of addresses that stand for shorter ones is a network of those. -/
theorem unmapped_around (b : Address) (n : Nat) :
    (around b n).unmapped = if b.IsMapped ∧ 96 ≤ n then around b.unmapped (n - 96) else around b n := by
  by_cases hmapped : b.IsMapped
  · obtain ⟨short, zone, rfl⟩ := hmapped
    rw [Address.unmapped_mapping]
    have hmapped : (Address.v6 (Ipv6.mapping short) zone).IsMapped := ⟨short, zone, rfl⟩
    simp only [around, unmapped, Ipv6.mapped?_mapping, hmapped, true_and]
  · rw [if_neg (fun h => hmapped h.1)]
    cases b with
    | v4 bits => rfl
    | v6 bits zone =>
      rw [Address.isMapped_v6, Option.not_isSome_iff_eq_none] at hmapped
      simp only [around, unmapped, hmapped]

/-! Each step that could fail -/

/-- Why no network is built from a text: it is none, or a bit is set that does not count. -/
inductive NetworkFault
  | malformed
  | looseBits

def cleared : Network → Network
  | .v4 bits n => .v4 (bits &&& prefixMask 32 n) n
  | .v6 bits n => .v6 (bits &&& prefixMask 128 n) n

/-- Reads a network of the shorter family. Only bits that count may be set. -/
def readStrict (t : Text) : Except NetworkFault Network :=
  match read? t with
  | some (.v4 bits n) => if bits &&& prefixMask 32 n = bits then .ok (.v4 bits n) else .error .looseBits
  | _ => .error .malformed

/-- A network of addresses that stand for shorter ones is written as one of those, and read strictly. -/
def rewritten : Network → Except NetworkFault Network
  | .v4 bits n => .ok (.v4 bits n)
  | .v6 bits n =>
    match Ipv6.mapped? bits with
    | some short =>
      if 96 ≤ n then readStrict (Ipv4.text short ++ '/' :: Text.decimal (n - 96)) else .ok (.v6 bits n)
    | none => .ok (.v6 bits n)

def holds : Network → Address → Bool
  | .v4 bits n, .v4 a => a &&& prefixMask 32 n == bits
  | .v6 bits n, .v6 a _ => a &&& prefixMask 128 n == bits
  | _, _ => false

/-- The comparison of an address with a network, step by step. -/
def compare (address network : Text) : Except NetworkFault Bool :=
  match Address.parse? address, read? (trim network) with
  | some a, some n => n.cleared.rewritten.map (·.holds a)
  | _, _ => .ok false

theorem readStrict_text (bits : Ipv4.Bits) (h : n ≤ 32) :
    readStrict (Ipv4.text (bits &&& prefixMask 32 n) ++ '/' :: Text.decimal n) =
      .ok (.v4 (bits &&& prefixMask 32 n) n) := by
  have hread : Address.read? (Ipv4.text (bits &&& prefixMask 32 n)) = some (.v4 (bits &&& prefixMask 32 n)) :=
    Address.read?_text (a := .v4 _) trivial
  rw [readStrict, (Denotes.decimal hread h).read?]
  exact if_pos (by rw [BitVec.and_assoc, BitVec.and_self])

theorem rewritten_cleared (h : n ≤ b.width) :
    (around b n).cleared.rewritten = .ok (around b n).unmapped.cleared := by
  cases b with
  | v4 bits => rfl
  | v6 bits zone =>
    simp only [around, cleared, rewritten, unmapped]
    by_cases hlow : 96 ≤ n
    · rw [Ipv6.mapped?_and_prefixMask hlow h]
      cases Ipv6.mapped? bits with
      | none => rfl
      | some short =>
        have hshort : n - 96 ≤ 32 := by simp only [Address.width] at h; omega
        simp only [Option.map_some, if_pos hlow, readStrict_text short hshort]
    · simp only [if_neg hlow]
      cases Ipv6.mapped? (bits &&& prefixMask 128 n) <;> cases Ipv6.mapped? bits <;> rfl

theorem holds_cleared (h : n ≤ b.width) : (around b n).cleared.holds a = (around b n).contains a := by
  rw [Bool.eq_iff_iff, contains_around h]
  cases a with
  | v4 a =>
    cases b with
    | v4 b =>
      simp only [around, cleared, holds, beq_iff_eq]
      exact (agreeUpTo_iff_masked h).symm
    | v6 b zone => exact iff_of_false Bool.false_ne_true id
  | v6 a zone =>
    cases b with
    | v4 b => exact iff_of_false Bool.false_ne_true id
    | v6 b zone =>
      simp only [around, cleared, holds, beq_iff_eq]
      exact (agreeUpTo_iff_masked h).symm

theorem exists_unmapped_around (h : n ≤ b.width) : ∃ c m, m ≤ c.width ∧ (around b n).unmapped = around c m := by
  rw [unmapped_around]
  split_ifs with hmapped
  · exact ⟨b.unmapped, n - 96, hmapped.1.le_width h, rfl⟩
  · exact ⟨b, n, h, rfl⟩

theorem compare_eq (address network : Text) :
    compare address network = .ok (Address.matchesNetwork address network) := by
  unfold compare Address.matchesNetwork parse?
  cases Address.parse? address with
  | none => rfl
  | some a =>
    cases hread : read? (trim network) with
    | none => rfl
    | some n =>
      obtain ⟨b, k, hdenotes, rfl⟩ := denotes_of_read? hread
      obtain ⟨c, m, hm, hunmapped⟩ := exists_unmapped_around hdenotes.le_width
      simp only [rewritten_cleared hdenotes.le_width, Option.map_some, hunmapped, Except.map, holds_cleared hm]

end Network

namespace Address
variable {x y : Text} {a b : Address} {n : Nat}

theorem matchesNetwork_iff (ha : read? (trim x) = some a) (hb : Network.Denotes (trim y) b n) :
    matchesNetwork x y = true ↔
      if b.IsMapped ∧ 96 ≤ n then a.unmapped.SharesPrefix (n - 96) b.unmapped else a.unmapped.SharesPrefix n b := by
  simp only [matchesNetwork, parse?, Network.parse?, ha, hb.read?, Option.map_some, Network.unmapped_around]
  split_ifs with hmapped
  · exact Network.contains_around (hmapped.1.le_width hb.le_width)
  · exact Network.contains_around hb.le_width

theorem matchesNetwork_of_malformed (h : read? (trim x) = none ∨ ∀ b n, ¬ Network.Denotes (trim y) b n) :
    matchesNetwork x y = false := by
  unfold matchesNetwork parse? Network.parse?
  obtain h | h := h
  · rw [h]
    rfl
  · cases hread : Network.read? (trim y) with
    | none => cases (read? (trim x)).map unmapped <;> rfl
    | some network =>
      obtain ⟨b, n, hdenotes, -⟩ := Network.denotes_of_read? hread
      exact absurd hdenotes (h b n)

/-- An address is in a network exactly if it shares the bits of the network that count. An address that stands for a
shorter one is taken for that, and so is the network where all the bits that are fixed count. Nothing is in a network of
which either text is malformed, and no step of the comparison fails. -/
theorem matchesNetwork_decides (x y : Text) :
    (∀ a b n, read? (trim x) = some a → Network.Denotes (trim y) b n →
      (matchesNetwork x y = true ↔
        if b.IsMapped ∧ 96 ≤ n then a.unmapped.SharesPrefix (n - 96) b.unmapped
        else a.unmapped.SharesPrefix n b)) ∧
    (read? (trim x) = none ∨ (∀ b n, ¬ Network.Denotes (trim y) b n) → matchesNetwork x y = false) ∧
    Network.compare x y = .ok (matchesNetwork x y) :=
  ⟨fun _ _ _ ha hb => matchesNetwork_iff ha hb, matchesNetwork_of_malformed, Network.compare_eq x y⟩

/-- With one bit less than are fixed, the network is one of longer addresses only. -/
example : matchesNetwork "::ffff:192.0.2.77" "::ffff:0:0/95" = false := by decide +kernel

theorem mapped_address_in_mapped_network :
    read? (trim "::ffff:192.0.2.77") = some (.v6 (Ipv6.mapping 0xC000024D) none) ∧
      Network.Denotes (trim "::ffff:192.0.2.64/122") (.v6 (Ipv6.mapping 0xC0000240) none) 122 ∧
      matchesNetwork "::ffff:192.0.2.77" "::ffff:192.0.2.64/122" = true := by
  have ha : read? (trim "::ffff:192.0.2.77") = some (.v6 (Ipv6.mapping 0xC000024D) none) := by decide +kernel
  have hb : read? "::ffff:192.0.2.64" = some (.v6 (Ipv6.mapping 0xC0000240) none) := by decide +kernel
  have htext : trim "::ffff:192.0.2.64/122" = "::ffff:192.0.2.64".toList ++ '/' :: decimal 122 := by decide +kernel
  have hdenotes : Network.Denotes (trim "::ffff:192.0.2.64/122") (.v6 (Ipv6.mapping 0xC0000240) none) 122 := by
    rw [htext]
    exact .decimal hb (by decide)
  refine ⟨ha, hdenotes, ((matchesNetwork_decides _ _).1 _ _ _ ha hdenotes).mpr ?_⟩
  rw [if_pos ⟨⟨_, _, rfl⟩, by decide⟩, unmapped_mapping, unmapped_mapping]
  decide

end Address
end SenderPolicy
