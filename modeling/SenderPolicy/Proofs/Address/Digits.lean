import SenderPolicy.Proofs.Address.Spelling

/-!
The digits of an address: what a group of an address denotes in four hexadecimal digits, and the groups and octets that
are read are those of the address.
-/
namespace SenderPolicy

namespace Text

theorem hexadecimal_succ (width n : Nat) :
    hexadecimal (width + 2) n = hexadecimal (width + 1) (n / 16) ++ [Nat.digitChar (n % 16)] := by
  unfold hexadecimal
  dsimp only
  by_cases hsmall : n < 16
  · rw [Nat.toDigits_of_lt_base hsmall, Nat.div_eq_of_lt hsmall, Nat.mod_eq_of_lt hsmall]
    simp [List.replicate_succ']
  · have hfront (k : Nat) : width + 2 - (k + 1) = width + 1 - k := Nat.add_sub_add_right (width + 1) 1 k
    rw [Nat.toDigits_of_base_le (by decide) (Nat.le_of_not_lt hsmall), List.length_append, List.length_singleton, hfront,
      List.append_assoc]

theorem hexadecimal_zero (width : Nat) : hexadecimal (width + 1) 0 = List.replicate (width + 1) '0' := by
  simp [hexadecimal, List.replicate_succ']

theorem hexadecimal_four {n : Nat} (h : n < 65536) : hexadecimal 4 n =
    [Nat.digitChar (n / 4096), Nat.digitChar (n / 256 % 16), Nat.digitChar (n / 16 % 16), Nat.digitChar (n % 16)] := by
  have hfirst : hexadecimal 1 (n / 16 / 16 / 16) = [Nat.digitChar (n / 4096)] := by
    have hdiv : n / 16 / 16 / 16 = n / 4096 := by omega
    rw [hdiv, hexadecimal, Nat.toDigits_of_lt_base (by omega)]
    rfl
  have hsecond : n / 16 / 16 = n / 256 := by omega
  rw [hexadecimal_succ, hexadecimal_succ, hexadecimal_succ, hfirst, hsecond]
  rfl

end Text

namespace Ipv6
open Text
variable {n width : Nat} {c : Char} {ns digits : List Nat} {g : Text} {gs : List Text}

/-! Digits -/

theorem ascii_of_digitValue? (h : digitValue? c = some n) : c.toNat < 128 := by
  unfold digitValue? at h
  split_ifs at h with hdigit hlower hupper
  · exact ascii_of_isAlphanum (isAlphanum_of_isDigit hdigit)
  · exact Nat.lt_of_le_of_lt hlower.2 (by decide)
  · exact Nat.lt_of_le_of_lt hupper.2 (by decide)

theorem toLower_of_digitValue? (h : digitValue? c = some n) : n < 16 ∧ c.toLower = Nat.digitChar n := by
  have hall : (digitValue? c).all (fun n => decide (n < 16 ∧ c.toLower = Nat.digitChar n)) = true :=
    forall_ascii (P := fun c => (digitValue? c).all (fun n => decide (n < 16 ∧ c.toLower = Nat.digitChar n)) = true)
      (by decide +kernel) (ascii_of_digitValue? h)
  rw [h] at hall
  exact of_decide_eq_true hall

theorem hexadecimal_of_digits (hread : g.mapM digitValue? = some digits) (hlength : g.length ≤ width + 1) :
    (List.replicate (width + 1 - g.length) '0' ++ g).map Char.toLower =
      hexadecimal (width + 1) (digits.foldl (fun n d => 16 * n + d) 0) := by
  induction g using List.reverseRecOn generalizing width digits with
  | nil =>
    obtain rfl : [] = digits := Option.some.inj hread
    rw [List.foldl_nil, hexadecimal_zero]
    simp
  | append_singleton front c ih =>
    obtain ⟨ds, d, hds, hd, rfl⟩ := of_mapM_concat hread
    obtain ⟨hsmall, hlower⟩ := toLower_of_digitValue? hd
    rw [List.foldl_append, List.foldl_cons, List.foldl_nil]
    rw [List.length_append, List.length_singleton] at hlength ⊢
    cases width with
    | zero =>
      obtain rfl : front = [] := List.length_eq_zero_iff.mp (by omega)
      cases hds
      simp [hexadecimal, hlower, Nat.toDigits_of_lt_base hsmall]
    | succ width =>
      have hfront (k : Nat) : width + 2 - (k + 1) = width + 1 - k := Nat.add_sub_add_right (width + 1) 1 k
      have hhigh (m : Nat) : (16 * m + d) / 16 = m := by omega
      have hlow (m : Nat) : (16 * m + d) % 16 = d := by omega
      rw [hexadecimal_succ, hhigh, hlow, ← ih hds (Nat.le_of_succ_le_succ hlength), hfront, ← List.append_assoc,
        List.map_append, List.map_cons, List.map_nil, hlower]

theorem readGroup_eq_ok (h : readGroup g = .ok n) :
    ∃ digits, g.mapM digitValue? = some digits ∧ g.length ≤ 4 ∧ n = digits.foldl (fun n d => 16 * n + d) 0 := by
  unfold readGroup at h
  split at h
  · cases h
  · rename_i digits hdigits
    split at h
    · cases h
    · rename_i hlength
      exact ⟨digits, hdigits, Nat.le_of_not_lt hlength, (Except.ok.inj h).symm⟩

theorem foldl_digits_lt (h : g.mapM digitValue? = some digits) :
    digits.foldl (fun n d => 16 * n + d) 0 < Nat.pow 16 g.length := by
  induction g using List.reverseRecOn generalizing digits with
  | nil =>
    obtain rfl : [] = digits := Option.some.inj h
    decide
  | append_singleton front c ih =>
    obtain ⟨ds, d, hds, hd, rfl⟩ := of_mapM_concat h
    have hfront := ih hds
    have hsmall := (toLower_of_digitValue? hd).1
    have hpow : Nat.pow 16 (front.length + 1) = Nat.pow 16 front.length * 16 := rfl
    rw [List.foldl_append, List.foldl_cons, List.foldl_nil, List.length_append, List.length_singleton, hpow]
    omega

theorem Denotes.lt (h : Denotes g n) : n < 65536 := by
  obtain ⟨digits, hdigits, hlength, rfl⟩ := readGroup_eq_ok h.2
  exact Nat.lt_of_lt_of_le (foldl_digits_lt hdigits) (Nat.pow_le_pow_right (by decide) hlength)

def padded (g : Text) : Text := List.replicate (4 - g.length) '0' ++ g

theorem Denotes.padded (h : Denotes g n) : (padded g).map Char.toLower = hexadecimal 4 n := by
  obtain ⟨digits, hdigits, hlength, rfl⟩ := readGroup_eq_ok h.2
  exact hexadecimal_of_digits hdigits hlength

theorem Denotes.isSome_digitValue? (h : Denotes g n) : ∀ c ∈ Ipv6.padded g, (digitValue? c).isSome = true := by
  rw [Ipv6.padded, List.forall_mem_append]
  refine ⟨fun c hc => ?_, fun c hc => isSome_of_readGroup h.2 hc⟩
  rw [List.eq_of_mem_replicate hc]
  rfl

theorem Denotes.notin (h : Denotes g n) {d : Char} (hd : digitValue? d = none) : d ∉ g := by
  intro hmem
  have hsome := isSome_of_readGroup h.2 hmem
  rw [hd] at hsome
  cases hsome

theorem notin_of_mem_groups (h : List.Forall₂ Denotes gs ns) {d : Char} (hd : digitValue? d = none) :
    ∀ g ∈ gs, g ≠ [] ∧ d ∉ g := by
  induction h with
  | nil => exact fun g hg => nomatch hg
  | cons hg _ ih => exact List.forall_mem_cons.mpr ⟨⟨hg.1, hg.notin hd⟩, ih⟩

theorem lt_of_mem_denoted (h : List.Forall₂ Denotes gs ns) : ∀ n ∈ ns, n < 65536 := by
  induction h with
  | nil => exact fun n hn => nomatch hn
  | cons hg _ ih => exact List.forall_mem_cons.mpr ⟨hg.lt, ih⟩

theorem groups_ofGroups (hlength : ns.length = 8) (h : ∀ n ∈ ns, n < 65536) : groups (ofGroups ns) = ns := by
  match ns, hlength with
  | [n7, n6, n5, n4, n3, n2, n1, n0], _ =>
    simp only [List.forall_mem_cons, List.not_mem_nil, false_imp_iff, forall_const, and_true] at h
    have hvalue : (ofGroups [n7, n6, n5, n4, n3, n2, n1, n0]).toNat =
        [n7, n6, n5, n4, n3, n2, n1, n0].foldl (fun n g => 65536 * n + g) 0 := by
      rw [ofGroups, BitVec.toNat_ofNat, Nat.mod_eq_of_lt]
      simp only [List.foldl_cons, List.foldl_nil]
      omega
    simp only [groups, hvalue, List.map_cons, List.map_nil, List.foldl_cons, List.foldl_nil, Nat.pow_eq, Nat.reducePow,
      List.cons.injEq, and_true]
    omega

theorem isSome_of_mem_hexadecimal (h : n < 65536) (hc : c ∈ hexadecimal 4 n) : (digitValue? c).isSome = true := by
  have hdigit (k : Nat) (hk : k < 16) : (digitValue? (Nat.digitChar k)).isSome = true := by
    rw [digitValue?_digitChar hk]
    rfl
  rw [hexadecimal_four h] at hc
  simp only [List.mem_cons, List.not_mem_nil, or_false] at hc
  rcases hc with rfl | rfl | rfl | rfl
  · exact hdigit _ (by omega)
  · exact hdigit _ (by omega)
  · exact hdigit _ (by omega)
  · exact hdigit _ (by omega)

def nibbles (bits : Bits) : Text := ((groups bits).map (hexadecimal 4)).flatten

theorem length_nibbles (bits : Bits) : (nibbles bits).length = 32 := by
  have hgroup : ∀ n ∈ groups bits, (hexadecimal 4 n).length = 4 := by
    intro n hn
    rw [hexadecimal_four (lt_of_mem_groups hn)]
    rfl
  have hlengths : (groups bits).map (List.length ∘ hexadecimal 4) = (groups bits).map fun _ => 4 :=
    List.map_congr_left hgroup
  rw [nibbles, List.length_flatten, List.map_map, hlengths]
  rfl

theorem isSome_of_mem_nibbles {bits : Bits} (h : c ∈ nibbles bits) : (digitValue? c).isSome = true := by
  obtain ⟨g, hg, hc⟩ := List.mem_flatten.mp h
  obtain ⟨n, hn, rfl⟩ := List.mem_map.mp hg
  exact isSome_of_mem_hexadecimal (lt_of_mem_groups hn) hc

end Ipv6

namespace Ipv4
open Text
variable {n : Nat} {t : Text} {ns : List Nat} {bits : Bits}

theorem octets_ofOctets {a b c d : Nat} (ha : a < 256) (hb : b < 256) (hc : c < 256) (hd : d < 256) :
    octets (ofOctets [a, b, c, d]) = [a, b, c, d] := by
  have hvalue : (ofOctets [a, b, c, d]).toNat = 16777216 * a + 65536 * b + 256 * c + d := by
    rw [ofOctets, BitVec.toNat_ofNat]
    simp only [List.foldl_cons, List.foldl_nil]
    omega
  simp only [octets, hvalue, List.cons.injEq, and_true]
  omega

theorem ne_nil_of_readOctet (h : readOctet t = .ok n) : t ≠ [] := by
  rintro rfl
  cases h

theorem readOctet_lt (h : readOctet t = .ok n) : n < 256 := by
  unfold readOctet at h
  split_ifs at h with _ _ _ _ hrange
  cases h
  exact Nat.lt_succ_of_le (Nat.le_of_not_lt hrange)

theorem octets_of_read (h : read t = .ok bits) :
    (pieces (· == '.') t).length = 4 ∧ (pieces (· == '.') t).mapM readOctet = .ok (octets bits) := by
  unfold read at h
  dsimp only at h
  split at h
  · cases h
  · split at h
    · cases h
    · rename_i hlength
      obtain ⟨ns, hread, rfl⟩ := of_map_eq_ok h
      have hfour := Decidable.not_not.mp hlength
      replace hread := within_eq_ok hread
      refine ⟨hfour, ?_⟩
      rw [hread]
      generalize pieces (· == '.') t = parts at hread hfour
      match parts, hfour with
      | [p, q, r, s], _ =>
        simp only [List.mapM_cons, List.mapM_nil] at hread
        obtain ⟨a, ha, hread⟩ := of_bind_eq_ok hread
        obtain ⟨_, hbs, hread⟩ := of_bind_eq_ok hread
        obtain ⟨b, hb, hbs⟩ := of_bind_eq_ok hbs
        obtain ⟨_, hcs, hbs⟩ := of_bind_eq_ok hbs
        obtain ⟨c, hc, hcs⟩ := of_bind_eq_ok hcs
        obtain ⟨_, hds, hcs⟩ := of_bind_eq_ok hcs
        obtain ⟨d, hd, hds⟩ := of_bind_eq_ok hds
        cases hds
        cases hcs
        cases hbs
        cases hread
        rw [octets_ofOctets (readOctet_lt ha) (readOctet_lt hb) (readOctet_lt hc) (readOctet_lt hd)]

end Ipv4

end SenderPolicy
