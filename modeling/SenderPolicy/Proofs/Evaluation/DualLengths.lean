import SenderPolicy.Evaluation.Step
import SenderPolicy.Proofs.Address.Membership
import SenderPolicy.Proofs.Audit.Prefixes

/-!
The prefix lengths of a term that finds addresses. Of a record that has passed its check, the lengths that are read off
the term are those that stand in it, and the client is found where it shares so many first bits with an address.
-/
namespace SenderPolicy

namespace Term
open Text Audit
variable {c : Char} {t : Term} {cidr u : Text} {short long : Option Text}

/-! Reading the lengths -/

theorem cutAtSlashes_cons (hc : c ≠ '/') (u : Text) :
    cutAtSlashes (c :: u) = (c :: (cutAtSlashes u).1, (cutAtSlashes u).2) := by
  rw [cutAtSlashes]
  intro r h
  exact absurd h hc

theorem cutAtSlashes_of_notin (h : '/' ∉ u) : cutAtSlashes u = (u, []) := by
  induction u with
  | nil => rfl
  | cons c r ih =>
    rw [List.mem_cons, not_or] at h
    rw [cutAtSlashes_cons (Ne.symm h.1), ih h.2]

theorem cutAtSlashes_of_mark (h : '/' ∉ u) (behind : Text) :
    cutAtSlashes (u ++ '/' :: '/' :: behind) = (u, behind) := by
  induction u with
  | nil => rfl
  | cons c r ih =>
    rw [List.mem_cons, not_or] at h
    rw [List.cons_append, cutAtSlashes_cons (Ne.symm h.1), ih h.2]

theorem prefixLengths_of_head (hcidr : t.cidr = some cidr) (hhead : cidr.head? = some c) (hc : c ≠ '/') :
    t.prefixLengths = lengthsOf (cutAtSlashes cidr).1 (cutAtSlashes cidr).2 := by
  unfold prefixLengths
  rw [hcidr]
  split
  · rename_i h
    cases h
  · rename_i h
    cases h
    cases hhead
  · rename_i h
    cases h
    exact absurd (Option.some.inj hhead).symm hc
  · rename_i h
    cases h
    rfl

theorem readInteger_of_isBounded {bound : Nat} (h : IsBounded bound u) : readInteger u = .ok (ofDigits u) := by
  rw [readInteger_of_decimals h.isLength.1 h.isLength.2, if_neg (Nat.not_lt.mpr h.readable)]

theorem lengthsOf_of_isBounded (hshort : ∀ s, short = some s → IsBounded 32 s)
    (hlong : ∀ l, long = some l → IsBounded 128 l) :
    lengthsOf (short.getD []) (long.getD []) =
      ((short.map ofDigits).map Int.ofNat, (long.map ofDigits).map Int.ofNat) := by
  have hlength {bound : Nat} {u : Text} (h : IsBounded bound u) :
      u.isEmpty = false ∧ readInteger u = .ok (ofDigits u) :=
    ⟨by simpa using h.isLength.1, readInteger_of_isBounded h⟩
  cases short with
  | none =>
    cases long with
    | none => rfl
    | some l => simp [lengthsOf, hlength (hlong l rfl), Except.map]
  | some s =>
    cases long with
    | none => simp [lengthsOf, hlength (hshort s rfl), Except.map]
    | some l => simp [lengthsOf, hlength (hshort s rfl), hlength (hlong l rfl), Except.map]

theorem prefixLengths_of_captures (hcidr : t.cidr = some cidr) (h : Captures cidr short long)
    (hshort : ∀ s, short = some s → IsBounded 32 s) (hlong : ∀ l, long = some l → IsBounded 128 l) :
    t.prefixLengths = ((short.map ofDigits).map Int.ofNat, (long.map ofDigits).map Int.ofNat) := by
  have hslash {s : Text} (hs : IsLength s) : '/' ∉ s := fun hc => absurd (hs.2 _ hc) (by decide +kernel)
  rw [← lengthsOf_of_isBounded hshort hlong]
  cases h with
  | @short _ hs =>
    obtain ⟨c, r, rfl⟩ := List.exists_cons_of_ne_nil hs.1
    rw [prefixLengths_of_head hcidr rfl fun hc => hslash hs (hc ▸ List.mem_cons_self),
      cutAtSlashes_of_notin (hslash hs)]
    rfl
  | long _ =>
    unfold prefixLengths
    rw [hcidr]
    rfl
  | both hs _ =>
    obtain ⟨c, r, rfl⟩ := List.exists_cons_of_ne_nil hs.1
    rw [prefixLengths_of_head hcidr rfl fun hc => hslash hs (hc ▸ List.mem_cons_self),
      cutAtSlashes_of_mark (hslash hs)]
    rfl

/-- The lengths that a term declares, none where it has no lengths or only one of them. -/
inductive Declares : Option Text → Option Nat → Option Nat → Prop
  | nothing : Declares none none none
  | lengths {w s l} : Captures w s l → Declares (some w) (s.map ofDigits) (l.map ofDigits)

/-- The lengths stand in the term, they are read off it, and neither is longer than an address of its family. -/
structure HasDeclared (t : Term) (short long : Option Nat) : Prop where
  declares : Declares t.cidr short long
  read : t.prefixLengths = (short.map Int.ofNat, long.map Int.ofNat)
  short_le : ∀ n, short = some n → n ≤ 32
  long_le : ∀ n, long = some n → n ≤ 128

theorem exists_hasDeclared (h : checkLengths t = .ok ()) : ∃ short long, HasDeclared t short long := by
  cases hcidr : t.cidr with
  | none =>
    refine ⟨none, none, by rw [hcidr]; exact .nothing, ?_, fun _ h => (nomatch h), fun _ h => nomatch h⟩
    unfold prefixLengths
    rw [hcidr]
    rfl
  | some cidr =>
    obtain ⟨-, short, long, hcaptures, hshort, hlong⟩ := captures_of_checkLengths h hcidr
    refine ⟨short.map ofDigits, long.map ofDigits, by rw [hcidr]; exact .lengths hcaptures,
      prefixLengths_of_captures hcidr hcaptures hshort hlong, fun n hn => ?_, fun n hn => ?_⟩
    · obtain ⟨digits, hdigits, rfl⟩ := Option.map_eq_some_iff.mp hn
      exact (hshort digits hdigits).le
    · obtain ⟨digits, hdigits, rfl⟩ := Option.map_eq_some_iff.mp hn
      exact (hlong digits hdigits).le

end Term

namespace Evaluation
open Text Audit
variable {s : Setting} {t : Term} {a b : Address} {ip x : Text} {n : Nat} {short long : Option Nat}

/-! Finding the client -/

theorem matchesNetwork_around (ha : Address.parse? ip = some a) (hx : Address.read? x = some b)
    (hfamily : b.version = a.version) (hn : n ≤ b.width) :
    Address.matchesNetwork a.text (x ++ '/' :: decimal n) = true ↔ a.SharesPrefix n b := by
  obtain ⟨c, hc, hunmapped⟩ := Option.map_eq_some_iff.mp (Address.parse?_text ha)
  have htrim : trim (x ++ '/' :: decimal n) = x ++ '/' :: decimal n := by
    refine trim_eq_self (fun d hd => ?_) fun d hd => ?_
    · cases x with
      | nil => cases hx
      | cons e r => exact Address.isBlank_of_head? hx hd
    · rw [List.append_cons, List.getLast?_append_of_ne_nil _ (decimal_ne_nil n)] at hd
      exact isBlank_of_isDigit (isDigit_of_mem_decimal (List.mem_of_getLast? hd))
  have hdenotes : Network.Denotes (trim (x ++ '/' :: decimal n)) b n := by
    rw [htrim]
    exact .decimal hx hn
  rw [Address.matchesNetwork_iff hc hdenotes, hunmapped]
  split_ifs with hmapped
  · have hclient : ¬ a.IsMapped := by
      rw [← hunmapped]
      exact Address.not_isMapped_unmapped c
    refine iff_of_false ?_ fun hshares => hclient (hshares.isMapped hmapped.1 hmapped.2)
    obtain ⟨⟨short, zone, rfl⟩, -⟩ := hmapped
    rw [Address.unmapped_mapping]
    cases a with
    | v4 bits => cases hfamily
    | v6 bits zone => exact id
  · rfl

/-- The number of bits that the term asks to be shared with the client: the length for its family, or all bits. -/
def sharedBits (client : Address) (short long : Option Nat) : Nat :=
  match client with
  | .v4 _ => short.getD 32
  | .v6 _ _ => long.getD 128

theorem matchLength_eq (h : t.HasDeclared short long) : s.matchLength t = sharedBits s.address short long := by
  unfold Setting.matchLength sharedBits
  rw [h.read]
  cases s.address with
  | v4 bits => cases short <;> rfl
  | v6 bits zone => cases long <;> rfl

theorem sharedBits_le (h : t.HasDeclared short long) (a : Address) : sharedBits a short long ≤ a.width := by
  cases a with
  | v4 bits =>
    cases short with
    | none => exact Nat.le_refl _
    | some n => exact h.short_le n rfl
  | v6 bits zone =>
    cases long with
    | none => exact Nat.le_refl _
    | some n => exact h.long_le n rfl

theorem matchesAny_iff {addresses : List Text} (h : t.HasDeclared short long)
    (hclient : Address.parse? ip = some s.address)
    (hread : ∀ x ∈ addresses, ∃ b, Address.read? x = some b ∧ b.version = s.address.version) :
    s.matchesAny addresses t = true ↔ ∃ x ∈ addresses, ∃ b, Address.read? x = some b ∧
      s.address.SharesPrefix (sharedBits s.address short long) b := by
  have hone (x : Text) (hx : x ∈ addresses) :
      Address.matchesNetwork s.address.text (phrase [x, "/", signedDecimal (s.matchLength t)]) = true ↔
        ∃ b, Address.read? x = some b ∧ s.address.SharesPrefix (sharedBits s.address short long) b := by
    obtain ⟨b, hb, hfamily⟩ := hread x hx
    have hwidth : b.width = s.address.width := by
      cases hb : b <;> cases hs : s.address <;> simp_all [Address.version, Address.width]
    have hphrase : phrase [x, "/", signedDecimal (s.matchLength t)] =
        x ++ '/' :: decimal (sharedBits s.address short long) := by
      rw [matchLength_eq h]
      simp [phrase, signedDecimal]
    rw [hphrase, matchesNetwork_around hclient hb hfamily (hwidth ▸ sharedBits_le h s.address)]
    simp [hb]
  rw [Setting.matchesAny, List.any_eq_true]
  exact exists_congr fun x => and_congr_right (hone x)

/-- The terms of a valid record that find addresses declare lengths that are read off them and are within their bounds;
and the client is found among addresses of its family exactly if it shares with one of them the bits of the length that
is declared for the family, or all bits if none is. -/
theorem dual_lengths_are_honoured {text : Text} {r : Record} {assessment : Assessment}
    (hparse : Record.parse? text = some r) (ha : auditText text = .ok assessment) (hvalid : assessment.isValid = true) :
    ∀ t ∈ r.terms, t.kind = .a ∨ t.kind = .mx → ∃ short long, t.HasDeclared short long ∧
      ∀ (s : Setting) (ip : Text) (addresses : List Text), Address.parse? ip = some s.address →
        (∀ x ∈ addresses, ∃ b, Address.read? x = some b ∧ b.version = s.address.version) →
        (s.matchesAny addresses t = true ↔ ∃ x ∈ addresses, ∃ b, Address.read? x = some b ∧
          s.address.SharesPrefix (sharedBits s.address short long) b) := by
  intro t ht _
  obtain ⟨-, -, hlengths, -⟩ := checkTerm_eq_ok ((IsValid.of_auditText hparse ha hvalid).checkTerm t ht)
  obtain ⟨short, long, hdeclared⟩ := Term.exists_hasDeclared hlengths
  exact ⟨short, long, hdeclared, fun _ _ _ hclient hread => matchesAny_iff hdeclared hclient hread⟩

/-- A client is found in the network around the second address. -/
theorem dual_lengths_of_host :
    let s : Setting := { address := .v4 0xC0000201#32, sender := none, helo := none, limits := {}, now := 0 }
    let addresses : List Text := ["198.51.100.7", "192.0.2.200"]
    ∃ (assessment : Assessment) (t : Term) (short long : Option Nat),
      auditText "v=spf1 a:h.example/24//64 -all" = .ok assessment ∧ assessment.isValid = true ∧
      t.cidr = some "24//64" ∧ t.HasDeclared short long ∧
      Address.parse? "192.0.2.1" = some s.address ∧ s.matchesAny addresses t = true ∧
      ∃ x ∈ addresses, ∃ b, Address.read? x = some b ∧ s.address.SharesPrefix (sharedBits s.address short long) b := by
  intro s addresses
  let t : Term := { kind := .a, value := some "h.example", cidr := some "24//64" }
  have hparse : Record.parse? "v=spf1 a:h.example/24//64 -all" =
      some ⟨some "v=spf1", [t, { kind := .all, qualifier := .fail }]⟩ := by
    decide +kernel
  have hvalid : (auditText "v=spf1 a:h.example/24//64 -all").toOption.map (·.isValid) = some true := by
    decide +kernel
  obtain ⟨assessment, ha, hvalid⟩ := Option.map_eq_some_iff.mp hvalid
  replace ha := eq_ok_of_toOption ha
  obtain ⟨short, long, hdeclared, hfinds⟩ := dual_lengths_are_honoured hparse ha hvalid t List.mem_cons_self (.inl rfl)
  have hclient : Address.parse? "192.0.2.1" = some s.address := by decide +kernel
  have hread : ∀ x ∈ addresses, ∃ b, Address.read? x = some b ∧ b.version = s.address.version := by
    have hfirst : Address.read? "198.51.100.7" = some (.v4 0xC6336407#32) := by decide +kernel
    have hsecond : Address.read? "192.0.2.200" = some (.v4 0xC00002C8#32) := by decide +kernel
    intro x hx
    obtain rfl | hx := List.mem_cons.mp hx
    · exact ⟨_, hfirst, rfl⟩
    · rw [List.mem_singleton.mp hx]
      exact ⟨_, hsecond, rfl⟩
  have hfound : s.matchesAny addresses t = true := by decide +kernel
  exact ⟨assessment, t, short, long, ha, hvalid, rfl, hdeclared, hclient, hfound,
    (hfinds s "192.0.2.1" addresses hclient hread).mp hfound⟩

end Evaluation
end SenderPolicy
