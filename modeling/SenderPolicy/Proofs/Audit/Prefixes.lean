import SenderPolicy.Proofs.Address.Reading
import SenderPolicy.Proofs.Audit.Numerals
import SenderPolicy.Proofs.Text.Decimal

/-!
Prefix lengths of valid records. They are bounded as they should be, but not always written as they should be: a length
may have zeros in front, stand in the digits of another script behind a host, or be a mask behind an address of 32 bits.
A length in plain digits is a prefix length.
-/
namespace SenderPolicy.Audit
open Text
/-- A prefix length as it should be written: in decimal, and no longer than an address. -/
def IsPrefixLength (most : Nat) (length : Text) : Prop := ∃ n ≤ most, length = decimal n

/-- A prefix length as it may be written behind an address or a host of the kind. -/
inductive IsSpelled : Kind → Nat → Text → Prop
  | digits {kind most length} : length ≠ [] → (∀ c ∈ length, c.isDigit = true) → Ipv4.readDigits length ≤ most →
      IsSpelled kind most length
  | mask {most length bits n} : Ipv4.read length = .ok bits → Network.maskLength? bits = some n →
      IsSpelled .ip4 most length
  | script {kind most length} : kind.takesLengths = true → IsLength length → ofDigits length ≤ most →
      IsSpelled kind most length

/-- An address, and what stands behind its slash if there is one. -/
def IsNetwork (IsHost IsLength : Text → Prop) (value : Text) : Prop :=
  IsHost (cutAtFirst (· == '/') value).1 ∧
    ∀ length, (cutAtFirst (· == '/') value).2 = some length → IsLength length

/-- A length for one family or for each: the first, the second behind a slash, or both with two slashes between. -/
inductive IsDual (IsShort IsLong : Text → Prop) : Text → Prop
  | short {s} : IsShort s → IsDual IsShort IsLong s
  | long {l} : IsLong l → IsDual IsShort IsLong ('/' :: l)
  | both {s l} : IsShort s → IsLong l → IsDual IsShort IsLong (s ++ '/' :: '/' :: l)

/-- The addresses of the term are of its family, and its prefix lengths, each of so many bits at most, are as the
condition has them. -/
structure HasLengths (IsLength : Kind → Nat → Text → Prop) (t : Term) : Prop where
  ip4 : t.kind = .ip4 → ∃ value, t.value = some value ∧
    IsNetwork (fun host => ∃ bits, Ipv4.read host = .ok bits) (IsLength .ip4 32) value
  ip6 : t.kind = .ip6 → ∃ value, t.value = some value ∧
    IsNetwork (fun host => ∃ bits, Ipv6.read host = .ok bits) (IsLength .ip6 128) value
  dual : t.kind = .a ∨ t.kind = .mx → ∀ cidr, t.cidr = some cidr →
    IsDual (IsLength t.kind 32) (IsLength t.kind 128) cidr

variable {t : Term} {cidr length value host : Text} {short long : Option Text} {kind : Kind} {most n : Nat}

theorem not_plain_of_read {bits : Ipv4.Bits} (h : Ipv4.read length = .ok bits) : ¬ IsPlain length :=
  fun hplain => absurd (hplain.digits '.' (Ipv4.dot_mem_of_read h)) (by decide)

/-- However a length is spelled, it is a prefix length exactly if it is written plainly. -/
theorem IsSpelled.isPrefixLength_iff (h : IsSpelled kind most length) :
    IsPrefixLength most length ↔ IsPlain length := by
  constructor
  · rintro ⟨n, -, rfl⟩
    exact isPlain_decimal n
  · intro hplain
    cases h with
    | digits hne _ hbound => exact ⟨_, hbound, (hplain.decimal_readDigits hne).symm⟩
    | mask hread _ => exact absurd hplain (not_plain_of_read hread)
    | script _ hlength hbound =>
      rw [ofDigits_eq_readDigits hplain.digits] at hbound
      exact ⟨_, hbound, (hplain.decimal_readDigits hlength.1).symm⟩

/-! Networks -/

theorem isSpelled_of_readLength? (h : Network.readLength? most length = some n) :
    IsSpelled kind most length := by
  unfold Network.readLength? at h
  split at h
  · rename_i hdigits
    simp only [Bool.and_eq_true, Bool.not_eq_true', List.isEmpty_eq_false_iff, List.all_eq_true,
      decide_eq_true_eq] at hdigits
    obtain ⟨⟨⟨hne, hall⟩, -⟩, hbound⟩ := hdigits
    exact .digits hne hall hbound
  · cases h

theorem isSpelled_of_readLength4? (h : Network.readLength4? length = some n) :
    IsSpelled .ip4 32 length := by
  unfold Network.readLength4? at h
  split at h
  · rename_i hread
    exact isSpelled_of_readLength? hread
  · cases hread : Ipv4.read length with
    | error f => rw [hread] at h; cases h
    | ok bits =>
      rw [hread] at h
      exact .mask hread h

theorem percent_notin_host (h : '%' ∉ value) : '%' ∉ (cutAtFirst (· == '/') value).1 := by
  intro hmem
  apply h
  unfold cutAtFirst at hmem
  split at hmem
  · exact hmem
  · exact (List.takeWhile_prefix _).subset hmem

theorem isNetwork_of_read? {network : Network} (hpercent : '%' ∉ value) (h : Network.read? value = some network) :
    (∃ bits n, network = .v4 bits n ∧
      IsNetwork (fun host => Ipv4.read host = .ok bits) (fun l => Network.readLength4? l = some n) value) ∨
    ∃ bits n, network = .v6 bits n ∧
      IsNetwork (fun host => Ipv6.read host = .ok bits) (fun l => Network.readLength? 128 l = some n) value := by
  have hbare := percent_notin_host hpercent
  unfold IsNetwork
  unfold Network.read? at h
  cases hcut : cutAtFirst (· == '/') value with
  | mk host behind =>
    rw [hcut] at h hbare
    cases hread : Address.read? host with
    | none => cases behind <;> simp [hread] at h
    | some address =>
      obtain ⟨bits, hbits, rfl⟩ | ⟨bits, hbits, rfl⟩ := Address.read?_of_bare hbare hread
      · refine .inl ⟨bits, ?_⟩
        cases behind with
        | none =>
          simp only [hread] at h
          exact ⟨32, (Option.some.inj h).symm, hbits, fun _ h => nomatch h⟩
        | some length =>
          simp only [hread, Option.map_eq_some_iff] at h
          obtain ⟨n, hn, rfl⟩ := h
          exact ⟨n, rfl, hbits, fun l hl => Option.some.inj hl ▸ hn⟩
      · refine .inr ⟨bits, ?_⟩
        cases behind with
        | none =>
          simp only [hread] at h
          exact ⟨128, (Option.some.inj h).symm, hbits, fun _ h => nomatch h⟩
        | some length =>
          simp only [hread, Option.map_eq_some_iff] at h
          obtain ⟨n, hn, rfl⟩ := h
          exact ⟨n, rfl, hbits, fun l hl => Option.some.inj hl ▸ hn⟩

theorem read?_of_checkNetwork (h : checkNetwork t = .ok ()) :
    ∃ value, t.value = some value ∧ '%' ∉ value ∧
      (t.kind = .ip4 → ∃ bits n, Network.read? value = some (.v4 bits n)) ∧
      (t.kind ≠ .ip4 → ∃ bits n, Network.read? value = some (.v6 bits n)) := by
  unfold checkNetwork at h
  split at h
  · cases h
  · cases h
  · rename_i value _ hv
    split at h
    · cases h
    · rename_i hpercent
      refine ⟨value, hv, by simpa using hpercent, ?_⟩
      split at h
      · cases h
      · rename_i bits n hread hkind
        exact ⟨fun _ => ⟨bits, n, hread⟩, fun hother => absurd hkind hother⟩
      · cases h
      · rename_i bits n hread hkind
        exact ⟨fun hip4 => absurd hip4 hkind, fun _ => ⟨bits, n, hread⟩⟩
      · cases h

/-! Lengths behind a host -/

/-- The lengths that stand in a text, of which either may be missing: the first, the second behind a slash, or both with
two slashes between. -/
inductive Captures : Text → Option Text → Option Text → Prop
  | short {s} : IsLength s → Captures s (some s) none
  | long {l} : IsLength l → Captures ('/' :: l) none (some l)
  | both {s l} : IsLength s → IsLength l → Captures (s ++ '/' :: '/' :: l) (some s) (some l)

theorem captures_of_splitLengths? (h : splitLengths? cidr = some (short, long)) : Captures cidr short long := by
  obtain ⟨hshort, hlong⟩ := isLength_of_splitLengths? h
  have hcidr : cidr.takeWhile isDecimal ++ cidr.dropWhile isDecimal = cidr := List.takeWhile_append_dropWhile
  unfold splitLengths? at h
  dsimp only at h
  split at h
  · rename_i hdrop
    rw [hdrop, List.append_nil] at hcidr
    split at h
    · cases h
    · cases h
      have hlength := hshort _ rfl
      rw [hcidr] at hlength ⊢
      exact .short hlength
  · rename_i rest hdrop
    rw [hdrop] at hcidr
    cases hfirst : cidr.takeWhile isDecimal with
    | nil =>
      simp only [hfirst, List.isEmpty_nil, if_true, Bool.true_or] at h
      split at h
      · cases h
        rw [← hcidr, hfirst, List.nil_append]
        exact .long (hlong _ rfl)
      · cases h
    | cons c digits =>
      simp only [hfirst, List.isEmpty_cons, Bool.false_eq_true, if_false, Bool.false_or] at h
      split at h
      · rename_i hmarked
        cases h
        simp only [Bool.and_eq_true, beq_iff_eq] at hmarked
        obtain ⟨behind, rfl⟩ := List.head?_eq_some_iff.mp hmarked.1.1
        rw [← hcidr, hfirst]
        exact .both (hshort _ rfl) (hlong _ rfl)
      · cases h
  · cases h

theorem isDual_of_splitLengths? {IsShort IsLong : Text → Prop} (h : splitLengths? cidr = some (short, long))
    (hshort : ∀ digits, short = some digits → IsShort digits) (hlong : ∀ digits, long = some digits → IsLong digits) :
    IsDual IsShort IsLong cidr := by
  cases captures_of_splitLengths? h with
  | short _ => exact .short (hshort _ rfl)
  | long _ => exact .long (hlong _ rfl)
  | both _ _ => exact .both (hshort _ rfl) (hlong _ rfl)

structure IsBounded (bound : Nat) (length : Text) : Prop where
  isLength : IsLength length
  readable : length.length ≤ maxDigits
  le : ofDigits length ≤ bound

theorem isBounded_of_checked {bound : Nat} {d : Defect} {rest : Except Rejection Unit} (hlength : IsLength length)
    (h : (readLength length >>= fun n =>
      if (bound : Int) < n then (throw (.defect d) >>= fun _ : Unit => rest) else rest) = .ok ()) :
    IsBounded bound length ∧ rest = .ok () := by
  rw [readLength_of_isLength hlength] at h
  split at h
  · cases h
  · rename_i hreadable
    change (if (bound : Int) < (ofDigits length : Int) then _ else rest) = .ok () at h
    split at h
    · cases h
    · exact ⟨⟨hlength, Nat.not_lt.mp hreadable, by omega⟩, h⟩

theorem captures_of_checkLengths (h : checkLengths t = .ok ()) (hc : t.cidr = some cidr) :
    t.kind.takesLengths = true ∧ ∃ short long, Captures cidr short long ∧
      (∀ digits, short = some digits → IsBounded 32 digits) ∧ ∀ digits, long = some digits → IsBounded 128 digits := by
  unfold checkLengths at h
  rw [hc] at h
  cases hk : t.kind.takesLengths with
  | false => simp [hk] at h
  | true =>
    cases hs : splitLengths? cidr with
    | none => simp [hk, hs] at h
    | some lengths =>
      obtain ⟨short, long⟩ := lengths
      obtain ⟨hshort, hlong⟩ := isLength_of_splitLengths? hs
      simp only [hk, hs, Bool.not_true, Bool.false_eq_true, if_false] at h
      refine ⟨rfl, short, long, captures_of_splitLengths? hs, fun digits hd => ?_, fun digits hd => ?_⟩
      · subst hd
        exact (isBounded_of_checked (hshort digits rfl) h).1
      · subst hd
        have hrest : (readLength digits >>= fun n =>
            if 128 < n then throw (.defect (.longLongLength t.compose)) else pure ()) = Except.ok () := by
          cases short with
          | none => exact h
          | some first => exact (isBounded_of_checked (hshort first rfl) h).2
        have hbounded : IsBounded 128 digits ∧ (pure () : Except Rejection Unit) = .ok () :=
          isBounded_of_checked (hlong digits rfl) hrest
        exact hbounded.1

theorem isDual_of_checkLengths (h : checkLengths t = .ok ()) (hc : t.cidr = some cidr) :
    IsDual (IsSpelled t.kind 32) (IsSpelled t.kind 128) cidr := by
  obtain ⟨hk, short, long, hcaptures, hshort, hlong⟩ := captures_of_checkLengths h hc
  have hspelled {bound : Nat} {digits : Text} (hb : IsBounded bound digits) : IsSpelled t.kind bound digits :=
    .script hk hb.isLength hb.le
  cases hcaptures with
  | short _ => exact .short (hspelled (hshort _ rfl))
  | long _ => exact .long (hspelled (hlong _ rfl))
  | both _ _ => exact .both (hspelled (hshort _ rfl)) (hspelled (hlong _ rfl))

/-! Records -/

theorem hasLengths_of_checkTerm (h : checkTerm t = .ok ()) : HasLengths IsSpelled t := by
  obtain ⟨-, hvalue, hlengths, -⟩ := checkTerm_eq_ok h
  have hnetwork (hk : t.kind = .ip4 ∨ t.kind = .ip6) : checkNetwork t = .ok () := by
    unfold checkValue at hvalue
    rcases hk with hk | hk
    · rw [hk] at hvalue
      exact hvalue
    · rw [hk] at hvalue
      exact hvalue
  refine ⟨fun hk => ?_, fun hk => ?_, fun hk cidr hc => isDual_of_checkLengths hlengths hc⟩
  · obtain ⟨value, hv, hpercent, hread, -⟩ := read?_of_checkNetwork (hnetwork (.inl hk))
    obtain ⟨bits, n, hread⟩ := hread hk
    obtain ⟨_, _, -, hhost, hlength⟩ | ⟨_, _, hother, -⟩ := isNetwork_of_read? hpercent hread
    · exact ⟨value, hv, ⟨_, hhost⟩, fun l hl => isSpelled_of_readLength4? (hlength l hl)⟩
    · cases hother
  · obtain ⟨value, hv, hpercent, -, hread⟩ := read?_of_checkNetwork (hnetwork (.inr hk))
    obtain ⟨bits, n, hread⟩ := hread (by rw [hk]; decide)
    obtain ⟨_, _, hother, -⟩ | ⟨_, _, -, hhost, hlength⟩ := isNetwork_of_read? hpercent hread
    · cases hother
    · exact ⟨value, hv, ⟨_, hhost⟩, fun l hl => isSpelled_of_readLength? (hlength l hl)⟩

theorem IsDual.imp {P P' Q Q' : Text → Prop} (h : IsDual P Q cidr) (hp : ∀ length, P length → P' length)
    (hq : ∀ length, Q length → Q' length) : IsDual P' Q' cidr := by
  cases h with
  | short hs => exact .short (hp _ hs)
  | long hl => exact .long (hq _ hl)
  | both hs hl => exact .both (hp _ hs) (hq _ hl)

theorem HasLengths.imp {P Q : Kind → Nat → Text → Prop} (h : HasLengths P t)
    (hpq : ∀ kind most length, P kind most length → Q kind most length) : HasLengths Q t := by
  refine ⟨fun hk => ?_, fun hk => ?_, fun hk cidr hc => ?_⟩
  · obtain ⟨value, hv, hhost, hlength⟩ := h.ip4 hk
    exact ⟨value, hv, hhost, fun length hl => hpq _ _ _ (hlength length hl)⟩
  · obtain ⟨value, hv, hhost, hlength⟩ := h.ip6 hk
    exact ⟨value, hv, hhost, fun length hl => hpq _ _ _ (hlength length hl)⟩
  · exact (h.dual hk cidr hc).imp (hpq _ _) (hpq _ _)

/-- In a valid record each address is of the family of its term, and each prefix length stands for a number that is
within its bound. It is a prefix length as it should be exactly if it is written plainly: in ASCII digits, and without a
zero in front of others. -/
theorem lengths_of_valid_record {text : Text} {r : Record} {a : Assessment} (hparse : Record.parse? text = some r)
    (ha : auditText text = .ok a) (hvalid : a.isValid = true) :
    ∀ t ∈ r.terms, HasLengths (fun kind most length =>
      IsSpelled kind most length ∧ (IsPrefixLength most length ↔ IsPlain length)) t := by
  intro t ht
  have hchecked := (IsValid.of_auditText hparse ha hvalid).checkTerm t ht
  exact (hasLengths_of_checkTerm hchecked).imp fun kind most length h => ⟨h, h.isPrefixLength_iff⟩

theorem lengths_of_dual_record :
    ∃ r a, Record.parse? "v=spf1 ip4:192.0.2.0/24 a:h.example/24//64 -all" = some r ∧
      auditText "v=spf1 ip4:192.0.2.0/24 a:h.example/24//64 -all" = .ok a ∧ a.isValid = true ∧
      r.terms.length = 3 ∧ ∀ t ∈ r.terms, HasLengths (fun kind most length =>
        IsSpelled kind most length ∧ (IsPrefixLength most length ↔ IsPlain length)) t := by
  have hterms : (Record.parse? "v=spf1 ip4:192.0.2.0/24 a:h.example/24//64 -all").map (·.terms.length) = some 3 := by
    decide +kernel
  have hvalid : (auditText "v=spf1 ip4:192.0.2.0/24 a:h.example/24//64 -all").toOption.map (·.isValid) = some true := by
    decide +kernel
  obtain ⟨r, hparse, hlength⟩ := Option.map_eq_some_iff.mp hterms
  cases ha : auditText "v=spf1 ip4:192.0.2.0/24 a:h.example/24//64 -all" with
  | error f => rw [ha] at hvalid; cases hvalid
  | ok a =>
    rw [ha] at hvalid
    have hv : a.isValid = true := Option.some.inj hvalid
    exact ⟨r, a, hparse, rfl, hv, hlength, lengths_of_valid_record hparse ha hv⟩

/-- A mask is no prefix length, and nothing is found wrong with it. -/
theorem mask_is_found_valid :
    ¬ ∀ (text : Text) (r : Record) (a : Assessment), Record.parse? text = some r → auditText text = .ok a →
      a.isValid = true → ∀ t ∈ r.terms, HasLengths (fun _ => IsPrefixLength) t := by
  intro h
  have hparse : Record.parse? "v=spf1 ip4:192.0.2.0/255.255.255.0 -all" =
      some ⟨some "v=spf1", [{ kind := .ip4, value := some "192.0.2.0/255.255.255.0" },
        { kind := .all, qualifier := .fail }]⟩ := by
    decide +kernel
  have hvalid : (auditText "v=spf1 ip4:192.0.2.0/255.255.255.0 -all").toOption.map (·.isValid) = some true := by
    decide +kernel
  cases ha : auditText "v=spf1 ip4:192.0.2.0/255.255.255.0 -all" with
  | error f => rw [ha] at hvalid; cases hvalid
  | ok a =>
    rw [ha] at hvalid
    obtain ⟨value, hv, -, hlength⟩ := (h _ _ a hparse ha (Option.some.inj hvalid) _ List.mem_cons_self).ip4 rfl
    cases hv
    obtain ⟨n, -, hn⟩ := hlength "255.255.255.0" (by decide +kernel)
    have hdigit := (isPlain_decimal n).digits '.' (by rw [← hn]; decide)
    exact absurd hdigit (by decide)

end SenderPolicy.Audit
