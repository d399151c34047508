import SenderPolicy.Proofs.Standard.Grammar
import SenderPolicy.Proofs.Text.Ascii

/-!
Networks of the standard are read: each address by the reader of its family, and a prefix length within its bound.
-/
namespace SenderPolicy.Standard
open Text
variable {c : Char} {t network lengths : Text} {parts : List Text} {n most : Nat}

/-! Dotted quads -/

theorem readOctet_decimal (h : n < 256) : Ipv4.readOctet (decimal n) = .ok n := by
  have hall : ∀ n < 256, (Ipv4.readOctet (decimal n)).toOption = some n := by decide +kernel
  exact eq_ok_of_toOption (hall n h)

theorem IsDottedQuad.characters (h : IsDottedQuad t) : ∀ c ∈ t, c.isDigit = true ∨ c = '.' := by
  obtain ⟨a, -, b, -, c, -, d, -, rfl⟩ := h
  intro x hx
  obtain hdot | ⟨p, hp, hx⟩ := of_mem_joined hx
  · exact .inr (List.mem_singleton.mp hdot)
  · simp only [List.mem_cons, List.not_mem_nil, or_false] at hp
    obtain rfl | rfl | rfl | rfl := hp <;> exact .inl (isDigit_of_mem_decimal hx)

theorem read_quad {a b c d : Nat} (ha : a < 256) (hb : b < 256) (hc : c < 256) (hd : d < 256) :
    Ipv4.read (joined ['.'] [decimal a, decimal b, decimal c, decimal d]) = .ok (Ipv4.ofOctets [a, b, c, d]) := by
  have hpieces : pieces (· == '.') (joined ['.'] [decimal a, decimal b, decimal c, decimal d]) =
      [decimal a, decimal b, decimal c, decimal d] := by
    apply pieces_joined (by simp)
    intro p hp x hx
    simp only [List.mem_cons, List.not_mem_nil, or_false] at hp
    have hdigit : x.isDigit = true := by
      obtain rfl | rfl | rfl | rfl := hp <;> exact isDigit_of_mem_decimal hx
    exact beq_false_of_ne (by rintro rfl; exact absurd hdigit (by decide))
  have hne : (joined ['.'] [decimal a, decimal b, decimal c, decimal d]).isEmpty = false := by
    simp [joined, decimal_ne_nil]
  have hread : [decimal a, decimal b, decimal c, decimal d].mapM Ipv4.readOctet = .ok [a, b, c, d] := by
    simp only [List.mapM_cons, readOctet_decimal ha, readOctet_decimal hb, readOctet_decimal hc, readOctet_decimal hd]
    rfl
  unfold Ipv4.read
  simp only [hne, Bool.false_eq_true, if_false, hpieces, hread]
  rfl

theorem IsDottedQuad.exists_read (h : IsDottedQuad t) : ∃ bits, Ipv4.read t = .ok bits := by
  obtain ⟨a, ha, b, hb, c, hc, d, hd, rfl⟩ := h
  exact ⟨_, read_quad ha hb hc hd⟩

theorem IsDottedQuad.dot_mem (h : IsDottedQuad t) : '.' ∈ t := by
  obtain ⟨a, -, b, -, c, -, d, -, rfl⟩ := h
  simp [joined]

/-! Groups -/

theorem isAlphanum_of_isHexDigit (h : IsHexDigit c) : c.isAlphanum = true := by
  obtain h | h := h
  · exact isAlphanum_of_isDigit h
  · have hall : ∀ d ∈ "abcdef".toList, d.isAlphanum = true := List.all_eq_true.mp (by decide)
    exact isAlphanum_of_toLower (hall _ h)

theorem isSome_of_isHexDigit (h : IsHexDigit c) : (Ipv6.digitValue? c).isSome = true := by
  apply forall_ascii (P := fun c => c.isDigit = true ∨ c.toLower ∈ "abcdef".toList → (Ipv6.digitValue? c).isSome = true)
  · decide +kernel
  · exact ascii_of_isAlphanum (isAlphanum_of_isHexDigit h)
  · exact h

theorem IsGroup.exists_read (h : IsGroup t) : ∃ n, Ipv6.readGroup t = .ok n := by
  obtain ⟨digits, hdigits⟩ := exists_mapM_some fun c hc => isSome_of_isHexDigit (h.2.2 c hc)
  refine ⟨digits.foldl (fun n d => 16 * n + d) 0, ?_⟩
  rw [Ipv6.readGroup, hdigits]
  exact if_neg (Nat.not_lt.mpr h.2.1)

theorem IsGroup.ne_of_mem {d : Char} (h : IsGroup t) (hd : Ipv6.digitValue? d = none) : ∀ c ∈ t, c ≠ d := by
  rintro c hc rfl
  have hsome := isSome_of_isHexDigit (h.2.2 c hc)
  rw [hd] at hsome
  cases hsome

theorem IsGroup.undotted (h : IsGroup t) : t.contains '.' = false := by
  simpa using fun hc => h.ne_of_mem (by decide) '.' hc rfl

theorem Spans.characters (h : Spans parts n) : ∀ p ∈ parts, ∀ c ∈ p, (c == ':') = false := by
  induction h with
  | nil => simp
  | group hg _ ih =>
    rw [List.forall_mem_cons]
    exact ⟨fun c hc => beq_false_of_ne (hg.ne_of_mem (by decide) c hc), ih⟩
  | quad hq =>
    intro p hp c hc
    rw [List.mem_singleton.mp hp] at hc
    apply beq_false_of_ne
    rintro rfl
    exact absurd (hq.characters _ hc) (by decide)

theorem Spans.le_length (h : Spans parts n) : n ≤ parts.length + 1 := by
  induction h with
  | nil => simp
  | group _ _ ih => simpa using ih
  | quad _ => simp

theorem Spans.exists_groups (h : Spans parts n) :
    ∃ gs, gs.length = n ∧ (∀ g ∈ gs, g ≠ []) ∧ (∃ ns, gs.mapM Ipv6.readGroup = .ok ns) ∧
      ∀ t front, (∀ p ∈ front, p.contains '.' = false) → Ipv6.expandTail t (front ++ parts) = .ok (front ++ gs) := by
  induction h with
  | nil =>
    refine ⟨[], rfl, by simp, ⟨[], rfl⟩, fun t front hfront => ?_⟩
    rw [List.append_nil]
    exact Ipv6.expandTail_of_undotted t hfront
  | @group g rest n hg _ ih =>
    obtain ⟨gs, hlength, hne, ⟨ns, hread⟩, hexpand⟩ := ih
    obtain ⟨k, hk⟩ := hg.exists_read
    refine ⟨g :: gs, by simp [hlength], List.forall_mem_cons.mpr ⟨hg.1, hne⟩, ⟨k :: ns, ?_⟩, fun t front hfront => ?_⟩
    · rw [List.mapM_cons, hk, ok_bind, hread]
      rfl
    · have hfront' : ∀ p ∈ front ++ [g], p.contains '.' = false := by
        rw [List.forall_mem_append]
        exact ⟨hfront, by simpa using hg.undotted⟩
      simpa using hexpand t (front ++ [g]) hfront'
  | @quad q hq =>
    obtain ⟨bits, hbits⟩ := hq.exists_read
    have hhigh : bits.toNat / 65536 < 65536 := by
      have := bits.isLt
      omega
    refine ⟨[Nat.toDigits 16 (bits.toNat / 65536), Nat.toDigits 16 (bits.toNat % 65536)], rfl, ?_,
      ⟨[bits.toNat / 65536, bits.toNat % 65536], ?_⟩, fun t front _ => ?_⟩
    · simp [Nat.toDigits_ne_nil]
    · rw [List.mapM_cons, Ipv6.readGroup_toDigits hhigh, List.mapM_cons,
        Ipv6.readGroup_toDigits (Nat.mod_lt _ (by decide))]
      rfl
    · have hdot : q.contains '.' = true := List.contains_iff_mem.mpr hq.dot_mem
      simp only [Ipv6.expandTail, List.getLast?_append, List.getLast?_singleton, Option.some_or, hdot, if_true, hbits,
        AddressFault.within, ok_bind, List.dropLast_concat]
      rfl

/-! Addresses of eight groups -/

theorem sides_undotted (h : ∀ g ∈ parts, IsGroup g) : ∀ p ∈ Ipv6.sides parts, p.contains '.' = false := by
  intro p hp
  by_cases hnil : parts = []
  · subst hnil
    rw [List.mem_singleton.mp hp]
    rfl
  · rw [Ipv6.sides_of_ne_nil hnil] at hp
    exact (h p hp).undotted

theorem pieces_gap {high low : List Text} (hhigh : ∀ g ∈ high, IsGroup g) (hlow : Spans low n) :
    pieces (· == ':') (joined [':'] high ++ ':' :: ':' :: joined [':'] low) =
      Ipv6.sides high ++ [] :: Ipv6.sides low := by
  have hbare : ∀ g ∈ high, ∀ c ∈ g, (c == ':') = false := fun g hg c hc =>
    beq_false_of_ne ((hhigh g hg).ne_of_mem (by decide) c hc)
  have hcut : ':' :: joined [':'] low = [] ++ ':' :: joined [':'] low := rfl
  rw [pieces_append rfl, hcut, pieces_append rfl, Ipv6.pieces_joined_groups hbare,
    Ipv6.pieces_joined_groups hlow.characters]
  rfl

/-- Behind a gap a dotted part makes two groups, too; where nothing stands there, the one empty part stays as it is. -/
theorem expandTail_sides {front gs : List Text} (h : Spans parts n) (hlength : gs.length = n)
    (hfront : ∀ p ∈ front, p.contains '.' = false)
    (hexpand : Ipv6.expandTail t (front ++ parts) = .ok (front ++ gs)) :
    Ipv6.expandTail t (front ++ Ipv6.sides parts) = .ok (front ++ Ipv6.sides gs) := by
  by_cases hnil : parts = []
  · subst hnil
    cases h
    obtain rfl := List.length_eq_zero_iff.mp hlength
    apply Ipv6.expandTail_of_undotted
    rw [List.forall_mem_append]
    exact ⟨hfront, by simp [Ipv6.sides]⟩
  · have hgs : gs ≠ [] := by
      rintro rfl
      cases h with
      | nil => exact hnil rfl
      | group => cases hlength
      | quad => cases hlength
    rwa [Ipv6.sides_of_ne_nil hnil, Ipv6.sides_of_ne_nil hgs]

theorem IsIp6Network.exists_read (h : IsIp6Network t) : ∃ bits, Ipv6.read t = .ok bits := by
  cases h with
  | @full parts hparts =>
    obtain ⟨gs, hlength, hne, ⟨ns, hread⟩, hexpand⟩ := hparts.exists_groups
    have hlong := hparts.le_length
    have hnil : parts ≠ [] := by rintro rfl; simp at hlong
    refine ⟨_, Ipv6.read_full (pieces_joined hnil hparts.characters) (by omega) ?_ hne hlength hread⟩
    exact hexpand _ [] (by simp)
  | @gap high low n hhigh hlow hroom =>
    obtain ⟨gs, hlength, hne, ⟨ns, hread⟩, hexpand⟩ := hlow.exists_groups
    obtain ⟨ms, hreadHigh⟩ := exists_mapM_ok fun g hg => (hhigh g hg).exists_read
    have hfront : ∀ p ∈ Ipv6.sides high ++ [[]], p.contains '.' = false := by
      rw [List.forall_mem_append]
      exact ⟨sides_undotted hhigh, by simp⟩
    refine ⟨_, Ipv6.read_around (pieces_gap hhigh hlow) (Ipv6.sides_ne_nil low) ?_ (fun g hg => (hhigh g hg).1) hne
      (by omega) hreadHigh hread⟩
    simpa using expandTail_sides hlow hlength hfront (hexpand _ _ hfront)

theorem Spans.mem (h : Spans parts n) : ∀ p ∈ parts, ∀ c ∈ p, c.isAlphanum = true ∨ c = '.' := by
  induction h with
  | nil => simp
  | group hg _ ih =>
    rw [List.forall_mem_cons]
    exact ⟨fun c hc => .inl (isAlphanum_of_isHexDigit (hg.2.2 c hc)), ih⟩
  | quad hq =>
    intro p hp c hc
    rw [List.mem_singleton.mp hp] at hc
    exact (hq.characters c hc).imp_left isAlphanum_of_isDigit

theorem IsIp6Network.characters (h : IsIp6Network t) : ∀ c ∈ t, c.isAlphanum = true ∨ c = '.' ∨ c = ':' := by
  have hjoined {gs : List Text} (hgs : ∀ g ∈ gs, ∀ c ∈ g, c.isAlphanum = true ∨ c = '.') :
      ∀ c ∈ joined [':'] gs, c.isAlphanum = true ∨ c = '.' ∨ c = ':' := by
    intro c hc
    obtain hmark | ⟨g, hg, hc⟩ := of_mem_joined hc
    · exact .inr (.inr (List.mem_singleton.mp hmark))
    · exact (hgs g hg c hc).imp_right .inl
  cases h with
  | full hparts => exact hjoined hparts.mem
  | gap hhigh hlow _ =>
    rw [List.forall_mem_append, List.forall_mem_cons, List.forall_mem_cons]
    refine ⟨hjoined fun g hg c hc => ?_, .inr (.inr rfl), .inr (.inr rfl), hjoined hlow.mem⟩
    exact .inl (isAlphanum_of_isHexDigit ((hhigh g hg).2.2 c hc))

/-! Addresses and lengths -/

theorem read?_of_quad (h : IsDottedQuad t) : ∃ bits, Address.read? t = some (.v4 bits) := by
  obtain ⟨bits, hbits⟩ := h.exists_read
  exact ⟨bits, by rw [Address.read?, Address.read4_of_read hbits]⟩

theorem colon_mem_of_read {bits : Ipv6.Bits} (h : Ipv6.read t = .ok bits) : ':' ∈ t := by
  by_contra hnone
  have hpieces : pieces (· == ':') t = [t] := pieces_of_uncut fun c hc =>
    beq_false_of_ne (by rintro rfl; exact hnone hc)
  cases t with
  | nil => cases h
  | cons c r =>
    simp only [Ipv6.read, hpieces] at h
    cases h

theorem read?_of_groups (h : IsIp6Network t) : ∃ bits, Address.read? t = some (.v6 bits none) := by
  obtain ⟨bits, hbits⟩ := h.exists_read
  have hbare : '%' ∉ t := fun hc => absurd (h.characters _ hc) (by decide)
  have hslash : '/' ∉ t := fun hc => absurd (h.characters _ hc) (by decide)
  have hsix := Address.read6_of_splitZone hslash (Address.splitZone_of_bare hbare) hbits
  exact ⟨bits, Address.read?_of_read6 (colon_mem_of_read hbits) hsix⟩

theorem readLength?_decimal (hn : n ≤ most) (hmost : most ≤ 128) : Network.readLength? most (decimal n) = some n := by
  have hne : (decimal n).isEmpty = false := by simp [decimal_ne_nil]
  have hall : (decimal n).all Char.isDigit = true := List.all_eq_true.mpr fun c => isDigit_of_mem_decimal
  have hthree : (decimal n).length ≤ 3 := (Nat.length_toDigits_le_iff (by decide) (by decide)).mpr (by omega)
  have hlength : (decimal n).length ≤ maxDigits := Nat.le_trans hthree (by decide)
  simp [Network.readLength?, hne, hall, hlength, readDigits_decimal, hn]

theorem exists_network4 (hquad : IsDottedQuad network) (hlength : IsLength 32 lengths) :
    ∃ bits n, Network.read? (network ++ lengths) = some (.v4 bits n) := by
  obtain ⟨bits, hread⟩ := read?_of_quad hquad
  have hslash : '/' ∉ network := fun hc => absurd (hquad.characters _ hc) (by decide)
  cases hlength with
  | absent =>
    refine ⟨bits, 32, ?_⟩
    rw [List.append_nil, Network.read?, cutAtFirst_of_notin hslash]
    simp [hread]
  | @present n hn =>
    refine ⟨bits, n, ?_⟩
    rw [Network.read?, cutAtFirst_of_mark hslash]
    simp [hread, Network.readLength4?, readLength?_decimal hn (by decide)]

theorem exists_network6 (hgroups : IsIp6Network network) (hlength : IsLength 128 lengths) :
    ∃ bits n, Network.read? (network ++ lengths) = some (.v6 bits n) := by
  obtain ⟨bits, hread⟩ := read?_of_groups hgroups
  have hslash : '/' ∉ network := fun hc => absurd (hgroups.characters _ hc) (by decide)
  cases hlength with
  | absent =>
    refine ⟨bits, 128, ?_⟩
    rw [List.append_nil, Network.read?, cutAtFirst_of_notin hslash]
    simp [hread]
  | @present n hn =>
    refine ⟨bits, n, ?_⟩
    rw [Network.read?, cutAtFirst_of_mark hslash]
    simp [hread, readLength?_decimal hn (by decide)]

end SenderPolicy.Standard
