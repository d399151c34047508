import SenderPolicy.Macro.Expand
import SenderPolicy.Proofs.Address.BareName
import SenderPolicy.Proofs.Dns.Questions

/-!
The name of an address in reverse is made twice: by a macro, from the parts of the address that is read, and by the reader
of name servers, from the text. An address gets the same name in both ways.
-/
namespace SenderPolicy.Macro
open Text Dns
variable {c : Context} {a : Address} {parts : List Text}

/-! The name by macros -/

/-- The address in reverse, below the domain of its family. -/
def reversal : Text := "%{ir}.%{v}.arpa."

def partsOf : Address → List Text
  | .v4 bits => (Ipv4.octets bits).map decimal
  | .v6 bits _ => (Ipv6.nibbles bits).map fun c => [c]

def familyOf : Address → Text
  | .v4 _ => "in-addr"
  | .v6 _ _ => "ip6"

theorem nameOf_eq (a : Address) :
    ReverseName.nameOf a = joined ['.'] (partsOf a).reverse ++ '.' :: (familyOf a ++ ".arpa.") := by
  cases a with
  | v4 bits => rw [partsOf, ← List.map_reverse]; rfl
  | v6 bits zone => rw [partsOf, ← List.map_reverse]; rfl

theorem dotless_of_mem_partsOf (a : Address) : ∀ p ∈ partsOf a, ∀ d ∈ p, (d == '.') = false := by
  cases a with
  | v4 bits =>
    intro p hp d hd
    obtain ⟨n, -, rfl⟩ := List.mem_map.mp hp
    refine beq_false_of_ne ?_
    rintro rfl
    exact absurd (isDigit_of_mem_decimal hd) (by decide)
  | v6 bits zone =>
    intro p hp d hd
    obtain ⟨e, he, rfl⟩ := List.mem_map.mp hp
    obtain rfl := List.mem_singleton.mp hd
    refine beq_false_of_ne ?_
    rintro rfl
    exact absurd (Ipv6.isSome_of_mem_nibbles he) (by decide)

theorem partsOf_ne_nil (a : Address) : partsOf a ≠ [] := by
  cases a with
  | v4 bits => exact List.cons_ne_nil _ _
  | v6 bits zone =>
    refine List.ne_nil_of_length_pos ?_
    rw [partsOf, List.length_map, Ipv6.length_nibbles]
    decide

theorem filter_fullText (bits : Ipv6.Bits) : (Ipv6.fullText bits).filter (· != ':') = Ipv6.nibbles bits := by
  refine filter_joined fun p hp d hd => beq_false_of_ne ?_
  obtain ⟨n, hn, rfl⟩ := List.mem_map.mp hp
  rintro rfl
  exact absurd (Ipv6.isSome_of_mem_hexadecimal (Ipv6.lt_of_mem_groups hn) hd) (by decide)

/-- With dots between them the parts are what the letter of the address stands for. -/
theorem dottedAddress_eq (hscope : ¬ a.IsScoped) : Context.dottedAddress a = .ok (joined ['.'] (partsOf a)) := by
  cases a with
  | v4 bits => rfl
  | v6 bits zone =>
    cases zone with
    | some zone => exact absurd trivial hscope
    | none =>
      have hfull : (Address.v6 bits none).fullText = .ok (Ipv6.fullText bits) := by
        rw [Address.fullText, Address.text, Ipv6.read_text]
        rfl
      rw [Context.dottedAddress, hfull]
      dsimp only
      rw [filter_fullText, partsOf]

theorem transformed_reversed (hne : parts ≠ []) (h : ∀ p ∈ parts, ∀ d ∈ p, (d == '.') = false) :
    transformed ⟨'i', [], true, []⟩ (joined ['.'] parts) = .ok (joined ['.'] parts.reverse) := by
  have hdot : (fun d => ['.'].contains d) = (· == '.') := by
    funext d
    rw [List.contains_cons, List.contains_nil, Bool.or_false]
  have hpieces : pieces (fun d => ['.'].contains d) (joined ['.'] parts) = parts := by rw [hdot, pieces_joined hne h]
  have hlower : isCapital 'i' = false := by decide
  simp only [transformed, List.isEmpty_nil, if_true, hpieces, lastParts, ok_bind, hlower]
  rfl

theorem expandPieces_characters (c : Context) (t : Text) : expandPieces c (t.map .character) = .ok t := by
  induction t with
  | nil => rfl
  | cons d r ih => rw [List.map_cons, expandPieces, ih]; rfl

theorem letterValue_of_parse? (h : Address.parse? c.ip = some a) {letter : Char} (hletter : letter = 'i' ∨ letter = 'v') :
    c.letterValue letter = Context.addressValue a letter := by
  obtain rfl | rfl := hletter
  · rw [Context.letterValue, h]
    rfl
  · rw [Context.letterValue, h]
    rfl

theorem addressValue_family (a : Address) : Context.addressValue a 'v' = .ok (familyOf a) := by
  cases a <;> rfl

theorem transformed_familyOf (a : Address) : transformed ⟨'v', [], false, []⟩ (familyOf a) = .ok (familyOf a) := by
  have hshort : transformed ⟨'v', [], false, []⟩ "in-addr" = .ok "in-addr" := by decide
  have hlong : transformed ⟨'v', [], false, []⟩ "ip6" = .ok "ip6" := by decide
  cases a with
  | v4 bits => exact hshort
  | v6 bits zone => exact hlong

theorem expand_reversal (h : Address.parse? c.ip = some a) (hscope : ¬ a.IsScoped) :
    expand c reversal = .ok (ReverseName.nameOf a) := by
  have hscan : scan reversal = .expansion ⟨'i', [], true, []⟩ :: .character '.' :: .expansion ⟨'v', [], false, []⟩ ::
      ".arpa.".toList.map .character := by decide
  have haddress : c.letterValue 'i' = .ok (joined ['.'] (partsOf a)) :=
    (letterValue_of_parse? h (.inl rfl)).trans (dottedAddress_eq hscope)
  have hfamily : c.letterValue 'v' = .ok (familyOf a) :=
    (letterValue_of_parse? h (.inr rfl)).trans (addressValue_family a)
  rw [expand, hscan, nameOf_eq]
  simp only [expandPieces, expandPiece, haddress, hfamily, ok_bind, expandPieces_characters, transformed_familyOf,
    transformed_reversed (partsOf_ne_nil a) (dotless_of_mem_partsOf a)]
  rfl

/-! The name that is asked for -/

variable {σ : Type}

theorem questions_for_names (wire : Wire σ) (now : Int) (r : Resolver) (s : σ) {ip name : Text}
    (h : ReverseName.ofAddress? ip = some name) :
    ∃ k ≤ r.timeoutRetries.toNat + 1, (k = 0 ↔ Resolver.IsKept now .ptr name r) ∧
      Resolver.questions wire now ⟨.names, ip⟩ r s = List.replicate k (.ptr, name) := by
  have hsubject : Resolver.subject? ⟨.names, ip⟩ = some (.ptr, name) := by rw [Resolver.subject?, h]; rfl
  have hasked := Resolver.questions_of_subject wire now ⟨.names, ip⟩ r s
  rw [hsubject] at hasked
  exact hasked

/-- An address without a zone, in whatever spelling and for whatever domain, has one name in reverse: it is what the
macros come to, and nothing else is asked for when the names of the address are looked up. Unless its records are kept, it
is asked for if the spelling is taken as it stands; for any other, with a zone or with blanks around it, nothing is. -/
theorem reversal_is_asked (wire : Wire σ) (now : Int) (r : Resolver) (s : σ) (h : Address.parse? c.ip = some a)
    (hscope : ¬ a.IsScoped) :
    expand c reversal = .ok (ReverseName.nameOf a) ∧
      (∀ question ∈ Resolver.questions wire now ⟨.names, c.ip⟩ r s, question = (.ptr, ReverseName.nameOf a)) ∧
      (ReverseName.IsTaken c.ip → ∃ k ≤ r.timeoutRetries.toNat + 1,
        (k = 0 ↔ Resolver.IsKept now .ptr (ReverseName.nameOf a) r) ∧
        Resolver.questions wire now ⟨.names, c.ip⟩ r s = List.replicate k (.ptr, ReverseName.nameOf a)) ∧
      (¬ ReverseName.IsTaken c.ip → Resolver.questions wire now ⟨.names, c.ip⟩ r s = []) := by
  have hnothing (hname : ReverseName.ofAddress? c.ip = none) : Resolver.questions wire now ⟨.names, c.ip⟩ r s = [] := by
    have hasked := Resolver.questions_of_subject wire now ⟨.names, c.ip⟩ r s
    rwa [Resolver.subject?, hname] at hasked
  refine ⟨expand_reversal h hscope, fun question hmem => ?_, fun htaken => ?_, fun htaken => ?_⟩
  · cases hname : ReverseName.ofAddress? c.ip with
    | none =>
      rw [hnothing hname] at hmem
      cases hmem
    | some name =>
      obtain ⟨k, -, -, hasked⟩ := questions_for_names wire now r s hname
      obtain rfl := ReverseName.eq_nameOf h hname
      rw [hasked] at hmem
      exact List.eq_of_mem_replicate hmem
  · exact questions_for_names wire now r s (ReverseName.ofAddress?_of_isTaken h htaken)
  · exact hnothing (Option.eq_none_iff_forall_ne_some.mpr fun _ hname =>
      htaken (ReverseName.isTaken_of_ofAddress? hname))

def slowWire : Wire Nat := fun _ _ asked =>
  (match asked with
    | 0 => .timeout
    | _ + 1 => .data [.text "host.example."], asked + 1)

/-- An address that stands for a shorter one is asked for by the name of that one, and once more after the timeout. -/
theorem mapped_address_is_asked :
    let c : Context := { domain := "d.example", ip := "0:0::FFFF:192.0.2.1", now := 0 }
    let a : Address := .v4 0xC0000201
    Address.parse? c.ip = some a ∧ ¬ a.IsScoped ∧ ReverseName.IsTaken c.ip ∧
      ReverseName.nameOf a = "1.2.0.192.in-addr.arpa." ∧ ¬ Resolver.IsKept 0 .ptr (ReverseName.nameOf a) {} ∧
      Resolver.questions slowWire 0 ⟨.names, c.ip⟩ {} 0 = List.replicate 2 (.ptr, ReverseName.nameOf a) ∧
      expand c reversal = .ok (ReverseName.nameOf a) ∧
      (∀ question ∈ Resolver.questions slowWire 0 ⟨.names, c.ip⟩ {} 0, question = (.ptr, ReverseName.nameOf a)) ∧
      ∃ k ≤ 3, (k = 0 ↔ Resolver.IsKept 0 .ptr (ReverseName.nameOf a) {}) ∧
        Resolver.questions slowWire 0 ⟨.names, c.ip⟩ {} 0 = List.replicate k (.ptr, ReverseName.nameOf a) := by
  intro c a
  have hparse : Address.parse? c.ip = some a := by decide +kernel
  have hscope : ¬ a.IsScoped := id
  have htaken : ReverseName.IsTaken c.ip := ⟨by decide +kernel, .inl (by decide +kernel)⟩
  obtain ⟨hexpand, honly, hasked, -⟩ := reversal_is_asked slowWire 0 {} 0 hparse hscope
  exact ⟨hparse, hscope, htaken, by decide +kernel, by decide +kernel, by decide +kernel, hexpand, honly, hasked htaken⟩

/-- With a blank in front of it an address has its name by the macros, but it is not asked for. -/
theorem padded_address_is_not_asked :
    let c : Context := { domain := "d.example", ip := " 192.0.2.1", now := 0 }
    Address.parse? c.ip = some (.v4 0xC0000201) ∧ expand c reversal = .ok "1.2.0.192.in-addr.arpa." ∧
      ¬ Resolver.IsKept 0 .ptr "1.2.0.192.in-addr.arpa." {} ∧
      Resolver.questions slowWire 0 ⟨.names, c.ip⟩ {} 0 = [] ∧
      (Resolver.reply slowWire 0 ⟨.names, c.ip⟩ {} 0).1 = .failed .dns "Text input is malformed." := by
  decide +kernel

end SenderPolicy.Macro
