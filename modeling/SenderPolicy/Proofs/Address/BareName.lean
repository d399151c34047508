import SenderPolicy.Proofs.Address.ReverseName

/-!
The name for a lookup in reverse is found for the bare address only: a newline behind it is passed over where its last
part is dotted, and with any other blank or a zone there is no name.
-/
namespace SenderPolicy.ReverseName
open Text
variable {left : Nat} {t u : Text} {ns : List Nat} {gs chunks : List Text} {seen : Bool}

theorem mem_of_padGroups? (h : padGroups? left seen chunks = some gs) : ∀ p ∈ chunks, ∀ c ∈ p, c ∈ gs.flatten := by
  induction chunks generalizing seen gs with
  | nil => exact fun p hp => nomatch hp
  | cons q rest ih =>
    rw [padGroups?] at h
    rw [List.forall_mem_cons]
    split at h
    · rename_i hempty
      split at h
      · cases h
      · obtain ⟨others, hothers, rfl⟩ := Option.map_eq_some_iff.mp h
        refine ⟨fun c hc => ?_, fun p hp c hc => ?_⟩
        · rw [List.isEmpty_iff.mp hempty] at hc
          cases hc
        · rw [List.flatten_append]
          exact List.mem_append_right _ (ih hothers p hp c hc)
    · split at h
      · cases h
      · obtain ⟨others, hothers, rfl⟩ := Option.map_eq_some_iff.mp h
        rw [List.flatten_cons]
        refine ⟨fun c hc => ?_, fun p hp c hc => ?_⟩
        · exact List.mem_append_left _ (List.mem_append_right _ hc)
        · exact List.mem_append_right _ (ih hothers p hp c hc)

theorem mem_dropOuterColon {c : Char} (h : c ∈ t) : c = ':' ∨ c ∈ dropOuterColon t := by
  unfold dropOuterColon
  split
  · rename_i hprefix
    obtain ⟨rest, rfl⟩ := List.isPrefixOf_iff_prefix.mp hprefix
    simpa using h
  · split
    · rename_i hsuffix
      obtain ⟨front, rfl⟩ := List.isSuffixOf_iff_suffix.mp hsuffix
      rcases List.mem_append.mp h with h | h
      · exact .inr (by simp [List.dropLast_append_of_ne_nil, h])
      · exact .inl (by simpa using h)
    · exact .inr h

theorem ComesTo.characters (h : ComesTo t u gs) : ∀ c ∈ u, c = ':' ∨ (Ipv6.digitValue? c).isSome = true := by
  intro c hc
  obtain hcolon | hc := mem_dropOuterColon hc
  · exact .inl hcolon
  · obtain hcolon | ⟨p, hp, hc⟩ := mem_pieces_of_mem (· == ':') hc
    · exact .inl (eq_of_beq hcolon)
    · exact .inr (h.digits c (mem_of_padGroups? h.groups p hp c hc))

theorem expandTail?_eq_some (h : expandTail? t = some u) : u = t ∨
    ∃ front tail, withoutFinalNewline t = front ++ ':' :: tail ∧ isDotted tail = true ∧ (∀ c ∈ front, c ∈ u) ∧
      ∀ w, withoutFinalNewline w = front ++ ':' :: tail → expandTail? w = some u := by
  unfold expandTail? at h
  obtain hnone | ⟨front, tail, heq, hnone⟩ := exists_last_mark ':' (withoutFinalNewline t)
  · rw [cutAtLast_of_notin hnone] at h
    exact .inl (Option.some.inj h).symm
  · rw [heq, cutAtLast_of_mark hnone] at h
    dsimp only at h
    split at h
    · rename_i hdotted
      refine .inr ⟨front, tail, heq, (Bool.and_eq_true_iff.mp hdotted).1, ?_, fun w hw => ?_⟩
      · split at h
        · rw [← Option.some.inj h]
          intro c hc
          simp [hc]
        · cases h
      · unfold expandTail?
        rw [hw, cutAtLast_of_mark hnone]
        dsimp only
        rw [if_pos hdotted]
        exact h
    · exact .inl (Option.some.inj h).symm

theorem ComesTo.tail_cases (h : ComesTo t u gs) (hdouble : t ≠ "::".toList) : u = t ∨
    ∃ front tail, withoutFinalNewline t = front ++ ':' :: tail ∧ isDotted tail = true ∧ (∀ c ∈ front, c ∈ u) ∧
      ∀ w, withoutFinalNewline w = front ++ ':' :: tail → expandTail? w = some u := by
  have htail := h.tail
  rw [if_neg hdouble] at htail
  exact expandTail?_eq_some htail

/-- A text with a newline at its end is not left as it is, so that its tail is dotted. -/
theorem ComesTo.dotted_of_newline (h : ComesTo t u gs) (hline : t.getLast? = some '\n') :
    ∃ front tail, withoutFinalNewline t = front ++ ':' :: tail ∧ isDotted tail = true ∧
      ∀ w, withoutFinalNewline w = front ++ ':' :: tail → expandTail? w = some u := by
  have hdouble : t ≠ "::".toList := by
    rintro rfl
    cases hline
  obtain rfl | ⟨front, tail, hw, hdotted, -, hsame⟩ := h.tail_cases hdouble
  · exact absurd (h.characters '\n' (List.mem_of_getLast? hline)) (by decide)
  · exact ⟨front, tail, hw, hdotted, hsame⟩

theorem withoutFinalNewline_concat (hline : t.getLast? = some '\n') : withoutFinalNewline t ++ ['\n'] = t := by
  rw [withoutFinalNewline, if_pos hline, List.dropLast_append_getLast? '\n' hline]

theorem characters_of_isDotted (h : isDotted t = true) : t ≠ [] ∧ ∀ c ∈ t, c = '.' ∨ c.isDigit = true := by
  unfold isDotted at h
  dsimp only at h
  rw [Bool.and_eq_true, beq_iff_eq, List.all_eq_true] at h
  refine ⟨(by rintro rfl; exact absurd h.1 (by decide)), fun c hc => ?_⟩
  obtain hdot | ⟨p, hp, hc⟩ := mem_pieces_of_mem (· == '.') hc
  · exact .inl (eq_of_beq hdot)
  · exact .inr (List.all_eq_true.mp (Bool.and_eq_true_iff.mp (h.2 p hp)).2 c hc)

def IsWritten (c : Char) : Prop := c = ':' ∨ c = '.' ∨ (Ipv6.digitValue? c).isSome = true

theorem isWritten_of_dotted {c : Char} (h : c = '.' ∨ c.isDigit = true) : IsWritten c := by
  obtain h | h := h
  · exact .inr (.inl h)
  · exact .inr (.inr (by rw [Ipv6.digitValue?, if_pos h]; rfl))

theorem IsWritten.isBlank {c : Char} (h : IsWritten c) : isBlank c = false := by
  obtain rfl | rfl | h := h
  · decide
  · decide
  · exact Ipv6.isBlank_of_digitValue? h

theorem ComesTo.written (h : ComesTo t u gs) : ∀ c ∈ withoutFinalNewline t, IsWritten c := by
  have hu (c : Char) (hc : c ∈ u) : IsWritten c := (h.characters c hc).imp_right .inr
  by_cases hdouble : t = "::".toList
  · subst hdouble
    have hall : (withoutFinalNewline "::".toList).all (· == ':') = true := by decide
    exact fun c hc => .inl (eq_of_beq (List.all_eq_true.mp hall c hc))
  · obtain rfl | ⟨front, tail, hw, hdotted, hfront, -⟩ := h.tail_cases hdouble
    · exact fun c hc => hu c (of_mem_withoutFinalNewline hc)
    · rw [hw, List.forall_mem_append, List.forall_mem_cons]
      exact ⟨fun c hc => hu c (hfront c hc), .inl rfl,
        fun c hc => isWritten_of_dotted ((characters_of_isDotted hdotted).2 c hc)⟩

theorem trim_eq_withoutFinalNewline (h : ∀ c ∈ withoutFinalNewline t, isBlank c = false) :
    trim t = withoutFinalNewline t := by
  by_cases hline : t.getLast? = some '\n'
  · have haround := trim_around (t := []) (w := ['\n']) (by simp) (List.forall_mem_singleton.mpr (by decide))
      (withoutFinalNewline t)
    rw [List.nil_append, withoutFinalNewline_concat hline] at haround
    exact haround.trans (trim_of_unbroken h)
  · rw [withoutFinalNewline_eq_self hline] at h ⊢
    exact trim_of_unbroken h

theorem getLast?_of_dotted {tail : Text} (h : isDotted tail = true) (front : Text) {c : Char}
    (hc : (front ++ ':' :: tail).getLast? = some c) : c = '.' ∨ c.isDigit = true := by
  obtain ⟨hne, hdigits⟩ := characters_of_isDotted h
  rw [List.append_cons, List.getLast?_append_of_ne_nil _ hne] at hc
  exact hdigits c (List.mem_of_getLast? hc)

theorem ComesTo.trim (h : ComesTo t u gs) : ComesTo (trim t) u gs := by
  rw [trim_eq_withoutFinalNewline fun c hc => (h.written c hc).isBlank]
  by_cases hline : t.getLast? = some '\n'
  case neg => rwa [withoutFinalNewline_eq_self hline]
  case pos =>
    obtain ⟨front, tail, hw, hdotted, hsame⟩ := h.dotted_of_newline hline
    have ht : front ++ ':' :: tail ++ ['\n'] = t := hw ▸ withoutFinalNewline_concat hline
    have hlast : (front ++ ':' :: tail).getLast? ≠ some ':' :=
      fun hcolon => absurd (getLast?_of_dotted hdotted front hcolon) (by decide)
    have hplain : withoutFinalNewline (front ++ ':' :: tail) = front ++ ':' :: tail :=
      withoutFinalNewline_eq_self fun hblank => absurd (getLast?_of_dotted hdotted front hblank) (by decide)
    have hother : front ++ ':' :: tail ≠ "::".toList := fun heq => hlast (by rw [heq]; rfl)
    rw [hw]
    refine { h with
      nonempty := by simp
      lone := ⟨fun hcolon => ?_, fun hcolon => absurd hcolon hlast⟩
      tail := by rw [if_neg hother]; exact hsame _ hplain }
    have hprefix : "::".toList <+: front ++ ':' :: tail ++ ['\n'] := by
      rw [ht]
      refine h.lone.1 ?_
      rw [← ht, List.head?_append, hcolon]
      rfl
    refine List.prefix_of_prefix_length_le hprefix (List.prefix_append _ _) ?_
    have hpos := List.length_pos_iff.mpr (characters_of_isDotted hdotted).1
    have htwo : "::".toList.length = 2 := rfl
    rw [List.length_append, List.length_cons]
    omega

theorem mem_withoutFinalNewline {c : Char} (h : c ∈ t) : c = '\n' ∨ c ∈ withoutFinalNewline t := by
  unfold withoutFinalNewline
  split
  · rename_i hline
    rw [← List.dropLast_append_getLast? '\n' hline, List.mem_append, List.mem_singleton] at h
    exact h.symm
  · exact .inr h

theorem dotted_of_octets? (h : octets? t = some ns) : ∀ c ∈ t, c = '.' ∨ c.isDigit = true := by
  unfold octets? at h
  obtain ⟨-, h⟩ := Option.ite_none_right_eq_some.mp h
  intro c hc
  obtain hdot | ⟨p, hp, hc⟩ := mem_pieces_of_mem (· == '.') hc
  · exact .inl (eq_of_beq hdot)
  · have hoctet := isSome_of_mapM h p hp
    rw [readOctet?, Option.isSome_ite, Bool.and_eq_true, Bool.and_eq_true, Bool.and_eq_true] at hoctet
    exact .inr (List.all_eq_true.mp hoctet.1.1.2 c hc)

theorem ofAddress?_trim {name : Text} (h : ofAddress? t = some name) :
    ofAddress? (trim t) = some name ∧ '%' ∉ t := by
  have hpercent : ¬ IsWritten '%' := by unfold IsWritten; decide
  cases hdigits : nibbles? t with
  | some digits =>
    obtain ⟨u, gs, hcomes, rfl⟩ := comesTo_of_nibbles? hdigits
    rw [ofAddress?, hdigits] at h
    refine ⟨by rwa [ofAddress?, nibbles?_of_comesTo hcomes.trim], fun hmem => ?_⟩
    obtain hline | hmem := mem_withoutFinalNewline hmem
    · cases hline
    · exact hpercent (hcomes.written '%' hmem)
  | none =>
    cases hoctets : octets? t with
    | some ns =>
      have hwritten (c : Char) (hc : c ∈ t) : IsWritten c := isWritten_of_dotted (dotted_of_octets? hoctets c hc)
      rw [trim_of_unbroken fun c hc => (hwritten c hc).isBlank]
      exact ⟨h, fun hmem => hpercent (hwritten '%' hmem)⟩
    | none =>
      rw [ofAddress?, hdigits, hoctets] at h
      cases h

/-- The reader of name servers takes the text as it stands: it has no zone, and there is nothing around it, but perhaps a
newline behind a dotted part. -/
def IsTaken (t : Text) : Prop := '%' ∉ t ∧ (trim t = t ∨ t = trim t ++ ['\n'] ∧ ':' ∈ t ∧ '.' ∈ t)

theorem dot_mem_of_isDotted (h : isDotted t = true) : '.' ∈ t := by
  by_contra hnone
  have huncut : pieces (· == '.') t = [t] :=
    pieces_of_uncut fun c hc => beq_false_of_ne (by rintro rfl; exact hnone hc)
  rw [isDotted, huncut] at h
  cases h

theorem withoutFinalNewline_append (t : Text) : withoutFinalNewline (t ++ ['\n']) = t := by
  rw [withoutFinalNewline, if_pos List.getLast?_concat, List.dropLast_concat]

theorem isTaken_of_ofAddress? {name : Text} (h : ofAddress? t = some name) : IsTaken t := by
  refine ⟨(ofAddress?_trim h).2, ?_⟩
  cases hdigits : nibbles? t with
  | some digits =>
    obtain ⟨u, gs, hcomes, -⟩ := comesTo_of_nibbles? hdigits
    rw [trim_eq_withoutFinalNewline fun c hc => (hcomes.written c hc).isBlank]
    by_cases hline : t.getLast? = some '\n'
    case neg => exact .inl (withoutFinalNewline_eq_self hline)
    case pos =>
      obtain ⟨front, tail, hw, hdotted, -⟩ := hcomes.dotted_of_newline hline
      have hmem {c : Char} (hc : c ∈ front ++ ':' :: tail) : c ∈ t := of_mem_withoutFinalNewline (hw ▸ hc)
      exact .inr ⟨(withoutFinalNewline_concat hline).symm, hmem (by simp),
        hmem (by simp [dot_mem_of_isDotted hdotted])⟩
  | none =>
    cases hoctets : octets? t with
    | some ns =>
      exact .inl (trim_of_unbroken fun c hc => (isWritten_of_dotted (dotted_of_octets? hoctets c hc)).isBlank)
    | none =>
      rw [ofAddress?, hdigits, hoctets] at h
      cases h

theorem ComesTo.newline (h : ComesTo t u gs) (hdot : '.' ∈ t) (hline : t.getLast? ≠ some '\n') :
    ComesTo (t ++ ['\n']) u gs := by
  have hdouble : t ≠ "::".toList := by
    rintro rfl
    exact absurd hdot (by decide)
  have hother : t ++ ['\n'] ≠ "::".toList := by
    intro heq
    have hlast := congrArg List.getLast? heq
    rw [List.getLast?_concat] at hlast
    cases hlast
  obtain rfl | ⟨front, tail, hw, -, -, hsame⟩ := h.tail_cases hdouble
  · -- a text that is left as it is has no dots
    exact absurd (h.characters '.' hdot) (by decide)
  · rw [withoutFinalNewline_eq_self hline] at hw
    refine { h with
      nonempty := List.append_ne_nil_of_left_ne_nil h.nonempty _
      lone := ⟨fun hcolon => ?_, fun hcolon => ?_⟩
      tail := by rw [if_neg hother]; exact hsame _ ((withoutFinalNewline_append t).trans hw) }
    · rw [List.head?_append_of_ne_nil _ h.nonempty] at hcolon
      exact (h.lone.1 hcolon).trans (List.prefix_append _ _)
    · rw [List.getLast?_concat] at hcolon
      cases hcolon

/-- Behind a dotted part a newline is passed over. -/
theorem ofAddress?_newline {name : Text} (h : ofAddress? t = some name) (hcolon : ':' ∈ t) (hdot : '.' ∈ t)
    (hline : t.getLast? ≠ some '\n') : ofAddress? (t ++ ['\n']) = some name := by
  cases hdigits : nibbles? t with
  | some digits =>
    obtain ⟨u, gs, hcomes, rfl⟩ := comesTo_of_nibbles? hdigits
    rw [ofAddress?, hdigits] at h
    rwa [ofAddress?, nibbles?_of_comesTo (hcomes.newline hdot hline)]
  | none =>
    cases hoctets : octets? t with
    | some ns => exact absurd (dotted_of_octets? hoctets ':' hcolon) (by decide)
    | none =>
      rw [ofAddress?, hdigits, hoctets] at h
      cases h

/-! Addresses -/

theorem ofAddress?_of_isTaken {a : Address} (h : Address.parse? t = some a) (ht : IsTaken t) :
    ofAddress? t = some (nameOf a) := by
  obtain ⟨b, hread, rfl⟩ := Option.map_eq_some_iff.mp h
  obtain ⟨hpercent, htaken⟩ := ht
  have hname : ofAddress? (trim t) = some (nameOf b.unmapped) :=
    ofAddress?_of_read? hread fun hs => hpercent (of_mem_trimmed (Address.percent_mem_of_read? hread hs))
  obtain htrim | ⟨hline, hcolon, hdot⟩ := htaken
  · rwa [htrim] at hname
  · rw [hline, List.mem_append] at hcolon hdot
    rw [hline]
    refine ofAddress?_newline hname (hcolon.resolve_right (by decide)) (hdot.resolve_right (by decide)) fun hlast => ?_
    exact absurd (isBlank_of_getLast?_trim hlast) (by decide)

theorem eq_nameOf {name : Text} {a : Address} (h : Address.parse? t = some a) (hname : ofAddress? t = some name) :
    name = nameOf a := by
  obtain ⟨htrim, hpercent⟩ := ofAddress?_trim hname
  obtain ⟨b, hread, rfl⟩ := Option.map_eq_some_iff.mp h
  have hbare : ¬ b.IsScoped := fun hs => hpercent (of_mem_trimmed (Address.percent_mem_of_read? hread hs))
  rw [ofAddress?_of_read? hread hbare] at htrim
  exact (Option.some.inj htrim).symm

end SenderPolicy.ReverseName
