import SenderPolicy.Proofs.Term.RoundTrip
import SenderPolicy.Proofs.Text.Composition

/-!
What becomes of a term that is composed and read again, whether or not it is read back as it was. A mechanism that is
understood keeps its kind, whatever its value is; and a modifier that is read otherwise is not understood then, either.
-/
namespace SenderPolicy.Term
open Text
variable {c : Char} {t u : Term} {name v w : Text}

/-- What is written is read as the same term; as an address mechanism of the same kind; or it was a modifier that is not
understood, and is read as a mechanism that is not. -/
inductive Recognized : Term → Term → Prop
  | same (t : Term) : Recognized t t
  | address {t u : Term} : t.kind ∈ [Kind.a, .mx, .ptr] → u.kind = t.kind → Recognized t u
  | marked {t u : Term} : t.kind = .unknownModifier → u.kind = .unknown → Recognized t u

structure Rereads (t : Term) : Prop where
  solid : IsSolid t.compose
  recognized : Recognized t (parse t.compose)

/-! Mechanisms -/

theorem isSeparator_of_tail (hm : u.isModifier = false) : ∀ c, u.tail.head? = some c → isSeparator c := by
  intro c hc
  rw [tail, hm, if_neg Bool.false_ne_true] at hc
  cases hv : u.value with
  | some v =>
    rw [hv] at hc
    cases hc
    rfl
  | none =>
    rw [hv] at hc
    cases hl : u.cidr with
    | some lengths =>
      rw [hl] at hc
      cases hc
      rfl
    | none =>
      rw [hl] at hc
      cases hc

theorem mechanism_names : Kind.mechanisms.all (fun k => !k.isModifier && k.name.all isNameCharacter &&
    lower k.name == k.name && Kind.ofName? Kind.mechanisms k.name == some k) = true := by
  decide +kernel

theorem readBody_of_named (q : Qualifier) {kind : Kind} {front tail : Text}
    (hfront : ∀ c ∈ front, isNameCharacter c) (hlower : lower front = kind.name)
    (htail : ∀ c, tail.head? = some c → isSeparator c) :
    readBody q (front ++ tail) = ofMechanism q kind.name tail := by
  have hplain : ∀ c ∈ front, (!isSeparator c) = true := by
    intro c hc
    cases hsep : isSeparator c with
    | false => rfl
    | true => exact absurd (hfront c hc) (by simp [not_isNameCharacter_of_isSeparator hsep])
  obtain ⟨htake, hdrop⟩ := takeWhile_append_of_stop hplain fun c hc => by rw [htail c hc]; rfl
  rw [readBody_of_mechanism (splitModifier?_of_separator hfront htail), htake, hdrop, hlower]

theorem parse_compose_of_mechanism (hk : u.kind ∈ Kind.mechanisms) :
    parse u.compose = ofMechanism u.qualifier u.kind.name u.tail := by
  have hrow := List.all_eq_true.mp mechanism_names u.kind hk
  simp only [Bool.and_eq_true, Bool.not_eq_true', beq_iff_eq] at hrow
  obtain ⟨⟨⟨hm, hall⟩, hlower⟩, -⟩ := hrow
  rw [parse_compose, writtenName_of_named (List.mem_append_left _ hk) rfl,
    readBody_of_named _ (List.all_eq_true.mp hall) hlower (isSeparator_of_tail hm)]

theorem kind_parse_compose (hk : u.kind ∈ Kind.mechanisms) : (parse u.compose).kind = u.kind := by
  have hrow := List.all_eq_true.mp mechanism_names u.kind hk
  simp only [Bool.and_eq_true, beq_iff_eq] at hrow
  rw [parse_compose_of_mechanism hk, kind_ofMechanism, hrow.2, Option.getD_some]

theorem ofMechanism_hosted {kind : Kind} (hk : kind ∈ Kind.mechanisms) (hhost : kind.takesLengths = true) (q : Qualifier)
    (value : Text) : ofMechanism q kind.name (':' :: value) =
      { kind, qualifier := q, value := some (cutLengths value).1, cidr := (cutLengths value).2 } := by
  have hrow := List.all_eq_true.mp mechanism_names kind hk
  simp only [Bool.and_eq_true, beq_iff_eq] at hrow
  have hunknown : kind ≠ .unknown := fun h => absurd (h ▸ hk) (by decide)
  simp [ofMechanism, hrow.2, hunknown, hhost]

/-! Values -/

theorem of_mem_tail (h : c ∈ tail { t with value := some v }) (hm : t.isModifier = false) :
    c ∈ t.tail ∨ c = ':' ∨ c ∈ v := by
  rw [tail, show isModifier { t with value := some v } = false from hm, if_neg Bool.false_ne_true] at h
  rw [tail, hm, if_neg Bool.false_ne_true]
  rcases List.mem_append.mp h with h | h
  · exact .inr (List.mem_cons.mp h)
  · exact .inl (List.mem_append_right _ h)

theorem of_mem_compose (h : c ∈ compose { t with value := some v }) (hm : t.isModifier = false) :
    c ∈ t.compose ∨ c = ':' ∨ c ∈ v := by
  rw [compose_eq, show writtenName { t with value := some v } = t.writtenName from rfl] at h
  rw [compose_eq]
  rcases List.mem_append.mp h with h | h
  · exact .inl (List.mem_append_left _ h)
  · rcases List.mem_append.mp h with h | h
    · exact .inl (List.mem_append_right _ (List.mem_append_left _ h))
    · refine (of_mem_tail h hm).imp_left fun h => ?_
      exact List.mem_append_right _ (List.mem_append_right _ h)

theorem unbroken_value (h : Unbroken t.compose) (hv : t.value = some v) : Unbroken v := by
  refine h.of_subset fun c hc => ?_
  rw [compose_eq, tail, hv]
  refine List.mem_append_right _ (List.mem_append_right _ ?_)
  split
  · exact List.mem_cons_of_mem _ hc
  · exact List.mem_append_left _ (List.mem_cons_of_mem _ hc)

theorem compose_valued_solid (h : IsSolid t.compose) (hm : t.isModifier = false) (hv : Unbroken v) :
    IsSolid (compose { t with value := some v }) := by
  refine ⟨fun hnil => ?_, fun c hc => ?_⟩
  · have hmem : ':' ∈ compose { t with value := some v } := by
      rw [compose_eq, tail, show isModifier { t with value := some v } = false from hm, if_neg Bool.false_ne_true]
      exact List.mem_append_right _ (List.mem_append_right _ (List.mem_append_left _ List.mem_cons_self))
    rw [hnil] at hmem
    cases hmem
  · rcases of_mem_compose hc hm with hc | rfl | hc
    · exact h.2 c hc
    · decide
    · exact hv c hc

theorem rereads_valued (h : IsSolid t.compose) (hk : t.kind ∈ [Kind.a, .mx, .ptr]) (hv : Unbroken v) :
    Rereads { t with value := some v } := by
  have hall : [Kind.a, .mx, .ptr].all (fun k => !k.isModifier && Kind.mechanisms.contains k) = true := by decide
  have hrow := List.all_eq_true.mp hall t.kind hk
  simp only [Bool.and_eq_true, Bool.not_eq_true'] at hrow
  refine ⟨compose_valued_solid h hrow.1 hv, .address hk ?_⟩
  exact kind_parse_compose (u := { t with value := some v }) (List.contains_iff_mem.mp hrow.2)

/-! Terms that were read -/

theorem mem_lower_of_low (h : c ∈ w) (hlow : IsLow c) : c ∈ lower w := by
  have from_any (b : Bool) : c ∈ lowerFrom b w := by
    induction w generalizing b with
    | nil => cases h
    | cons d r ih =>
      rw [lowerFrom, List.mem_append]
      cases h with
      | head =>
        rw [lowerForm, if_neg hlow.2.1, if_neg hlow.2.2, hlow.1]
        exact .inl List.mem_cons_self
      | tail _ h => exact .inr (ih h _)
  exact from_any false

theorem kind_of_mark (q : Qualifier) (h : IsName name) (hmark : '\u0307' ∈ lower name) (value : Text) :
    (readBody q (lower name ++ '=' :: value)).kind = .unknown := by
  have hseparated : ∀ d ∈ lower name, (!isSeparator d) = true := fun d hd => by
    rw [not_isSeparator_of_mem_lower (fun c hc => ?_) d hd]
    · rfl
    · have hname := h.1 c hc
      cases hsep : isSeparator c with
      | false => rfl
      | true => rcases Bool.or_eq_true _ _ ▸ hsep with he | he <;> rw [beq_iff_eq.mp he] at hname <;> cases hname
  rw [readBody_of_mechanism (splitModifier?_of_mark h hmark value), kind_ofMechanism,
    List.takeWhile_append_of_pos hseparated]
  cases hk : Kind.ofName? Kind.mechanisms
      (lower (lower name ++ List.takeWhile (fun c => !isSeparator c) ('=' :: value))) with
  | none => rfl
  | some kind =>
    obtain ⟨hmem, hname⟩ := ofName?_eq_some hk
    have hplain : Kind.mechanisms.all (fun k => !k.name.contains '\u0307') = true := by decide
    have hrow := List.all_eq_true.mp hplain kind hmem
    have hin := mem_lower_of_low (List.mem_append_left (List.takeWhile (fun c => !isSeparator c) ('=' :: value)) hmark)
      (by decide +kernel)
    rw [hname, List.contains_iff_mem.mpr hin] at hrow
    cases hrow

theorem recognized_parse (hline : '\n' ∉ w) : Recognized (parse w) (parse (compose (parse w))) := by
  by_cases hmarked : (parse w).IsMarked
  · refine .marked hmarked.1 ?_
    rw [parse_compose]
    rw [parse_eq] at hmarked ⊢
    cases hs : splitModifier? (Qualifier.take w).2 with
    | none =>
      rw [readBody_of_mechanism hs] at hmarked
      exact absurd hmarked.1 (kind_ofMechanism_ne _ _ _)
    | some pair =>
      obtain ⟨name, value⟩ := pair
      obtain ⟨rest, heq, hname, -⟩ := splitModifier?_eq_some hs
      rw [readBody_of_modifier hs] at hmarked ⊢
      rw [writtenName_ofModifier, tail_ofModifier]
      exact kind_of_mark _ hname ((mark_iff _ _ _).mpr hmarked) value
  · rw [(parse_compose_parse_iff hline).mpr hmarked]
    exact .same _

theorem rereads_parse (h : IsSolid w) : Rereads (parse w) :=
  ⟨compose_solid h, recognized_parse fun hc => absurd (h.2 _ hc) (by decide)⟩

end SenderPolicy.Term
