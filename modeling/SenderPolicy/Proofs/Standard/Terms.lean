import SenderPolicy.Proofs.Standard.Reading

/-!
Terms of the standard under the audit. A derived term passes its check exactly if it is admitted: the audit asks for more
than the grammar does in three ways.
-/
namespace SenderPolicy.Standard
open Text Audit
variable {q : Qualifier} {kind : Kind} {t : Term} {w : Written}
variable {name tail value spec lengths network : Text}

/-- What the audit asks of a term beyond the grammar. The value has only characters that are let pass; no slash of a host
stands outside of braces, where it is taken for that of prefix lengths; and no macro has more digits than are read. -/
structure Written.IsAdmitted (w : Written) : Prop where
  characters : ∀ v, w.value = some v → ∀ c ∈ v, isValueCharacter c = true
  whole : w.kind.takesLengths = true → ∀ v, w.value = some v → (Term.cutLengths v).2 = none
  short : takesName w.kind = true → ∀ v, w.value = some v → Macro.IsShort v

/-! The grammar of the audit -/

theorem mechanism_facts (hk : kind ∈ Kind.mechanisms) :
    Kind.ofName? Kind.mechanisms kind.name = some kind ∧ kind ≠ .unknown ∧ kind.name.all Char.isAlphanum = true := by
  have hall : ∀ kind ∈ Kind.mechanisms, Kind.ofName? Kind.mechanisms kind.name = some kind ∧ kind ≠ .unknown ∧
      kind.name.all Char.isAlphanum = true := by
    decide +kernel
  exact hall kind hk

theorem checkGrammar_ofMechanism (hk : kind ∈ Kind.mechanisms) (htail : ∀ c, tail.head? = some c → Term.isSeparator c) :
    checkGrammar (Term.ofMechanism q kind.name tail) = .ok () ↔ ∀ c ∈ tail, isValueCharacter c = true := by
  obtain ⟨hofName, hne, hname⟩ := mechanism_facts hk
  have hkind : (Term.ofMechanism q kind.name tail).kind ≠ .unknown := by
    rwa [Term.kind_ofMechanism, hofName]
  have hbody := (Term.take_compose (Term.ofMechanism q kind.name tail)).2
  rw [Term.writtenName_ofMechanism, Term.tail_ofMechanism _ _ htail] at hbody
  have hiff := departure?_eq_none_iff (t := Term.compose (Term.ofMechanism q kind.name tail))
  rw [hbody, and_iff_right (isSome_behindFirst?_of_mechanism hk tail), List.forall_mem_append,
    and_iff_right fun c hc => isValueCharacter_of_isAlphanum (List.all_eq_true.mp hname c hc)] at hiff
  rw [← hiff, checkGrammar, if_neg hkind]
  cases departure? (Term.compose (Term.ofMechanism q kind.name tail)) <;> simp

theorem checkGrammar_ofModifier (hname : Term.IsName name) :
    checkGrammar (Term.ofModifier q name value) = .ok () ↔ ∀ c ∈ value, isValueCharacter c = true := by
  have hkind : (Term.ofModifier q name value).kind ≠ .unknown := by
    rw [Term.kind_ofModifier]
    cases hk : Kind.ofName? Kind.modifiers name with
    | none => decide
    | some kind =>
      have hall : ∀ kind ∈ Kind.modifiers, kind ≠ .unknown := by decide
      exact hall kind (Term.ofName?_eq_some hk).1
  have hbody := (Term.take_compose (Term.ofModifier q name value)).2
  rw [Term.writtenName_ofModifier, Term.tail_ofModifier] at hbody
  have hiff := departure?_eq_none_iff (t := Term.compose (Term.ofModifier q name value))
  have hequals : isValueCharacter '=' = true := by decide
  rw [hbody, and_iff_right (isSome_behindFirst?_of_modifier hname value), List.forall_mem_append,
    and_iff_right fun c hc => isValueCharacter_of_isNameCharacter (hname.1 c hc), List.forall_mem_cons,
    and_iff_right hequals] at hiff
  rw [← hiff, checkGrammar, if_neg hkind]
  cases departure? (Term.compose (Term.ofModifier q name value)) <;> simp

theorem checkMacros_eq_ok_iff (hk : takesName t.kind = true) (hv : t.value = some value)
    (hvalue : IsMacroString value) : checkMacros t = .ok () ↔ Macro.IsShort value := by
  rw [← check_eq_ok_iff_isShort hvalue]
  simp only [checkMacros, hv, hk, if_true]
  cases Macro.check value with
  | ok u => simp
  | error flaw => cases flaw <;> simp

/-! Mechanisms without prefix lengths -/

theorem ofMechanism_bare (hk : kind ∈ Kind.mechanisms) (q : Qualifier) :
    Term.ofMechanism q kind.name [] = { kind, qualifier := q } := by
  obtain ⟨hofName, hne, -⟩ := mechanism_facts hk
  simp [Term.ofMechanism, hofName, hne]

theorem ofMechanism_valued (hk : kind ∈ Kind.mechanisms) (hplain : kind.takesLengths = false) (q : Qualifier)
    (value : Text) : Term.ofMechanism q kind.name (':' :: value) = { kind, qualifier := q, value := some value } := by
  obtain ⟨hofName, hne, -⟩ := mechanism_facts hk
  simp [Term.ofMechanism, hofName, hne, hplain]

theorem checkTerm_bare (hk : kind ∈ [Kind.all, .a, .mx, .ptr]) (q : Qualifier) :
    checkTerm (Term.ofMechanism q kind.name []) = .ok () := by
  have hmem : kind ∈ Kind.mechanisms := by
    have hall : ∀ kind ∈ [Kind.all, .a, .mx, .ptr], kind ∈ Kind.mechanisms := by decide
    exact hall kind hk
  have hgrammar : checkGrammar (Term.ofMechanism q kind.name []) = .ok () :=
    (checkGrammar_ofMechanism hmem (by simp)).mpr (by simp)
  rw [checkTerm_eq_ok_iff, and_iff_right hgrammar, ofMechanism_bare hmem]
  simp only [List.mem_cons, List.not_mem_nil, or_false] at hk
  obtain rfl | rfl | rfl | rfl := hk <;> exact ⟨rfl, rfl, rfl⟩

theorem checkTerm_named (hk : kind ∈ [Kind.inclusion, .existence, .ptr]) (hspec : IsDomainSpec spec) (q : Qualifier) :
    checkTerm (Term.ofMechanism q kind.name (':' :: spec)) = .ok () ↔
      (∀ c ∈ spec, isValueCharacter c = true) ∧ Macro.IsShort spec := by
  have hall : ∀ kind ∈ [Kind.inclusion, .existence, .ptr], kind ∈ Kind.mechanisms ∧ kind.takesLengths = false ∧
      takesName kind = true := by decide
  obtain ⟨hmem, hplain, htakes⟩ := hall kind hk
  have hcolon : isValueCharacter ':' = true := by decide
  have hmacros := checkMacros_eq_ok_iff (t := { kind, qualifier := q, value := some spec }) htakes rfl
    hspec.isMacroString
  rw [checkTerm_eq_ok_iff, checkGrammar_ofMechanism hmem (by simp [Term.isSeparator]), List.forall_mem_cons,
    and_iff_right hcolon, ofMechanism_valued hmem hplain, hmacros]
  have hvalue : checkValue { kind, qualifier := q, value := some spec } = .ok () := by
    simp only [List.mem_cons, List.not_mem_nil, or_false] at hk
    obtain rfl | rfl | rfl := hk <;> simp [checkValue, hasValue, hspec.ne_nil]
  have hlengths : checkLengths { kind, qualifier := q, value := some spec } = .ok () := rfl
  rw [and_iff_right hvalue, and_iff_right hlengths]

/-! Networks -/

theorem checkTerm_network (hk : kind = .ip4 ∨ kind = .ip6) (hvalues : ∀ c ∈ value, isValueCharacter c = true)
    (hcheck : checkNetwork { kind, qualifier := q, value := some value } = .ok ()) :
    checkTerm (Term.ofMechanism q kind.name (':' :: value)) = .ok () := by
  have hmem : kind ∈ Kind.mechanisms := by obtain rfl | rfl := hk <;> decide
  have hplain : kind.takesLengths = false := by obtain rfl | rfl := hk <;> rfl
  have hcolon : isValueCharacter ':' = true := by decide
  have hgrammar : checkGrammar (Term.ofMechanism q kind.name (':' :: value)) = .ok () := by
    rw [checkGrammar_ofMechanism hmem (by simp [Term.isSeparator]), List.forall_mem_cons]
    exact ⟨hcolon, hvalues⟩
  rw [checkTerm_eq_ok_iff, and_iff_right hgrammar, ofMechanism_valued hmem hplain]
  obtain rfl | rfl := hk <;> exact ⟨hcheck, rfl, rfl⟩

theorem checkNetwork_of_read? {net : Network} (hpercent : '%' ∉ value) (hread : Network.read? value = some net)
    (hfamily : kind = .ip4 ∧ (∃ bits n, net = .v4 bits n) ∨ kind = .ip6 ∧ ∃ bits n, net = .v6 bits n)
    (q : Qualifier) : checkNetwork { kind, qualifier := q, value := some value } = .ok () := by
  cases value with
  | nil => cases hread
  | cons c r => obtain ⟨rfl, bits, n, rfl⟩ | ⟨rfl, bits, n, rfl⟩ := hfamily <;> simpa [checkNetwork, hread] using hpercent

/-! Hosts with prefix lengths -/

theorem ofMechanism_slash (hk : kind ∈ Kind.mechanisms) (q : Qualifier) (cidr : Text) :
    Term.ofMechanism q kind.name ('/' :: cidr) = { kind, qualifier := q, cidr := some cidr } := by
  obtain ⟨hofName, hne, -⟩ := mechanism_facts hk
  simp [Term.ofMechanism, hofName, hne]

theorem host_facts (hk : kind = .a ∨ kind = .mx) :
    kind ∈ Kind.mechanisms ∧ kind.takesLengths = true ∧ takesName kind = true := by
  obtain rfl | rfl := hk <;> decide

theorem checkTerm_hostless (hk : kind = .a ∨ kind = .mx) (hlengths : IsDualLength lengths) (q : Qualifier) :
    checkTerm (Term.ofMechanism q kind.name lengths) = .ok () := by
  obtain ⟨hmem, hhost, -⟩ := host_facts hk
  cases hlengths with
  | absent => exact checkTerm_bare (by obtain rfl | rfl := hk <;> decide) q
  | @present cidr hdual =>
    have hgrammar : checkGrammar (Term.ofMechanism q kind.name ('/' :: cidr)) = .ok () :=
      (checkGrammar_ofMechanism hmem (by simp [Term.isSeparator])).mpr fun c hc =>
        isValueCharacter_of_length ((IsDualLength.present hdual).characters c hc)
    rw [checkTerm_eq_ok_iff, and_iff_right hgrammar, ofMechanism_slash hmem]
    refine ⟨?_, checkLengths_of_isDual hhost rfl hdual, rfl⟩
    obtain rfl | rfl := hk <;> rfl

/-- A host is passed with its prefix lengths if it is not cut too early. -/
theorem checkTerm_hosted (hk : kind = .a ∨ kind = .mx) (hspec : IsDomainSpec spec) (hlengths : IsDualLength lengths)
    (q : Qualifier) :
    checkTerm (Term.ofMechanism q kind.name (':' :: (spec ++ lengths))) = .ok () ↔
      (∀ c ∈ spec, isValueCharacter c = true) ∧ (Term.cutLengths spec).2 = none ∧ Macro.IsShort spec := by
  obtain ⟨hmem, hhost, htakes⟩ := host_facts hk
  have hcolon : isValueCharacter ':' = true := by decide
  have hrest : ∀ c ∈ lengths, isValueCharacter c = true := fun c hc =>
    isValueCharacter_of_length (hlengths.characters c hc)
  rw [checkTerm_eq_ok_iff, checkGrammar_ofMechanism hmem (by simp [Term.isSeparator]), List.forall_mem_cons,
    and_iff_right hcolon, List.forall_mem_append, and_iff_left hrest, Term.ofMechanism_hosted hmem hhost]
  apply and_congr_right
  intro _
  obtain ⟨front, behind, hcut, hmark⟩ | ⟨depth, hcut⟩ := hspec.cut
  · have hbare := hcut []
    rw [List.append_nil, List.append_nil] at hbare
    rw [hcut, hbare]
    refine iff_of_false (fun h => ?_) (by simp)
    obtain ⟨c, hc, hmark⟩ := hmark
    exact checkLengths_ne_ok rfl ⟨c, List.mem_append_left _ hc, hmark⟩ h.2.1
  · have hbare := hcut []
    rw [List.append_nil] at hbare
    obtain ⟨extra, cidr?, hlast, hextra, hdual⟩ := cutLengthsAt_lengths hlengths depth
    have hliteral : ∀ c ∈ extra, IsLiteral c := fun c hc => isLiteral_of_length (hextra c hc)
    rw [hcut, hbare, hlast, ← isShort_append hspec.isMacroString hliteral]
    have hmacros := checkMacros_eq_ok_iff (t := { kind, qualifier := q, value := some (spec ++ extra), cidr := cidr? })
      htakes rfl (hspec.isMacroString.append (.of_literals hliteral))
    have hvalue : checkValue { kind, qualifier := q, value := some (spec ++ extra), cidr := cidr? } = .ok () := by
      obtain rfl | rfl := hk <;> simp [checkValue, hspec.ne_nil]
    have hpassed : checkLengths { kind, qualifier := q, value := some (spec ++ extra), cidr := cidr? } = .ok () := by
      cases cidr? with
      | none => rfl
      | some cidr => exact checkLengths_of_isDual hhost rfl (hdual cidr rfl)
    have hnone : (Term.cutLengthsAt depth []).2 = none := rfl
    rw [hmacros, and_iff_right hvalue, and_iff_right hpassed, and_iff_right hnone]

/-! Modifiers -/

theorem checkTerm_modifier (hname : Term.IsName name) (hknown : Kind.ofName? Kind.modifiers name = some kind)
    (hspec : IsMacroString spec) (hne : spec ≠ []) :
    checkTerm (Term.ofModifier .pass name spec) = .ok () ↔
      (∀ c ∈ spec, isValueCharacter c = true) ∧ Macro.IsShort spec := by
  have hk : kind ∈ Kind.modifiers := (Term.ofName?_eq_some hknown).1
  have htakes : ∀ kind ∈ Kind.modifiers, takesName kind = true := by decide
  have hterm : Term.ofModifier .pass name spec = { kind, value := some spec } := by
    simp [Term.ofModifier, hknown]
  have hmacros := checkMacros_eq_ok_iff (t := { kind, value := some spec }) (htakes kind hk) rfl hspec
  rw [checkTerm_eq_ok_iff, checkGrammar_ofModifier hname, hterm, hmacros]
  have hvalue : checkValue { kind, value := some spec } = .ok () := by
    simp only [Kind.modifiers, List.mem_cons, List.not_mem_nil, or_false] at hk
    obtain rfl | rfl := hk <;> simp [checkValue, hasValue, hne]
  have hlengths : checkLengths { kind, value := some spec } = .ok () := rfl
  rw [and_iff_right hvalue, and_iff_right hlengths]

theorem checkTerm_other (hname : Term.IsName name) (hother : Kind.ofName? Kind.modifiers name = none) :
    checkTerm (Term.ofModifier .pass name value) = .ok () ↔ ∀ c ∈ value, isValueCharacter c = true := by
  have hterm : Term.ofModifier .pass name value =
      { kind := .unknownModifier, value := some value, name := some name } := by
    simp [Term.ofModifier, hother]
  rw [checkTerm_eq_ok_iff, checkGrammar_ofModifier hname, hterm]
  exact and_iff_left ⟨rfl, rfl, rfl⟩

/-! All terms -/

theorem isAdmitted_of_none (h : w.value = none) : w.IsAdmitted := by
  constructor <;> simp [h]

theorem isAdmitted_iff (h : w.value = some value) :
    w.IsAdmitted ↔ (∀ c ∈ value, isValueCharacter c = true) ∧
      (w.kind.takesLengths = true → (Term.cutLengths value).2 = none) ∧
      (takesName w.kind = true → Macro.IsShort value) := by
  constructor
  · intro hw
    exact ⟨hw.characters value h, fun hk => hw.whole hk value h, fun hk => hw.short hk value h⟩
  · intro hw
    exact ⟨by simpa [h] using hw.1, by simpa [h] using hw.2.1, by simpa [h] using hw.2.2⟩

namespace Derived

theorem checkTerm_bare_iff (h : Derived w) (hk : w.kind ∈ [Kind.all, .ptr]) (hv : w.value = none) :
    checkTerm (Term.parse w.text) = .ok () ↔ w.IsAdmitted := by
  have hfacts : ∀ kind ∈ [Kind.all, .ptr], kind ∈ Kind.mechanisms ∧ kind ∈ [Kind.all, .a, .mx, .ptr] := by decide
  obtain ⟨hmem, hbare⟩ := hfacts w.kind hk
  have hlengths : w.lengths = [] := by
    cases h with
    | all | ptr => rfl
    | _ => simp at hk
  have htail : w.tail = [] := by simp [Written.tail, hv, hlengths]
  rw [h.parse_directive hmem, htail]
  exact iff_of_true (checkTerm_bare hbare _) (isAdmitted_of_none hv)

theorem checkTerm_named_iff (h : Derived w) (hk : w.kind ∈ [Kind.inclusion, .existence, .ptr])
    (hv : w.value = some spec) (hl : w.lengths = []) (hspec : IsDomainSpec spec) :
    checkTerm (Term.parse w.text) = .ok () ↔ w.IsAdmitted := by
  have hfacts : ∀ kind ∈ [Kind.inclusion, .existence, .ptr], kind ∈ Kind.mechanisms ∧ kind.isModifier = false ∧
      kind.takesLengths = false ∧ takesName kind = true := by decide
  obtain ⟨hmem, hplain, htakes, hnamed⟩ := hfacts w.kind hk
  have htail : w.tail = ':' :: spec := by simp [Written.tail, hv, hl, hplain]
  rw [h.parse_directive hmem, htail, checkTerm_named hk hspec, isAdmitted_iff hv]
  simp [htakes, hnamed]

theorem checkTerm_host_iff (h : Derived w) (hk : w.kind = .a ∨ w.kind = .mx)
    (hspec : ∀ spec, w.value = some spec → IsDomainSpec spec) (hl : IsDualLength w.lengths) :
    checkTerm (Term.parse w.text) = .ok () ↔ w.IsAdmitted := by
  obtain ⟨hmem, hhost, hnamed⟩ := host_facts hk
  have hplain : w.kind.isModifier = false := by obtain hk | hk := hk <;> rw [hk] <;> rfl
  rw [h.parse_directive hmem]
  cases hv : w.value with
  | none =>
    have htail : w.tail = w.lengths := by simp [Written.tail, hv]
    rw [htail]
    exact iff_of_true (checkTerm_hostless hk hl _) (isAdmitted_of_none hv)
  | some spec =>
    have htail : w.tail = ':' :: (spec ++ w.lengths) := by simp [Written.tail, hv, hplain]
    rw [htail, checkTerm_hosted hk (hspec spec hv) hl, isAdmitted_iff hv]
    simp [hhost, hnamed]

/-- A network is of visible characters, none of which is a percent sign; so it is always admitted. -/
theorem checkTerm_network_iff {net : Network} (h : Derived w) (hv : w.value = some network)
    (hread : Network.read? (network ++ w.lengths) = some net)
    (hfamily : w.kind = .ip4 ∧ (∃ bits n, net = .v4 bits n) ∨ w.kind = .ip6 ∧ ∃ bits n, net = .v6 bits n)
    (hcharacters : ∀ c ∈ network, c.isAlphanum = true ∨ c = '.' ∨ c = ':') :
    checkTerm (Term.parse w.text) = .ok () ↔ w.IsAdmitted := by
  have hk : w.kind = .ip4 ∨ w.kind = .ip6 := hfamily.imp And.left And.left
  have hfacts : w.kind ∈ Kind.mechanisms ∧ w.kind.isModifier = false ∧ w.kind.takesLengths = false ∧
      takesName w.kind = false := by
    obtain hk | hk := hk <;> rw [hk] <;> decide
  have htail : w.tail = ':' :: (network ++ w.lengths) := by simp [Written.tail, hv, hfacts.2.1]
  have hvalues : ∀ c ∈ network, isValueCharacter c = true := by
    intro c hc
    obtain hc | rfl | rfl := hcharacters c hc
    · exact isValueCharacter_of_isAlphanum hc
    · decide
    · decide
  have hpercent : '%' ∉ network ++ w.lengths := by
    rw [List.mem_append, not_or]
    exact ⟨fun hc => absurd (hcharacters _ hc) (by decide), fun hc => absurd (h.lengths_characters _ hc) (by decide)⟩
  rw [h.parse_directive hfacts.1, htail, isAdmitted_iff hv]
  refine iff_of_true (checkTerm_network hk ?_ (checkNetwork_of_read? hpercent hread hfamily _)) ?_
  · rw [List.forall_mem_append]
    exact ⟨hvalues, fun c hc => isValueCharacter_of_length (h.lengths_characters c hc)⟩
  · simpa [hfacts] using hvalues

theorem checkTerm_modifier_iff (h : Derived w) (hk : w.kind ∈ Kind.modifiers) (hv : w.value = some spec)
    (hne : spec ≠ []) : checkTerm (Term.parse w.text) = .ok () ↔ w.IsAdmitted := by
  have hfacts : ∀ kind ∈ Kind.modifiers, kind.isModifier = true ∧ kind ≠ .unknownModifier ∧ kind ≠ .ip4 ∧
      kind ≠ .ip6 ∧ kind.takesLengths = false ∧ takesName kind = true := by decide
  obtain ⟨hmodifier, hknown, h4, h6, htakes, hnamed⟩ := hfacts w.kind hk
  have hname := h.ofName?_lower hmodifier
  rw [if_neg hknown] at hname
  rw [h.parse_modifier hmodifier hv, checkTerm_modifier h.isName_lower hname (h.isMacroString ⟨h4, h6⟩ hv) hne,
    isAdmitted_iff hv]
  simp [htakes, hnamed]

theorem checkTerm_other_iff (h : Derived w) (hk : w.kind = .unknownModifier) (hv : w.value = some spec) :
    checkTerm (Term.parse w.text) = .ok () ↔ w.IsAdmitted := by
  have hmodifier : w.kind.isModifier = true := by rw [hk]; rfl
  have hname := h.ofName?_lower hmodifier
  rw [if_pos hk] at hname
  rw [h.parse_modifier hmodifier hv, checkTerm_other h.isName_lower hname, isAdmitted_iff hv, hk]
  simp [Kind.takesLengths, takesName]

theorem checkTerm_iff (h : Derived w) : checkTerm (Term.parse w.text) = .ok () ↔ w.IsAdmitted := by
  have hw := h
  cases h with
  | all => exact hw.checkTerm_bare_iff (by simp) rfl
  | inclusion _ hspec => exact hw.checkTerm_named_iff (by simp) rfl rfl hspec
  | existence _ hspec => exact hw.checkTerm_named_iff (by simp) rfl rfl hspec
  | a _ hspec hl => exact hw.checkTerm_host_iff (.inl rfl) hspec hl
  | mx _ hspec hl => exact hw.checkTerm_host_iff (.inr rfl) hspec hl
  | @ptr sign name value _ hspec =>
    cases value with
    | none => exact hw.checkTerm_bare_iff (by simp) rfl
    | some spec => exact hw.checkTerm_named_iff (by simp) rfl rfl (hspec spec rfl)
  | ip4 _ hquad hl =>
    obtain ⟨bits, n, hread⟩ := exists_network4 hquad hl
    refine hw.checkTerm_network_iff rfl hread (.inl ⟨rfl, bits, n, rfl⟩) fun c hc => ?_
    exact (hquad.characters c hc).imp isAlphanum_of_isDigit .inl
  | ip6 _ hgroups hl =>
    obtain ⟨bits, n, hread⟩ := exists_network6 hgroups hl
    exact hw.checkTerm_network_iff rfl hread (.inr ⟨rfl, bits, n, rfl⟩) hgroups.characters
  | redirect _ hspec => exact hw.checkTerm_modifier_iff (by simp [Kind.modifiers]) rfl hspec.ne_nil
  | explanation _ _ hne => exact hw.checkTerm_modifier_iff (by simp [Kind.modifiers]) rfl hne
  | other => exact hw.checkTerm_other_iff rfl rfl

end Derived

end SenderPolicy.Standard
