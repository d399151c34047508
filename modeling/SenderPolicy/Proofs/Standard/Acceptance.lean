import SenderPolicy.Proofs.Standard.Terms

/-!
Records of the standard under the audit. A record that the grammar derives is valid exactly if each of its terms is
admitted, and neither a redirect nor an explanation stands in it twice. Not every term is admitted.
-/
namespace SenderPolicy.Standard
open Text Audit
variable {w : Written} {ws : List Written} {rest : Text} {letter : Char}

theorem IsTerms.derived (h : IsTerms ws rest) : ∀ w ∈ ws, Derived w := by
  induction h with
  | ending => simp
  | term hw _ ih =>
    rw [List.forall_mem_cons]
    exact ⟨hw, ih⟩

theorem countOf_recordOf (h : ∀ w ∈ ws, Derived w) (kind : Kind) :
    countOf kind (recordOf ws) = ws.countP (fun w => w.kind == kind) := by
  rw [countOf, recordOf, List.countP_map, List.countP_map]
  apply List.countP_congr
  intro w hw
  simp [(h w hw).kind_parse]

theorem isValid_recordOf_iff (h : ∀ w ∈ ws, Derived w) :
    IsValid (recordOf ws) ↔
      (∀ w ∈ ws, w.IsAdmitted) ∧ ws.countP (fun w => w.kind == .redirect) ≤ 1 ∧ ws.countP (fun w => w.kind == .exp) ≤ 1 := by
  have hterms : (∀ t ∈ (recordOf ws).terms, checkTerm t = .ok ()) ↔ ∀ w ∈ ws, w.IsAdmitted := by
    simp only [recordOf, List.forall_mem_map]
    exact forall₂_congr fun w hw => (h w hw).checkTerm_iff
  rw [isValid_iff, hterms, countOf_recordOf h, countOf_recordOf h]

/-- A record of the standard is accepted exactly if its terms are admitted, with one redirect and one explanation at most. -/
theorem accepts_iff_admitted (h : IsTerms ws rest) :
    (∃ a, auditText (Record.versionTag ++ rest) = .ok a ∧ a.isValid = true) ↔
      (∀ w ∈ ws, w.IsAdmitted) ∧ ws.countP (fun w => w.kind == .redirect) ≤ 1 ∧
        ws.countP (fun w => w.kind == .exp) ≤ 1 := by
  rw [← isValid_recordOf_iff h.derived]
  constructor
  · intro haccepted
    obtain ⟨a, ha, hvalid⟩ := haccepted
    exact IsValid.of_auditText (parse?_terms h) ha hvalid
  · intro hvalid
    exact hvalid.auditText (parse?_terms h)

/-! Two records -/

theorem isMacro_letter (h : letter.toLower ∈ "slodiphcrtv".toList) : IsMacro ['%', '{', letter, '}'] :=
  @IsMacro.expansion letter [] [] [] h (by simp) (by simp) (.inl rfl) (by simp)

def mailTerms : List Written :=
  [{ kind := .a, name := "a", value := some "%{d}", lengths := "/24//64" },
    { kind := .ip4, name := "ip4", value := some "192.0.2.0", lengths := "/24" },
    { kind := .exp, name := "exp", value := some "%{d}" },
    { kind := .all, sign := some .fail, name := "all" }]

theorem mailTerms_are_accepted :
    IsTerms mailTerms " a:%{d}/24//64 ip4:192.0.2.0/24 exp=%{d} -all" ∧
      ∃ a, auditText "v=spf1 a:%{d}/24//64 ip4:192.0.2.0/24 exp=%{d} -all" = .ok a ∧ a.isValid = true := by
  have hmacro : IsMacro "%{d}" := isMacro_letter (by decide)
  have hspec : IsDomainSpec "%{d}" := ⟨[], "%{d}", rfl, .nil, .expanded hmacro⟩
  have hlengths : IsDualLength "/24//64" :=
    .present (.both (s := "24") (l := "64") ⟨24, by decide, rfl⟩ ⟨64, by decide, rfl⟩)
  have hquad : IsDottedQuad "192.0.2.0" := ⟨192, by decide, 0, by decide, 2, by decide, 0, by decide, by decide⟩
  have hlength : IsLength 32 "/24" := .present (n := 24) (by decide)
  have hterms : IsTerms mailTerms " a:%{d}/24//64 ip4:192.0.2.0/24 exp=%{d} -all" := by
    apply IsTerms.term (n := 0)
    · exact .a rfl (fun spec hs => Option.some.inj hs ▸ hspec) hlengths
    · apply IsTerms.term (n := 0)
      · exact .ip4 rfl hquad hlength
      · apply IsTerms.term (n := 0)
        · exact .explanation rfl hmacro.isMacroString (by decide)
        · apply IsTerms.term (n := 0)
          · exact .all rfl
          · exact .ending (n := 0)
  refine ⟨hterms, (accepts_iff_admitted hterms).mpr ⟨?_, by decide, by decide⟩⟩
  simp only [mailTerms, List.forall_mem_cons]
  have hdomain : ∀ c ∈ ("%{d}" : Text), isValueCharacter c = true := List.all_eq_true.mp (by decide)
  have hnetwork : ∀ c ∈ ("192.0.2.0" : Text), isValueCharacter c = true := List.all_eq_true.mp (by decide)
  have hshort : Macro.IsShort "%{d}" := by decide +kernel
  exact ⟨(isAdmitted_iff rfl).mpr ⟨hdomain, fun _ => rfl, fun _ => hshort⟩,
    (isAdmitted_iff rfl).mpr ⟨hnetwork, nofun, nofun⟩,
    (isAdmitted_iff rfl).mpr ⟨hdomain, nofun, fun _ => hshort⟩, isAdmitted_of_none rfl, by simp⟩

/-- An at sign may stand in the name of a domain, and is not let pass there. -/
theorem at_sign_is_refused :
    ¬ ∀ (ws : List Written) (rest : Text), IsTerms ws rest → ws.countP (fun w => w.kind == .redirect) ≤ 1 →
      ws.countP (fun w => w.kind == .exp) ≤ 1 →
      ∃ a, auditText (Record.versionTag ++ rest) = .ok a ∧ a.isValid = true := by
  intro h
  have hat : IsMacroString ['@'] := .literal ⟨by decide, by decide, by decide⟩ .nil
  have hspec : IsDomainSpec "%{l}@%{o}" :=
    ⟨['%', '{', 'l', '}'] ++ ['@'], "%{o}", rfl, .expanded (isMacro_letter (by decide)) hat,
      .expanded (isMacro_letter (by decide))⟩
  have hterms : IsTerms [{ kind := .existence, name := "exists", value := some "%{l}@%{o}" },
      { kind := .all, sign := some .fail, name := "all" }] " exists:%{l}@%{o} -all" :=
    .term (n := 0) (.existence rfl hspec) (.term (n := 0) (.all rfl) (.ending (n := 0)))
  obtain ⟨a, ha, hvalid⟩ := h _ _ hterms (by decide) (by decide)
  have hrecord := IsValid.of_auditText (parse?_terms hterms) ha hvalid
  have hadmitted := ((isValid_recordOf_iff hterms.derived).mp hrecord).1 _ List.mem_cons_self
  exact absurd (hadmitted.characters _ rfl '@' (by decide)) (by decide)

end SenderPolicy.Standard
