import SenderPolicy.Proofs.Term.Reading
import SenderPolicy.Proofs.Text.Words

/-!
Terms read back from their composed text. A term that was read is composed of its name in lower case and of
all that stood behind the name; this is read as the same term, unless the name of a modifier has got a mark
from a dotted capital I, which is no character of a name.
-/
namespace SenderPolicy.Term
open Text
variable {c d : Char} {q : Qualifier} {t body name value rest : Text} {u : Term}

def tail (u : Term) : Text :=
  if u.isModifier then '=' :: u.value.getD []
  else (match u.value with | some v => ':' :: v | none => []) ++
    (match u.cidr with | some c => '/' :: c | none => [])

def readBody (q : Qualifier) (body : Text) : Term :=
  match splitModifier? body with
  | some (name, value) => ofModifier q (lower name) value
  | none =>
    ofMechanism q (lower (body.takeWhile fun c => !isSeparator c))
      (body.dropWhile fun c => !isSeparator c)

theorem parse_eq (t : Text) :
    parse t = readBody ((Qualifier.take t).1.getD .pass) (Qualifier.take t).2 := rfl

theorem ofSymbol?_symbol (q : Qualifier) : Qualifier.ofSymbol? q.symbol = some q := by
  cases q <;> rfl

theorem compose_eq (u : Term) :
    compose u = (if u.qualifier ≠ .pass ∨ needsQualifier u.writtenName then [u.qualifier.symbol] else []) ++
      (u.writtenName ++ u.tail) := by
  unfold compose tail
  dsimp only
  by_cases hm : u.isModifier
  · simp only [if_pos hm]
    split <;> rfl
  · simp only [if_neg hm]
    split <;> cases u.value <;> cases u.cidr <;> simp

/-- The qualifier of a composed term is read back, whether it has been written or not. -/
theorem take_compose (u : Term) :
    (Qualifier.take (compose u)).1.getD .pass = u.qualifier ∧
      (Qualifier.take (compose u)).2 = u.writtenName ++ u.tail := by
  rw [compose_eq]
  split
  · rw [List.singleton_append, Qualifier.take, ofSymbol?_symbol]
    exact ⟨rfl, rfl⟩
  · rename_i hbare
    obtain ⟨hq, hneeds⟩ := not_or.mp hbare
    rw [List.nil_append]
    cases hname : u.writtenName with
    | nil => exact absurd rfl (hname ▸ hneeds)
    | cons first r =>
      have hnone : Qualifier.ofSymbol? first = none := by
        rw [hname] at hneeds
        simpa [needsQualifier] using hneeds
      rw [List.cons_append, Qualifier.take, hnone]
      exact ⟨(Decidable.not_not.mp hq).symm, rfl⟩

theorem parse_compose (u : Term) : parse (compose u) = readBody u.qualifier (u.writtenName ++ u.tail) := by
  obtain ⟨hq, hbody⟩ := take_compose u
  rw [parse_eq, hq, hbody]

/-! What is written of a term that was read -/

theorem ofName?_eq_some {kinds : List Kind} {kind : Kind} (h : Kind.ofName? kinds name = some kind) :
    kind ∈ kinds ∧ kind.name = name :=
  ⟨List.mem_of_find?_eq_some h, by simpa using List.find?_some h⟩

theorem writtenName_of_named {kind : Kind} (h : kind ∈ Kind.mechanisms ++ Kind.modifiers) (hu : u.kind = kind) :
    u.writtenName = kind.name := by
  subst hu
  unfold writtenName
  cases hk : u.kind with
  | unknown | unknownModifier => rw [hk] at h; exact absurd h (by decide)
  | _ => rfl

theorem writtenName_ofModifier (q : Qualifier) (name value : Text) :
    (ofModifier q name value).writtenName = name := by
  unfold ofModifier
  split
  · rename_i kind hkind
    obtain ⟨hmem, hname⟩ := ofName?_eq_some hkind
    rw [writtenName_of_named (List.mem_append_right _ hmem) rfl, hname]
  · rfl

theorem tail_ofModifier (q : Qualifier) (name value : Text) :
    (ofModifier q name value).tail = '=' :: value := by
  unfold ofModifier
  split
  · rename_i kind hkind
    have hmem := (ofName?_eq_some hkind).1
    have hall : Kind.modifiers.all Kind.isModifier = true := by decide
    exact if_pos (List.all_eq_true.mp hall kind hmem)
  · rfl

theorem qualifier_ofModifier (q : Qualifier) (name value : Text) :
    (ofModifier q name value).qualifier = q := by
  unfold ofModifier
  split <;> rfl

theorem kind_ofMechanism (q : Qualifier) (name rest : Text) :
    (ofMechanism q name rest).kind = (Kind.ofName? Kind.mechanisms name).getD .unknown := rfl

theorem not_isModifier_ofMechanism (q : Qualifier) (name rest : Text) :
    (ofMechanism q name rest).isModifier = false := by
  have hall : Kind.mechanisms.all (fun k => !k.isModifier) = true := by decide
  rw [isModifier, kind_ofMechanism]
  cases hk : Kind.ofName? Kind.mechanisms name with
  | none => rfl
  | some kind => simpa using List.all_eq_true.mp hall kind (ofName?_eq_some hk).1

theorem kind_ofMechanism_ne (q : Qualifier) (name rest : Text) :
    (ofMechanism q name rest).kind ≠ .unknownModifier := fun h => by
  have hmodifier := not_isModifier_ofMechanism q name rest
  rw [isModifier, h] at hmodifier
  cases hmodifier

theorem writtenName_ofMechanism (q : Qualifier) (name rest : Text) :
    (ofMechanism q name rest).writtenName = name := by
  cases hk : Kind.ofName? Kind.mechanisms name with
  | none =>
    have hkind : (ofMechanism q name rest).kind = .unknown := by rw [kind_ofMechanism, hk]; rfl
    have hname : (ofMechanism q name rest).name = some name := if_pos hkind
    simp only [writtenName, hkind, hname, Option.getD_some]
  | some kind =>
    obtain ⟨hmem, hname⟩ := ofName?_eq_some hk
    have hkind : (ofMechanism q name rest).kind = kind := by rw [kind_ofMechanism, hk]; rfl
    rw [writtenName_of_named (List.mem_append_left _ hmem) hkind, hname]

theorem cutLengthsAt_joined (depth : Nat) (t : Text) :
    (cutLengthsAt depth t).1 ++ (match (cutLengthsAt depth t).2 with | some c => '/' :: c | none => []) =
      t := by
  induction t generalizing depth with
  | nil => rfl
  | cons c r ih =>
    unfold cutLengthsAt
    split
    · rename_i hcut
      rw [hcut.1]
      rfl
    · dsimp only
      exact congrArg (c :: ·) (ih _)

theorem tail_ofMechanism (q : Qualifier) (name : Text) (h : ∀ c, rest.head? = some c → isSeparator c) :
    (ofMechanism q name rest).tail = rest := by
  unfold tail
  rw [not_isModifier_ofMechanism, if_neg Bool.false_ne_true]
  cases rest with
  | nil => rfl
  | cons c r =>
    rcases Bool.or_eq_true _ _ ▸ h c rfl with hc | hc
    · obtain rfl := beq_iff_eq.mp hc
      cases htakes : ((Kind.ofName? Kind.mechanisms name).getD .unknown).takesLengths with
      | true =>
        simp only [ofMechanism, htakes, if_true]
        exact congrArg (':' :: ·) (cutLengthsAt_joined 0 r)
      | false => simp [ofMechanism, htakes]
    · obtain rfl := beq_iff_eq.mp hc
      rfl

/-! Reading again -/

theorem readBody_of_modifier (h : splitModifier? body = some (name, value)) :
    readBody q body = ofModifier q (lower name) value := by
  rw [readBody, h]

theorem readBody_of_mechanism (h : splitModifier? body = none) :
    readBody q body = ofMechanism q (lower (body.takeWhile fun c => !isSeparator c))
      (body.dropWhile fun c => !isSeparator c) := by
  rw [readBody, h]

theorem singleLine?_of_line (h : '\n' ∉ t) : singleLine? t = some t := by
  have hall : ∀ c ∈ t, (c != '\n') = true := fun c hc => bne_iff_ne.mpr fun he => h (he ▸ hc)
  obtain ⟨htake, hdrop⟩ := takeWhile_append_of_stop (y := []) hall fun c hc => nomatch hc
  rw [List.append_nil] at htake hdrop
  simp only [singleLine?, htake, hdrop, true_or, if_true]

theorem of_singleLine? (h : singleLine? t = some value) (hline : '\n' ∉ t) : t = value := by
  rw [singleLine?_of_line hline] at h
  exact Option.some.inj h

theorem splitModifier?_lower_eq_none {front behind : Text} (hline : '\n' ∉ front ++ behind)
    (h : splitModifier? (front ++ behind) = none) : splitModifier? (lower front ++ behind) = none := by
  cases hs : splitModifier? (lower front ++ behind) with
  | none => rfl
  | some pair =>
    obtain ⟨rest', heq, hname, -⟩ := splitModifier?_eq_some hs
    obtain ⟨name₀, rest₀, heq₀, hall, hfirst⟩ := exists_name_of_lowered heq hname.1
    have hline₀ : '\n' ∉ rest₀ := fun hc =>
      hline (heq₀ ▸ List.mem_append_right _ (List.mem_cons_of_mem _ hc))
    rw [heq₀, splitModifier?_of_name ⟨hall, hfirst.trans hname.2⟩ (singleLine?_of_line hline₀)] at h
    cases h

theorem not_isSeparator_of_mem_lower (h : ∀ c ∈ name, isSeparator c = false) :
    ∀ d ∈ lower name, isSeparator d = false := by
  intro d hd
  obtain ⟨c, hc, hbecomes⟩ := of_mem_lower hd
  cases hsep : isSeparator d with
  | false => rfl
  | true =>
    have hdc : d = c := by
      rcases Bool.or_eq_true _ _ ▸ hsep with he | he
      · obtain rfl := beq_iff_eq.mp he
        exact hbecomes.eq_of_ascii (by decide) (by decide)
      · obtain rfl := beq_iff_eq.mp he
        exact hbecomes.eq_of_ascii (by decide) (by decide)
    rw [hdc, h c hc] at hsep
    cases hsep

theorem isSeparator_of_dropWhile (body : Text) :
    ∀ c, (body.dropWhile fun c => !isSeparator c).head? = some c → isSeparator c := by
  intro c hc
  have hnot := List.head?_dropWhile_not (fun c => !isSeparator c) body
  rw [hc] at hnot
  simpa using hnot

theorem readBody_lower (hline : '\n' ∉ body) (h : splitModifier? body = none) :
    readBody q (lower (body.takeWhile fun c => !isSeparator c) ++ body.dropWhile fun c => !isSeparator c) =
      readBody q body := by
  have hbody : body.takeWhile (fun c => !isSeparator c) ++ body.dropWhile (fun c => !isSeparator c) = body :=
    List.takeWhile_append_dropWhile
  have hname : ∀ c ∈ body.takeWhile (fun c => !isSeparator c), isSeparator c = false := fun c hc => by
    simpa using List.all_eq_true.mp List.all_takeWhile c hc
  have hstop : ∀ c, (body.dropWhile fun c => !isSeparator c).head? = some c → (!isSeparator c) = false :=
    fun c hc => by rw [isSeparator_of_dropWhile body c hc]; rfl
  have hlow : ∀ d ∈ lower (body.takeWhile fun c => !isSeparator c), (!isSeparator d) = true := fun d hd => by
    rw [not_isSeparator_of_mem_lower hname d hd]
    rfl
  have hnone : splitModifier? (lower (body.takeWhile fun c => !isSeparator c) ++
      body.dropWhile fun c => !isSeparator c) = none :=
    splitModifier?_lower_eq_none (by rwa [hbody]) (by rwa [hbody])
  obtain ⟨htake, hdrop⟩ := takeWhile_append_of_stop hlow hstop
  rw [readBody_of_mechanism hnone, readBody_of_mechanism h, htake, hdrop, lower_lower]

theorem equals_not_mem_lower (h : IsName name) : '=' ∉ lower name := fun hmem => by
  obtain ⟨c, hc, hbecomes⟩ := of_mem_lower hmem
  have hname := h.1 c hc
  rw [← hbecomes.eq_of_ascii (by decide) (by decide)] at hname
  exact absurd hname (by decide)

theorem head?_lower (h : IsName name) : (lower name).head?.map isLatin = some true := by
  cases name with
  | nil => exact h.2
  | cons c r =>
    have hlatin : isLatin c = true := by simpa using h.2
    by_cases hs : c = 'Σ'
    · rw [hs] at hlatin
      exact absurd hlatin (by decide)
    · by_cases hi : c = 'İ'
      · subst hi
        rfl
      · rw [lower, lowerFrom, lowerForm, if_neg hs, if_neg hi, List.singleton_append, List.head?_cons,
          Option.map_some, (lowerLetter_low hs hi).2.2.1, hlatin]

theorem isName_lower (h : IsName name) (hmark : '\u0307' ∉ lower name) : IsName (lower name) := by
  refine ⟨fun d hd => ?_, head?_lower h⟩
  obtain ⟨c, hc, hbecomes⟩ := of_mem_lower hd
  cases isNameCharacter_lowered hbecomes (h.1 c hc) with
  | inl hd => exact hd
  | inr he => exact absurd (he.2 ▸ hd) hmark

/-- With the mark, the name ends before the equals sign. -/
theorem splitModifier?_of_mark (h : IsName name) (hmark : '\u0307' ∈ lower name) (value : Text) :
    splitModifier? (lower name ++ '=' :: value) = none := by
  cases hs : splitModifier? (lower name ++ '=' :: value) with
  | none => rfl
  | some pair =>
    obtain ⟨rest', heq, hname, -⟩ := splitModifier?_eq_some hs
    obtain ⟨front, behind, hsplit⟩ := List.append_of_mem hmark
    have hfront : '=' ∉ front := fun hc =>
      equals_not_mem_lower h (hsplit ▸ List.mem_append_left _ hc)
    rw [hsplit, List.append_assoc, List.cons_append] at heq
    exact (not_name_of_stopped front '\u0307' heq hname.1 hfront (by decide) (by decide)).elim

theorem kind_ofModifier (q : Qualifier) (name value : Text) :
    (ofModifier q name value).kind = (Kind.ofName? Kind.modifiers name).getD .unknownModifier := by
  unfold ofModifier
  split
  · rename_i kind hk
    rw [hk]
    rfl
  · rename_i hk
    rw [hk]
    rfl

/-- A modifier that is not understood, with the mark of the dotted capital I in its name. -/
def IsMarked (u : Term) : Prop := u.kind = .unknownModifier ∧ ∃ name, u.name = some name ∧ '\u0307' ∈ name

/-- A mark in the name of a modifier shows in the term: no modifier that is understood has one. -/
theorem mark_iff (q : Qualifier) (name value : Text) :
    '\u0307' ∈ name ↔ (ofModifier q name value).IsMarked := by
  unfold IsMarked
  cases hk : Kind.ofName? Kind.modifiers name with
  | none =>
    have hterm : ofModifier q name value =
        { kind := .unknownModifier, qualifier := q, value := some value, name := some name } := by
      simp only [ofModifier, hk]
    simp [hterm]
  | some kind =>
    obtain ⟨hmem, rfl⟩ := ofName?_eq_some hk
    have hall : Kind.modifiers.all (fun k => !k.name.contains '\u0307' && k != .unknownModifier) = true := by
      decide
    have hkind := List.all_eq_true.mp hall kind hmem
    rw [kind_ofModifier, hk]
    simp_all

theorem mem_of_mem_take (h : c ∈ (Qualifier.take t).2) : c ∈ t := by
  cases t with
  | nil => exact h
  | cons d r =>
    simp only [Qualifier.take] at h
    split at h
    · exact List.mem_cons_of_mem d h
    · exact h

def IsModifierForm (body : Text) : Prop := ∃ name value, IsName name ∧ body = name ++ '=' :: value

/-- Where the name ends: at the equals sign, if the text has the form of a modifier; and else at the first colon or
slash, or with the text. -/
inductive EndsName : Text → Text → Prop
  | modifier {name value : Text} : IsName name → EndsName name ('=' :: value)
  | separated {name rest : Text} : ¬ IsModifierForm (name ++ rest) → (∀ c ∈ name, c ≠ ':' ∧ c ≠ '/') →
      (∀ c, rest.head? = some c → c = ':' ∨ c = '/') → EndsName name rest

theorem splitModifier?_eq_none (h : ¬ IsModifierForm body) : splitModifier? body = none := by
  cases hs : splitModifier? body with
  | none => rfl
  | some pair =>
    obtain ⟨rest, heq, hname, -⟩ := splitModifier?_eq_some hs
    exact absurd ⟨pair.1, rest, hname, heq⟩ h

theorem isSeparator_iff : isSeparator c = true ↔ c = ':' ∨ c = '/' := by
  simp [isSeparator]

theorem readBody_of_endsName (q : Qualifier) (hline : '\n' ∉ name ++ rest) (h : EndsName name rest) :
    (readBody q (name ++ rest)).writtenName = lower name ∧ (readBody q (name ++ rest)).tail = rest ∧
      (readBody q (name ++ rest)).qualifier = q := by
  cases h with
  | @modifier value hname =>
    have hvalue : '\n' ∉ value := fun hc => hline (List.mem_append_right _ (List.mem_cons_of_mem _ hc))
    rw [readBody_of_modifier (splitModifier?_of_name hname (singleLine?_of_line hvalue))]
    exact ⟨writtenName_ofModifier .., tail_ofModifier .., qualifier_ofModifier ..⟩
  | separated hform hname hrest =>
    have hplain : ∀ c ∈ name, (!isSeparator c) = true := fun c hc => by
      rw [Bool.not_eq_true', Bool.eq_false_iff, ne_eq, isSeparator_iff, not_or]
      exact hname c hc
    have hstop : ∀ c, rest.head? = some c → isSeparator c = true := fun c hc => isSeparator_iff.mpr (hrest c hc)
    obtain ⟨htake, hdrop⟩ := takeWhile_append_of_stop hplain fun c hc => by rw [hstop c hc]; rfl
    rw [readBody_of_mechanism (splitModifier?_eq_none hform), htake, hdrop]
    exact ⟨writtenName_ofMechanism .., tail_ofMechanism _ _ hstop, rfl⟩

theorem exists_endsName (body : Text) : ∃ name rest, body = name ++ rest ∧ EndsName name rest := by
  by_cases hform : IsModifierForm body
  · obtain ⟨name, value, hname, rfl⟩ := hform
    exact ⟨name, '=' :: value, rfl, .modifier hname⟩
  · have hbody : body.takeWhile (fun c => !isSeparator c) ++ body.dropWhile (fun c => !isSeparator c) = body :=
      List.takeWhile_append_dropWhile
    refine ⟨_, _, hbody.symm, .separated (by rwa [hbody]) (fun c hc => ?_) fun c hc => ?_⟩
    · have hplain := List.all_eq_true.mp List.all_takeWhile c hc
      rwa [Bool.not_eq_true', Bool.eq_false_iff, ne_eq, isSeparator_iff, not_or] at hplain
    · exact isSeparator_iff.mp (isSeparator_of_dropWhile body c hc)

/-- What a term that was read is composed of: the beginning of its text behind the qualifier in lower case,
and the rest as it is. -/
theorem exists_parts (hline : '\n' ∉ t) :
    ∃ front, (Qualifier.take t).2 = front ++ (parse t).tail ∧ (parse t).writtenName = lower front := by
  have hbody : '\n' ∉ (Qualifier.take t).2 := fun h => hline (mem_of_mem_take h)
  rw [parse_eq]
  obtain ⟨name, rest, hparts, hends⟩ := exists_endsName (Qualifier.take t).2
  rw [hparts] at hbody ⊢
  obtain ⟨hname, htail, -⟩ := readBody_of_endsName ((Qualifier.take t).1.getD .pass) hbody hends
  exact ⟨name, by rw [htail], hname⟩

/-- A term that was read is read back from its composed text, unless it is marked. -/
theorem parse_compose_parse_iff (hline : '\n' ∉ t) :
    parse (compose (parse t)) = parse t ↔ ¬ (parse t).IsMarked := by
  have hbody : '\n' ∉ (Qualifier.take t).2 := fun h => hline (mem_of_mem_take h)
  rw [parse_compose, parse_eq]
  generalize (Qualifier.take t).1.getD .pass = q
  generalize (Qualifier.take t).2 = body at hbody
  cases hs : splitModifier? body with
  | none =>
    have hread := readBody_lower (q := q) hbody hs
    rw [readBody_of_mechanism hs] at hread ⊢
    rw [writtenName_ofMechanism, tail_ofMechanism _ _ (isSeparator_of_dropWhile _)]
    exact iff_of_true hread fun hmarked => kind_ofMechanism_ne _ _ _ hmarked.1
  | some pair =>
    obtain ⟨name, value⟩ := pair
    obtain ⟨rest, heq, hname, hvalue⟩ := splitModifier?_eq_some hs
    have hrest : '\n' ∉ rest := fun h => hbody (heq ▸ List.mem_append_right _ (List.mem_cons_of_mem _ h))
    obtain rfl := of_singleLine? hvalue hrest
    rw [readBody_of_modifier hs, writtenName_ofModifier, tail_ofModifier, qualifier_ofModifier,
      ← mark_iff]
    by_cases hmark : '\u0307' ∈ lower name
    · refine iff_of_false (fun h => ?_) (not_not_intro hmark)
      rw [readBody_of_mechanism (splitModifier?_of_mark hname hmark rest)] at h
      exact kind_ofMechanism_ne _ _ _ (h ▸ ((mark_iff q (lower name) rest).mp hmark).1)
    · refine iff_of_true ?_ hmark
      rw [readBody_of_modifier (splitModifier?_of_name (isName_lower hname hmark) (singleLine?_of_line hrest)),
        lower_lower]

theorem not_isMarked (hdotted : 'İ' ∉ t) : ¬ (parse t).IsMarked := by
  rw [parse_eq]
  cases hs : splitModifier? (Qualifier.take t).2 with
  | none =>
    rw [readBody_of_mechanism hs]
    exact fun hmarked => kind_ofMechanism_ne _ _ _ hmarked.1
  | some pair =>
    obtain ⟨name, value⟩ := pair
    obtain ⟨rest, heq, hname, -⟩ := splitModifier?_eq_some hs
    rw [readBody_of_modifier hs, ← mark_iff]
    intro hmark
    obtain ⟨c, hc, hbecomes⟩ := of_mem_lower hmark
    cases isNameCharacter_lowered hbecomes (hname.1 c hc) with
    | inl h => exact absurd h (by decide)
    | inr h =>
      have hmem : c ∈ (Qualifier.take t).2 := heq ▸ List.mem_append_left _ hc
      exact hdotted (h.1 ▸ mem_of_mem_take hmem)

theorem compose_solid (h : IsSolid t) : IsSolid (compose (parse t)) := by
  have hline : '\n' ∉ t := fun hc => absurd (h.2 _ hc) (by decide)
  obtain ⟨front, hbody, hname⟩ := exists_parts hline
  have hpart : ∀ c ∈ front ++ (parse t).tail, isBlank c = false := fun c hc =>
    h.2 c (mem_of_mem_take (hbody ▸ hc))
  rw [compose_eq, hname]
  refine ⟨fun hnil => ?_, fun c hc => ?_⟩
  · obtain ⟨hq, hrest⟩ := List.append_eq_nil_iff.mp hnil
    have hlow := (List.append_eq_nil_iff.mp hrest).1
    rw [if_pos (.inr (hlow ▸ rfl))] at hq
    cases hq
  · rcases List.mem_append.mp hc with hc | hc
    · split at hc
      · rw [List.mem_singleton.mp hc]
        cases (parse t).qualifier <;> decide
      · cases hc
    · rcases List.mem_append.mp hc with hc | hc
      · obtain ⟨d, hd, hbecomes⟩ := of_mem_lower hc
        rw [hbecomes.isBlank_eq]
        exact hpart d (List.mem_append_left _ hd)
      · exact hpart c (List.mem_append_right _ hc)

end SenderPolicy.Term
