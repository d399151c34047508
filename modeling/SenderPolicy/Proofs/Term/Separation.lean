import SenderPolicy.Proofs.Term.Recognition

/-!
The host of a mechanism and the lengths behind it, told apart again. What is composed has one slash between the two;
it is read as the first slash that does not stand within braces, and only of a mechanism that takes lengths. So a
mechanism is read back exactly if its host leaves that slash to be the first.
-/
namespace SenderPolicy.Term
open Text
variable {c : Char} {t u : Term} {host rest w : Text} {cidr : Option Text} {depth : Nat} {q : Qualifier}

/-- The braces that are open behind a character, where so many are open before it. -/
def openBehind (depth : Nat) (c : Char) : Nat :=
  if c = '{' then depth + 1 else if c = '}' then depth - 1 else depth

/-- The braces that are open behind a text. -/
def openBraces (depth : Nat) (t : Text) : Nat := t.foldl openBehind depth

/-- Each slash of the text stands within braces. -/
def WithinBraces (depth : Nat) (t : Text) : Prop :=
  ∀ front behind, t = front ++ '/' :: behind → openBraces depth front ≠ 0

/-- The host can be told apart from what stands behind it. -/
structure IsSeparable (t : Term) : Prop where
  within : ∀ host, t.value = some host → t.kind.takesLengths = true → WithinBraces 0 host
  closed : ∀ host, t.value = some host → t.cidr ≠ none → t.kind.takesLengths = true ∧ openBraces 0 host = 0

theorem isSeparable_of_value_eq_none (hv : u.value = none) : u.IsSeparable :=
  ⟨fun host h => (Option.some_ne_none host (h.symm.trans hv)).elim,
    fun host h => (Option.some_ne_none host (h.symm.trans hv)).elim⟩

theorem isSeparable_iff (hv : u.value = some host) : u.IsSeparable ↔
    (u.kind.takesLengths = true → WithinBraces 0 host) ∧
      (u.cidr ≠ none → u.kind.takesLengths = true ∧ openBraces 0 host = 0) := by
  refine ⟨fun h => ⟨h.within host hv, h.closed host hv⟩, fun h => ⟨fun host' hv' => ?_, fun host' hv' => ?_⟩⟩
  · obtain rfl := Option.some.inj (hv.symm.trans hv')
    exact h.1
  · obtain rfl := Option.some.inj (hv.symm.trans hv')
    exact h.2

/-! The cut in front of the lengths -/

theorem withinBraces_nil (depth : Nat) : WithinBraces depth [] := fun _ _ h => by simp at h

theorem withinBraces_cons : WithinBraces depth (c :: w) ↔
    ¬(c = '/' ∧ depth = 0) ∧ WithinBraces (openBehind depth c) w := by
  constructor
  · intro h
    constructor
    · rintro ⟨rfl, hdepth⟩
      exact h [] w rfl hdepth
    · rintro front behind rfl
      exact h (c :: front) behind rfl
  · rintro ⟨hfirst, hrest⟩ front behind heq
    cases front with
    | nil => exact fun hdepth => hfirst ⟨(List.cons.inj heq).1, hdepth⟩
    | cons d front =>
      obtain ⟨rfl, rfl⟩ := List.cons.inj heq
      exact hrest front behind rfl

theorem withinBraces_of_notin (h : '/' ∉ w) (depth : Nat) : WithinBraces depth w :=
  fun front _ heq => absurd (heq ▸ List.mem_append_right front List.mem_cons_self) h

theorem withinBraces_append :
    WithinBraces depth (host ++ rest) ↔ WithinBraces depth host ∧ WithinBraces (openBraces depth host) rest := by
  induction host generalizing depth with
  | nil => exact (and_iff_right (withinBraces_nil depth)).symm
  | cons c r ih =>
    rw [List.cons_append, withinBraces_cons, withinBraces_cons, ih, and_assoc]
    rfl

theorem openBraces_append (depth : Nat) (host rest : Text) :
    openBraces depth (host ++ rest) = openBraces (openBraces depth host) rest := List.foldl_append

theorem openBehind_of_ne (h : c ≠ '{' ∧ c ≠ '}') (depth : Nat) : openBehind depth c = depth := by
  rw [openBehind, if_neg h.1, if_neg h.2]

theorem openBraces_of_bare (h : ∀ c ∈ w, c ≠ '{' ∧ c ≠ '}') (depth : Nat) : openBraces depth w = depth := by
  induction w with
  | nil => rfl
  | cons c r ih =>
    rw [List.forall_mem_cons] at h
    rw [openBraces, List.foldl_cons, openBehind_of_ne h.1]
    exact ih h.2

theorem withinBraces_of_bare (h : ∀ c ∈ w, c ≠ '{' ∧ c ≠ '}') (depth : Nat) : WithinBraces (depth + 1) w := by
  rintro front behind rfl
  rw [openBraces_of_bare (List.forall_mem_append.mp h).1]
  exact Nat.succ_ne_zero depth

theorem cutLengthsAt_cons (depth : Nat) (c : Char) (r : Text) (h : ¬(c = '/' ∧ depth = 0)) :
    cutLengthsAt depth (c :: r) =
      (c :: (cutLengthsAt (openBehind depth c) r).1, (cutLengthsAt (openBehind depth c) r).2) := by
  rw [cutLengthsAt, if_neg h]
  rfl

theorem cutLengthsAt_of_withinBraces (h : WithinBraces depth host) (rest : Text) :
    cutLengthsAt depth (host ++ rest) =
      (host ++ (cutLengthsAt (openBraces depth host) rest).1, (cutLengthsAt (openBraces depth host) rest).2) := by
  induction host generalizing depth with
  | nil => rfl
  | cons c r ih =>
    obtain ⟨hfirst, hrest⟩ := withinBraces_cons.mp h
    rw [List.cons_append, cutLengthsAt_cons depth c _ hfirst, ih hrest]
    rfl

theorem cutLengthsAt_of_not_withinBraces (h : ¬WithinBraces depth host) :
    ∃ front behind, host = front ++ '/' :: behind ∧
      ∀ rest, cutLengthsAt depth (host ++ rest) = (front, some (behind ++ rest)) := by
  induction host generalizing depth with
  | nil => exact absurd (withinBraces_nil depth) h
  | cons c r ih =>
    by_cases hfirst : c = '/' ∧ depth = 0
    · exact ⟨[], r, by rw [hfirst.1]; rfl, fun rest => by rw [List.cons_append, cutLengthsAt, if_pos hfirst]⟩
    · obtain ⟨front, behind, rfl, hcut⟩ := ih fun hr => h (withinBraces_cons.mpr ⟨hfirst, hr⟩)
      exact ⟨c :: front, behind, rfl, fun rest => by rw [List.cons_append, cutLengthsAt_cons depth c _ hfirst, hcut]⟩

def lengthsTail (cidr : Option Text) : Text :=
  match cidr with
  | some lengths => '/' :: lengths
  | none => []

theorem cutLengths_iff (host : Text) (cidr : Option Text) : cutLengths (host ++ lengthsTail cidr) = (host, cidr) ↔
    WithinBraces 0 host ∧ (cidr ≠ none → openBraces 0 host = 0) := by
  by_cases hwithin : WithinBraces 0 host
  · rw [cutLengths, cutLengthsAt_of_withinBraces hwithin]
    cases cidr with
    | none => simp [lengthsTail, cutLengthsAt, hwithin]
    | some lengths =>
      by_cases hclosed : openBraces 0 host = 0
      · simp [lengthsTail, cutLengthsAt, hwithin, hclosed]
      · simp [lengthsTail, cutLengthsAt, hwithin, hclosed]
  · obtain ⟨front, behind, rfl, hcut⟩ := cutLengthsAt_of_not_withinBraces hwithin
    refine iff_of_false (fun h => ?_) fun h => hwithin h.1
    rw [cutLengths, hcut, Prod.mk.injEq] at h
    exact absurd h.1 (by simp)

/-! Terms read back -/

theorem tail_eq (hm : u.isModifier = false) :
    u.tail = (match u.value with | some v => ':' :: v | none => []) ++ lengthsTail u.cidr := by
  rw [tail, hm, if_neg Bool.false_ne_true]
  rfl

/-- A mechanism that is understood is read back exactly if its host can be told apart. -/
theorem parse_compose_iff (hk : u.kind ∈ Kind.mechanisms) (hname : u.name = none) :
    parse u.compose = u ↔ u.IsSeparable := by
  have hkind := List.all_eq_true.mp mechanism_names u.kind hk
  simp only [Bool.and_eq_true, Bool.not_eq_true', beq_iff_eq] at hkind
  have hunknown : u.kind ≠ .unknown := fun h => absurd (h ▸ hk) (by decide)
  rw [parse_compose_of_mechanism hk, tail_eq hkind.1.1.1]
  obtain ⟨kind, q, value, cidr, name⟩ := u
  obtain rfl : name = none := hname
  dsimp only at hkind hunknown ⊢
  cases value with
  | none =>
    refine iff_of_true ?_ (isSeparable_of_value_eq_none rfl)
    cases cidr <;> simp [ofMechanism, lengthsTail, hkind.2, hunknown]
  | some host =>
    rw [isSeparable_iff rfl]
    cases htakes : kind.takesLengths with
    | true =>
      have hread : ofMechanism q kind.name (':' :: (host ++ lengthsTail cidr)) = ⟨kind, q, some host, cidr, none⟩ ↔
          cutLengths (host ++ lengthsTail cidr) = (host, cidr) := by
        rw [ofMechanism_hosted hk htakes]
        simp [Prod.ext_iff]
      simpa using hread.trans (cutLengths_iff host cidr)
    | false => cases cidr <;> simp [ofMechanism, lengthsTail, hkind.2, hunknown, htakes]

/-! Terms that were read -/

theorem parse_cases (w : Text) : (∃ q name value, parse w = ofModifier q name value) ∨
    ∃ q name rest, parse w = ofMechanism q name rest := by
  rw [parse_eq]
  unfold readBody
  split
  · exact .inl ⟨_, _, _, rfl⟩
  · exact .inr ⟨_, _, _, rfl⟩

theorem not_mem_mechanisms (q : Qualifier) (name value : Text) :
    (ofModifier q name value).kind ∉ Kind.mechanisms := by
  rw [kind_ofModifier]
  cases hk : Kind.ofName? Kind.modifiers name with
  | none => decide
  | some kind =>
    have hall : Kind.modifiers.all (fun k => !Kind.mechanisms.contains k) = true := by decide
    simpa using List.all_eq_true.mp hall kind (ofName?_eq_some hk).1

theorem name_of_mechanism (hk : (parse w).kind ∈ Kind.mechanisms) : (parse w).name = none := by
  rcases parse_cases w with ⟨q, name, value, heq⟩ | ⟨q, name, rest, heq⟩
  · exact absurd (heq ▸ hk) (not_mem_mechanisms q name value)
  · have hunknown : (ofMechanism q name rest).kind ≠ .unknown := fun h => absurd (h ▸ heq ▸ hk) (by decide)
    rw [heq]
    exact if_neg hunknown

theorem value_or_cidr_eq_none (h : (parse w).kind.takesLengths = false) :
    (parse w).value = none ∨ (parse w).cidr = none := by
  rcases parse_cases w with ⟨q, name, value, heq⟩ | ⟨q, name, rest, heq⟩
  · rw [heq, ofModifier]
    exact .inr (by split <;> rfl)
  · rw [heq] at h ⊢
    rw [kind_ofMechanism] at h
    unfold ofMechanism
    dsimp only
    split
    · simp [h]
    · simp
    · simp

theorem isSeparable_parse (h : IsSolid w) : (parse w).IsSeparable := by
  have hline : '\n' ∉ w := fun hc => absurd (h.2 _ hc) (by decide)
  cases htakes : (parse w).kind.takesLengths with
  | true =>
    have hk : (parse w).kind ∈ Kind.mechanisms := by
      cases hkind : (parse w).kind <;> first | decide | (rw [hkind] at htakes; cases htakes)
    refine (parse_compose_iff hk (name_of_mechanism hk)).mp ((parse_compose_parse_iff hline).mpr fun hmarked => ?_)
    rw [hmarked.1] at hk
    exact absurd hk (by decide)
  | false =>
    rcases value_or_cidr_eq_none htakes with hv | hc
    · exact isSeparable_of_value_eq_none hv
    · refine ⟨fun host _ htakes' => ?_, fun host _ hc' => absurd hc hc'⟩
      rw [htakes] at htakes'
      cases htakes'

end SenderPolicy.Term
