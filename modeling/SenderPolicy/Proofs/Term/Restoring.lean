import SenderPolicy.Proofs.Term.RoundTrip
import SenderPolicy.Proofs.Text.Composition

/-!
What composing restores of a word that was read. A word is its qualifier, a name, and what is written behind the name;
all of it comes back, but for the case of the name and for a plus sign that nothing needs.
-/
namespace SenderPolicy.Term
open Text
variable {c : Char} {q : Qualifier} {t body name rest qualifier : Text}

def qualifierCharacters : Text := "+-~?"

/-- The parts of a word: the qualifier character that it begins with, if it does, then a name, and the rest. -/
structure IsMadeOf (t qualifier name rest : Text) : Prop where
  text : t = qualifier ++ (name ++ rest)
  qualifier : (∃ c ∈ qualifierCharacters, qualifier = [c]) ∨
    qualifier = [] ∧ ∀ c, t.head? = some c → c ∉ qualifierCharacters
  name : EndsName name rest

/-- The qualifier that is composed in front of a name. A plus sign is only written where the name is empty, or could be
taken to begin with a qualifier. -/
def restoredQualifier (qualifier name : Text) : Text :=
  if qualifier = ['-'] ∨ qualifier = ['~'] ∨ qualifier = ['?'] then qualifier
  else if name = [] ∨ name.head? ∈ qualifierCharacters.map some then ['+']
  else []

/-! Qualifiers -/

theorem isSome_ofSymbol?_iff : (Qualifier.ofSymbol? c).isSome = true ↔ c ∈ qualifierCharacters := by
  change _ ↔ c ∈ ['+', '-', '~', '?']
  unfold Qualifier.ofSymbol?
  split
  iterate 4 decide
  rename_i hplus hminus htilde hquestion
  exact iff_of_false Bool.false_ne_true (by simpa using ⟨hplus, hminus, htilde, hquestion⟩)

theorem symbol_of_ofSymbol? (h : Qualifier.ofSymbol? c = some q) : c = q.symbol := by
  unfold Qualifier.ofSymbol? at h
  split at h
  iterate 4
    cases h
    rfl
  cases h

theorem take_of_isMadeOf (h : IsMadeOf t qualifier name rest) :
    ∃ q : Option Qualifier, Qualifier.take t = (q, name ++ rest) ∧ qualifier = (q.map Qualifier.symbol).toList := by
  obtain ⟨rfl, ⟨c, hc, rfl⟩ | ⟨rfl, hbare⟩, -⟩ := h
  · obtain ⟨q, hq⟩ := Option.isSome_iff_exists.mp (isSome_ofSymbol?_iff.mpr hc)
    refine ⟨some q, ?_, by rw [symbol_of_ofSymbol? hq]; rfl⟩
    rw [List.singleton_append, Qualifier.take, hq]
  · refine ⟨none, ?_, rfl⟩
    rw [List.nil_append] at hbare ⊢
    cases hbody : name ++ rest with
    | nil => rfl
    | cons c r =>
      have hc : ¬ (Qualifier.ofSymbol? c).isSome = true := fun h =>
        hbare c (by rw [hbody]; rfl) (isSome_ofSymbol?_iff.mp h)
      rw [Qualifier.take, Option.not_isSome_iff_eq_none.mp hc]

theorem needsQualifier_iff :
    needsQualifier name = true ↔ name = [] ∨ name.head? ∈ qualifierCharacters.map some := by
  cases name with
  | nil => simp [needsQualifier]
  | cons c r => simp [needsQualifier, isSome_ofSymbol?_iff]

theorem restoredQualifier_eq (q : Option Qualifier) (name : Text) :
    restoredQualifier (q.map Qualifier.symbol).toList name =
      if q.getD .pass ≠ .pass ∨ needsQualifier name = true then [(q.getD .pass).symbol] else [] := by
  simp only [needsQualifier_iff]
  cases q with
  | none => simp [restoredQualifier, Qualifier.symbol]
  | some q => cases q <;> simp [restoredQualifier, Qualifier.symbol]

/-! Parts -/

theorem exists_isMadeOf (t : Text) : ∃ qualifier name rest, IsMadeOf t qualifier name rest := by
  by_cases hq : ∃ c ∈ qualifierCharacters, t.head? = some c
  · obtain ⟨c, hc, hhead⟩ := hq
    obtain ⟨r, rfl⟩ := List.head?_eq_some_iff.mp hhead
    obtain ⟨name, rest, rfl, hname⟩ := exists_endsName r
    exact ⟨[c], name, rest, rfl, .inl ⟨c, hc, rfl⟩, hname⟩
  · obtain ⟨name, rest, rfl, hname⟩ := exists_endsName t
    exact ⟨[], name, rest, rfl, .inr ⟨rfl, fun c hhead hc => hq ⟨c, hc, hhead⟩⟩, hname⟩

/-- Every word has its parts, and composing the term that was read from it restores them: a qualifier other than the
plus sign, the name in lower case, and the rest. -/
theorem compose_parse_restores (t : Text) (h : Unbroken t) :
    (∃ qualifier name rest, IsMadeOf t qualifier name rest) ∧
      ∀ qualifier name rest, IsMadeOf t qualifier name rest →
        compose (parse t) = restoredQualifier qualifier (lower name) ++ (lower name ++ rest) := by
  refine ⟨exists_isMadeOf t, fun qualifier name rest hmade => ?_⟩
  have hline : '\n' ∉ name ++ rest := fun hc => by
    have hblank := h '\n' (hmade.text ▸ List.mem_append_right _ hc)
    exact absurd hblank (by decide)
  obtain ⟨q, htake, hqualifier⟩ := take_of_isMadeOf hmade
  obtain ⟨hname, htail, hq⟩ := readBody_of_endsName (q.getD .pass) hline hmade.name
  rw [parse_eq, htake, compose_eq, hname, htail, hq, hqualifier, restoredQualifier_eq]

theorem stacked_qualifiers_are_restored : compose (parse "++All:x/24") = "++all:x/24" := by
  have hmade : IsMadeOf "++All:x/24" ['+'] ['+', 'A', 'l', 'l'] ":x/24" := by
    refine ⟨rfl, .inl ⟨'+', by decide, rfl⟩, .separated ?_ (by simp) fun c hc => .inl (Option.some.inj hc).symm⟩
    rintro ⟨name, value, -, heq⟩
    have hequals : '=' ∈ (['+', 'A', 'l', 'l'] ++ ":x/24" : Text) :=
      heq ▸ List.mem_append_right name List.mem_cons_self
    exact absurd hequals (by decide)
  obtain ⟨-, hrestores⟩ := compose_parse_restores "++All:x/24" (by decide +kernel)
  exact (hrestores _ _ _ hmade).trans (by decide +kernel)

end SenderPolicy.Term
