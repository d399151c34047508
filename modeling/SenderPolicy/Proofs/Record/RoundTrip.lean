import SenderPolicy.Proofs.Record.Reading
import SenderPolicy.Proofs.Term.RoundTrip

/-!
Records read back from their composed text: the words of the composed text are the composed terms, so that
a record is read back if each of its terms is.
-/
namespace SenderPolicy.Record
open Text
variable {t : Text} {r : Record} {tokens : List Text}

theorem of_mem_joinStringsFrom {c : Char} {held : Option Text} (hc : c ≠ '"')
    (h : c ∈ joinStringsFrom held t) : c ∈ t ∨ ∃ blanks, held = some blanks ∧ c ∈ blanks := by
  -- The blanks that are held back are dropped at the next quote, and put down before anything else.
  induction t generalizing held with
  | nil =>
    cases held with
    | none => cases h
    | some blanks =>
      cases h with
      | head => exact absurd rfl hc
      | tail _ h => exact .inr ⟨blanks, rfl, List.mem_reverse.mp h⟩
  | cons d r ih =>
    have behind (h : c ∈ joinStringsFrom none r) : c ∈ r := by
      rcases ih h with h | ⟨_, hnone, -⟩
      · exact h
      · cases hnone
    cases held with
    | none =>
      simp only [joinStringsFrom] at h
      split at h
      · rcases ih h with h | ⟨blanks, hheld, hmem⟩
        · exact .inl (List.mem_cons_of_mem d h)
        · cases hheld
          cases hmem
      · cases h with
        | head => exact .inl List.mem_cons_self
        | tail _ h => exact .inl (List.mem_cons_of_mem d (behind h))
    | some blanks =>
      simp only [joinStringsFrom] at h
      split at h
      · exact .inl (List.mem_cons_of_mem d (behind h))
      · split at h
        · rcases ih h with h | ⟨blanks', hheld, hmem⟩
          · exact .inl (List.mem_cons_of_mem d h)
          · cases hheld
            cases hmem with
            | head => exact .inl List.mem_cons_self
            | tail _ hmem => exact .inr ⟨blanks, rfl, hmem⟩
        · rcases List.mem_append.mp h with h | h
          · cases h with
            | head => exact absurd rfl hc
            | tail _ h => exact .inr ⟨blanks, rfl, List.mem_reverse.mp h⟩
          · cases h with
            | head => exact .inl List.mem_cons_self
            | tail _ h => exact .inl (List.mem_cons_of_mem d (behind h))

theorem of_mem_unquoted {c : Char} (hc : c ≠ '"') (h : c ∈ unquoted t) : c ∈ t := by
  unfold unquoted at h
  dsimp only at h
  split at h
  · rcases of_mem_joinStringsFrom hc (of_mem_trimmed h) with h | ⟨_, hnone, -⟩
    · exact of_mem_trimmed h
    · cases hnone
  · exact of_mem_trimmed h

theorem exists_joined (rest : List Text) : ∃ t, joined [' '] (versionTag :: rest) = 'v' :: t := by
  cases rest with
  | nil => exact ⟨_, rfl⟩
  | cons w rest => exact ⟨_, rfl⟩

theorem parse?_compose_of_solid {ts : List Term} (h : ∀ u ∈ ts, IsSolid u.compose) :
    parse? (compose ⟨some versionTag, ts⟩) = some ⟨some versionTag, ts.map fun u => Term.parse u.compose⟩ := by
  have hsolid : ∀ w ∈ versionTag :: ts.map Term.compose, IsSolid w := by
    intro w hw
    cases hw with
    | head => exact versionTag_solid
    | tail _ hw =>
      obtain ⟨u, hu, rfl⟩ := List.mem_map.mp hw
      exact h u hu
  have hcompose : compose ⟨some versionTag, ts⟩ = joined [' '] (versionTag :: ts.map Term.compose) := rfl
  obtain ⟨text, htext⟩ := exists_joined (ts.map Term.compose)
  have hwords := words_joined hsolid
  rw [htext] at hwords
  rw [hcompose, htext, parse?_of_words hwords, List.map_map]
  rfl

theorem parse?_compose_of_tokens (h : ∀ w ∈ tokens, IsSolid w) :
    parse? (compose ⟨some versionTag, tokens.map Term.parse⟩) =
      some ⟨some versionTag, tokens.map fun w => Term.parse (Term.compose (Term.parse w))⟩ := by
  rw [parse?_compose_of_solid, List.map_map]
  · rfl
  · intro u hu
    obtain ⟨w, hw, rfl⟩ := List.mem_map.mp hu
    exact Term.compose_solid (h w hw)

/-- A record is read back from its composed text exactly if no modifier of it that is not understood has
the mark of a dotted capital I in its name; where the text has no such letter, it always is. -/
theorem composed_reads_back_iff (t : Text) (r : Record) (h : parse? t = some r) :
    (parse? r.compose = some r ↔ ∀ u ∈ r.terms, u.kind = .unknownModifier →
      ∀ name, u.name = some name → '\u0307' ∉ name) ∧
    ('İ' ∉ t → parse? r.compose = some r) := by
  obtain ⟨tokens, hwords, rfl⟩ := words_of_parse? h
  have htoken : ∀ w ∈ tokens, IsSolid w ∧ ∀ c ∈ w, c ∈ unquoted t := fun w hw =>
    of_mem_words (hwords ▸ List.mem_cons_of_mem _ hw)
  have hline : ∀ w ∈ tokens, '\n' ∉ w := fun w hw hc =>
    absurd ((htoken w hw).1.2 _ hc) (by decide)
  have hiff : parse? (compose ⟨some versionTag, tokens.map Term.parse⟩) =
      some ⟨some versionTag, tokens.map Term.parse⟩ ↔ ∀ w ∈ tokens, ¬ (Term.parse w).IsMarked := by
    rw [parse?_compose_of_tokens fun w hw => (htoken w hw).1, Option.some_inj, Record.mk.injEq,
      and_iff_right rfl, List.map_inj_left]
    exact forall₂_congr fun w hw => Term.parse_compose_parse_iff (hline w hw)
  constructor
  · rw [hiff]
    constructor
    · intro hall u hu hk name hname hmark
      obtain ⟨w, hw, rfl⟩ := List.mem_map.mp hu
      exact hall w hw ⟨hk, name, hname, hmark⟩
    · rintro hall w hw ⟨hk, name, hname, hmark⟩
      exact hall _ (List.mem_map_of_mem hw) hk name hname hmark
  · intro hdotted
    refine hiff.mpr fun w hw => Term.not_isMarked fun hc => hdotted ?_
    exact of_mem_unquoted (by decide) ((htoken w hw).2 _ hc)

/-- The name of the modifier has a mark where it is read, and the composed text is another record. -/
theorem dotted_modifier_reads_otherwise :
    let r : Record := ⟨some versionTag, [{ kind := .mx, qualifier := .fail, cidr := some "/64" },
      { kind := .unknownModifier, value := some "x", name := some "bi\u0307s" }]⟩
    parse? "v=spf1 -MX//64 bİs=x" = some r ∧ parse? r.compose ≠ some r := by
  intro r
  have hparse : parse? "v=spf1 -MX//64 bİs=x" = some r := by decide +kernel
  refine ⟨hparse, fun hback => ?_⟩
  have hall := (composed_reads_back_iff _ r hparse).1.mp hback
  exact hall _ (List.mem_cons_of_mem _ List.mem_cons_self) rfl _ rfl (by decide)

end SenderPolicy.Record
