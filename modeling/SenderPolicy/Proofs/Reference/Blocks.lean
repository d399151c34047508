import Mathlib.Data.List.Forall2
import SenderPolicy.Proofs.Reference.Flattening
import SenderPolicy.Proofs.Text.Composition

/-!
What flattening puts where a term stood. Each term has a block of its own, in order: the term itself or, for an include
that can be told without a message, mechanisms of the records that it leads to, which only let messages pass. So no
modifier and no mechanism that matches everything gets from one record into another, and nothing that means the domain
of its record without naming it.
-/
namespace SenderPolicy.Reference
open Dns Text
variable {allowed : Query → Reply → Prop} {t u : Term} {ts terms block : List Term} {blocks : List (List Term)}
  {r : Record} {target : Text} {met : List Text} {fl : Flatten} {flatten? : Option Flatten}
  {flat : List Term × List Text}

/-! Includes that may be replaced -/

/-- An include that passes wherever it matches, with a name that stands for itself. -/
structure IsPlainInclude (t : Term) : Prop where
  kind : t.kind = .inclusion
  qualifier : t.qualifier = .pass
  named : ∃ value, t.value = some value ∧ value ≠ [] ∧ '%' ∉ value

theorem isReplaceable_iff : isReplaceable t = true ↔ IsPlainInclude t := by
  constructor
  · intro h
    simp only [isReplaceable, Bool.and_eq_true, beq_iff_eq] at h
    obtain ⟨⟨hkind, hqualifier⟩, hvalue⟩ := h
    refine ⟨hkind, hqualifier, ?_⟩
    cases hv : t.value with
    | none => simp [hv] at hvalue
    | some value =>
      cases value with
      | nil => simp [hv] at hvalue
      | cons c rest => exact ⟨c :: rest, rfl, List.cons_ne_nil c rest, by simpa [hv] using hvalue⟩
  · rintro ⟨hkind, hqualifier, value, hv, hne, hplain⟩
    cases value with
    | nil => exact absurd rfl hne
    | cons c rest => simpa [isReplaceable, hkind, hqualifier, hv] using hplain

def targetOf (t : Term) : Text := Domain.normalized (t.value.getD [])

theorem IsPlainInclude.percent_notin_target (h : IsPlainInclude t) : '%' ∉ targetOf t := by
  obtain ⟨value, hvalue, -, hplain⟩ := h.named
  rw [targetOf, hvalue]
  exact percent_notin_normalized hplain

/-- By some of the replies the include is replaced by the terms of the record that it leads to. -/
structure Opens (allowed : Query → Reply → Prop) (t : Term) (terms : List Term) : Prop where
  plain : IsPlainInclude t
  fetched : ∃ publication r, (published (targetOf t)).ComesTo allowed (.ok publication) ∧
    Record.parse? publication.record = some r ∧ replacement? (targetOf t) (some r) = some terms

/-- The term is one of the record of the target, and it stands in place of the include, or in place of an include that
stands there. -/
inductive ComesFrom (allowed : Query → Reply → Prop) : Term → Text → Term → Prop
  | record {t u : Term} {terms : List Term} :
      Opens allowed t terms → u ∈ terms → ComesFrom allowed t (targetOf t) u
  | within {t t' u : Term} {terms : List Term} {target : Text} :
      Opens allowed t terms → t' ∈ terms → ComesFrom allowed t' target u → ComesFrom allowed t target u

/-! Terms that may be put there -/

/-- All that the term does is let messages pass, of which it needs to know nothing, and of the domain no more than it
says itself. -/
structure OnlyPasses (target : Text) (u : Term) : Prop where
  qualifier : u.qualifier = .pass
  mechanism : u.isModifier = false
  partly : u.kind ≠ .all
  plain : '%' ∉ u.value.getD []
  pinned : u.kind ∈ [Kind.a, .mx, .ptr] → ∃ value, u.value = some value ∧ (value = [] → target = [])

theorem kind_ne_all_of_mem_passing (h : u ∈ passing r) : u.kind ≠ .all := by
  have hkept := (List.mem_filter.mp h).2
  simp only [Bool.and_eq_true, bne_iff_ne] at hkept
  exact hkept.2

theorem anchored_of_relative (hk : u.kind ∈ [Kind.a, .mx, .ptr]) (hv : u.value.getD [] = []) (target : Text) :
    anchored target u = { u with value := some target } := by
  have hempty : u.value = none ∨ u.value = some [] := by
    cases hvalue : u.value with
    | none => exact .inl rfl
    | some value =>
      rw [hvalue] at hv
      exact .inr (congrArg some hv)
  simp only [List.mem_cons, List.not_mem_nil, or_false] at hk
  obtain hk | hk | hk := hk <;> obtain hv | hv := hempty <;> simp only [anchored, hk, hv]

theorem onlyPasses_anchored (hu : u ∈ passing r) (hplain : hasMacro u = false) (htarget : '%' ∉ target) :
    OnlyPasses target (anchored target u) := by
  obtain ⟨-, hqualifier, hmechanism⟩ := kept_of_mem_passing hu
  have hall := kind_ne_all_of_mem_passing hu
  rcases anchored_cases target u with hsame | ⟨-, hvalued⟩
  · have hvalue : '%' ∉ u.value.getD [] := by simpa [hasMacro] using hplain
    rw [hsame]
    refine ⟨hqualifier, hmechanism, hall, hvalue, fun hk => ?_⟩
    by_cases hempty : u.value.getD [] = []
    · rw [anchored_of_relative hk hempty] at hsame
      exact ⟨target, by rw [← hsame], id⟩
    · obtain ⟨value, hv⟩ : ∃ value, u.value = some value := by
        cases hv : u.value with
        | none => exact absurd (by rw [hv]; rfl) hempty
        | some value => exact ⟨value, rfl⟩
      exact ⟨value, hv, fun hnil => absurd (by rw [hv, hnil]; rfl) hempty⟩
  · rw [hvalued]
    exact ⟨hqualifier, hmechanism, hall, htarget, fun _ => ⟨target, rfl, id⟩⟩

theorem Opens.onlyPasses (h : Opens allowed t terms) (hu : u ∈ terms) : OnlyPasses (targetOf t) u := by
  obtain ⟨publication, r, -, -, hterms⟩ := h.fetched
  obtain ⟨-, hplain, rfl⟩ := replacement?_eq_some hterms
  obtain ⟨kept, hkept, rfl⟩ := List.mem_map.mp hu
  exact onlyPasses_anchored hkept (hplain kept hkept) h.plain.percent_notin_target

/-! Blocks -/

/-- What may stand in place of the term. -/
inductive IsBlock (allowed : Query → Reply → Prop) (t : Term) : List Term → Prop
  | kept : IsBlock allowed t [t]
  | replaced {block : List Term} : IsPlainInclude t →
      (∀ u ∈ block, ∃ target, ComesFrom allowed t target u ∧ OnlyPasses target u) → IsBlock allowed t block

/-- The flattened terms are the blocks of the terms, in order. -/
def FlattensTo (allowed : Query → Reply → Prop) (ts flat : List Term) : Prop :=
  ∃ blocks, List.Forall₂ (IsBlock allowed) ts blocks ∧ flat = blocks.flatten

theorem FlattensTo.of_mem {flat : List Term} (h : FlattensTo allowed ts flat) (hu : u ∈ flat) :
    ∃ t ∈ ts, ∃ block, IsBlock allowed t block ∧ u ∈ block := by
  obtain ⟨blocks, hblocks, rfl⟩ := h
  induction hblocks with
  | nil => cases hu
  | cons hblock _ ih =>
    rw [List.flatten_cons, List.mem_append] at hu
    rcases hu with hu | hu
    · exact ⟨_, List.mem_cons_self, _, hblock, hu⟩
    · obtain ⟨t, ht, hrest⟩ := ih hu
      exact ⟨t, List.mem_cons_of_mem _ ht, hrest⟩

theorem Opens.isBlock {flat : List Term} (h : Opens allowed t terms) (hflat : FlattensTo allowed terms flat) :
    IsBlock allowed t flat := by
  refine .replaced h.plain fun u hu => ?_
  obtain ⟨t', ht', block, hblock, hu⟩ := hflat.of_mem hu
  cases hblock with
  | kept =>
    obtain rfl := List.mem_singleton.mp hu
    exact ⟨targetOf t, .record h ht', h.onlyPasses ht'⟩
  | replaced _ hall =>
    obtain ⟨target, hfrom, hpasses⟩ := hall u hu
    exact ⟨target, .within h ht' hfrom, hpasses⟩

theorem flattenTerm_isBlock
    (hfl : ∀ ts met flat, ((fl ts).run met).ComesTo allowed flat → FlattensTo allowed ts flat.1)
    (h : ((flattenTerm (some fl) t).run met).ComesTo allowed flat) : IsBlock allowed t flat.1 := by
  rw [flattenTerm_run] at h
  dsimp only at h
  split at h
  case isTrue =>
    obtain rfl := h.eq_of_pure
    exact .kept
  case isFalse hopen =>
    rw [Bool.or_eq_true, not_or] at hopen
    have hplain : IsPlainInclude t := isReplaceable_iff.mp (by simpa using hopen.1)
    obtain ⟨found, hfound, h⟩ := h.of_bind
    split at h
    case h_1 =>
      obtain rfl := h.eq_of_pure
      exact .kept
    case h_2 terms hterms =>
      obtain ⟨publication, r, rfl, hparse⟩ : ∃ publication r, found = .ok publication ∧
          Record.parse? publication.record = some r := by
        cases found with
        | error e => cases hterms
        | ok publication =>
          cases hparse : Record.parse? publication.record with
          | none =>
            simp only [Except.toOption, Option.bind_some, hparse] at hterms
            cases hterms
          | some r => exact ⟨publication, r, rfl, hparse⟩
      simp only [Except.toOption, Option.bind_some, hparse] at hterms
      exact Opens.isBlock ⟨hplain, publication, r, hfound, hparse, hterms⟩ (hfl terms _ flat h)

theorem flattenWith_flattensTo
    (hstep : ∀ t met flat, ((flattenTerm flatten? t).run met).ComesTo allowed flat → IsBlock allowed t flat.1)
    (h : ((flattenWith flatten? ts).run met).ComesTo allowed flat) : FlattensTo allowed ts flat.1 := by
  induction ts generalizing met flat with
  | nil =>
    obtain rfl := h.eq_of_pure
    exact ⟨[], .nil, rfl⟩
  | cons t rest ih =>
    rw [flattenWith_run] at h
    obtain ⟨front, hfront, h⟩ := h.of_bind
    obtain ⟨others, hothers, h⟩ := h.of_bind
    obtain rfl := h.eq_of_pure
    obtain ⟨blocks, hblocks, heq⟩ := ih hothers
    exact ⟨front.1 :: blocks, .cons (hstep t met front hfront) hblocks, by rw [heq, List.flatten_cons]⟩

theorem flattenTerms_flattensTo (left : Nat) (h : ((flattenTerms left ts).run met).ComesTo allowed flat) :
    FlattensTo allowed ts flat.1 := by
  -- What replaces an include is flattened one step less deep.
  induction left generalizing ts met flat with
  | zero =>
    refine flattenWith_flattensTo (fun t met flat h => ?_) h
    obtain rfl := h.eq_of_pure
    exact .kept
  | succ left ih => exact flattenWith_flattensTo (fun t met flat h => flattenTerm_isBlock (fun ts met flat h => ih h) h) h

/-- A flattened record has a block for each term of the record, in order: the term, or for a plain include mechanisms that
only let messages pass, of records that it leads to. -/
theorem flatten_blocks {σ : Type} (reply : Query → σ → Reply × σ) (s : σ) (depth : Int) (domain : Text)
    (text : Option Text) :
    match text.bind Record.parse? with
    | none => ((flatten depth domain text).run reply s).1 = none
    | some r => ∃ blocks, List.Forall₂ (IsBlock (Plan.Gives reply)) r.terms blocks ∧
        ((flatten depth domain text).run reply s).1 = some (r.withTerms blocks.flatten) := by
  have hcomes := Plan.comesTo_run_gives reply (flatten depth domain text) s
  rw [flatten] at hcomes ⊢
  cases hparse : text.bind Record.parse? with
  | none =>
    rw [hparse] at hcomes
    exact hcomes.eq_of_pure
  | some r =>
    rw [hparse] at hcomes
    obtain ⟨⟨flat, met⟩, hflat, hend⟩ := hcomes.of_bind
    obtain ⟨blocks, hblocks, rfl⟩ := flattenTerms_flattensTo _ hflat
    exact ⟨blocks, hblocks, hend.eq_of_pure⟩

end SenderPolicy.Reference
