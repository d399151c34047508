import SenderPolicy.Proofs.Reference.Thrift
import SenderPolicy.Proofs.Term.Separation

/-!
A flattened record, composed and read again. Each of its terms was read from a word, or is an address mechanism that
was read from one and has got the name of an included domain since. That name comes from an include, which takes any
text; behind the colon of an address mechanism it is read by other rules. The record is read back exactly if each host
can be told apart from what stands behind it.
-/
namespace SenderPolicy.Dns

def Reply.texts : Reply → List Text
  | .records all => all.flatMap Datum.parts
  | _ => []

def Reply.IsAscii (r : Reply) : Prop := ∀ t ∈ r.texts, ∀ c ∈ t, c.toNat < 128

instance : DecidablePred Reply.IsAscii := fun r =>
  decidable_of_iff (r.texts.all fun t => t.all fun c => c.toNat < 128) (by simp [Reply.IsAscii])

theorem Zone.reply_isAscii {z : Zone} (h : ∀ entry ∈ z, entry.2.IsAscii) (q : Query) : (z.reply q).IsAscii := by
  unfold Zone.reply
  split
  · rename_i hfind
    exact h _ (List.mem_of_find?_eq_some hfind)
  · exact nofun

end SenderPolicy.Dns

namespace SenderPolicy.Reference
open Dns Text
variable {allowed : Query → Reply → Prop} {t u : Term} {ts terms : List Term} {r : Record} {domain target text : Text}
  {met : List Text} {fl : Flatten} {flatten? : Option Flatten} {flat : List Term × List Text}

/-- A term of a flattened record: it was read from a word without a dotted capital I, or it is such an address mechanism
with the name of a domain for its value. -/
inductive Legible : Term → Prop
  | read {w : Text} : IsSolid w → 'İ' ∉ w → Legible (Term.parse w)
  | pinned {w name : Text} : IsSolid w → (Term.parse w).kind ∈ [Kind.a, .mx, .ptr] →
      Unbroken (Domain.normalized name) → Legible { Term.parse w with value := some (Domain.normalized name) }

namespace Legible

theorem solid (h : Legible t) : IsSolid t.compose := by
  cases h with
  | read hw _ => exact Term.compose_solid hw
  | pinned hw hk hname => exact (Term.rereads_valued (Term.compose_solid hw) hk hname).solid

theorem unbroken (h : Legible t) : Unbroken (t.value.getD []) := by
  cases hv : t.value with
  | none => exact nofun
  | some value => exact Term.unbroken_value h.solid.2 hv

theorem reads_back_iff (h : Legible t) : Term.parse t.compose = t ↔ t.IsSeparable := by
  cases h with
  | read hw hdotted =>
    have hline : '\n' ∉ _ := fun hc => absurd (hw.2 _ hc) (by decide)
    exact iff_of_true ((Term.parse_compose_parse_iff hline).mpr (Term.not_isMarked hdotted)) (Term.isSeparable_parse hw)
  | @pinned w name hw hk hname =>
    have hall : [Kind.a, .mx, .ptr].all (fun k => Kind.mechanisms.contains k) = true := by decide
    have hmechanism : (Term.parse w).kind ∈ Kind.mechanisms := by simpa using List.all_eq_true.mp hall _ hk
    exact Term.parse_compose_iff (u := { Term.parse w with value := some (Domain.normalized name) }) hmechanism
      (Term.name_of_mechanism hmechanism)

theorem pinned_of_not_isSeparable (h : Legible t) (hnot : ¬ t.IsSeparable) :
    t.kind ∈ [Kind.a, .mx, .ptr] ∧ ∃ name, t.value = some (Domain.normalized name) := by
  cases h with
  | read hw _ => exact absurd (Term.isSeparable_parse hw) hnot
  | pinned _ hk _ => exact ⟨hk, _, rfl⟩

end Legible

theorem not_dotted (h : ∀ c ∈ text, c.toNat < 128) : 'İ' ∉ text := fun hc => absurd (h _ hc) (by decide)

theorem exists_plain_word (hparse : Record.parse? text = some r) (hdotted : 'İ' ∉ text) (ht : t ∈ r.terms) :
    ∃ w, IsSolid w ∧ 'İ' ∉ w ∧ t = Term.parse w := by
  obtain ⟨tokens, hwords, rfl⟩ := Record.words_of_parse? hparse
  obtain ⟨w, hw, rfl⟩ := List.mem_map.mp ht
  obtain ⟨hsolid, hsub⟩ := of_mem_words (hwords ▸ List.mem_cons_of_mem Record.versionTag hw)
  exact ⟨w, hsolid, fun hc => hdotted (Record.of_mem_unquoted (by decide) (hsub _ hc)), rfl⟩

theorem legible_anchored {w name : Text} (hw : IsSolid w) (hdotted : 'İ' ∉ w) (hname : Unbroken name) :
    Legible (anchored (Domain.normalized name) (Term.parse w)) := by
  rcases anchored_cases (Domain.normalized name) (Term.parse w) with hsame | ⟨hk, hvalued⟩
  · rw [hsame]
    exact .read hw hdotted
  · rw [hvalued]
    exact .pinned hw hk (unbroken_normalized hname)

theorem ascii_of_published (hallowed : ∀ name r, allowed ⟨.texts, name⟩ r → r.IsAscii) {publication : Publication}
    (h : (published target).ComesTo allowed (.ok publication)) : ∀ c ∈ publication.record, c.toNat < 128 := by
  obtain ⟨answer, hanswer, hend⟩ := h.of_bind
  have hpublication := hend.eq_of_pure
  cases hanswer with
  | @ask _ _ r _ hr hdone =>
    obtain rfl := hdone.eq_of_pure
    obtain ⟨d, hd, hrecord, -⟩ := Publication.exists_datum_of_ofAnswer hpublication.symm
    rw [hrecord]
    intro c hc
    obtain ⟨part, hpart, hc⟩ := List.mem_flatten.mp hc
    cases r with
    | records all => exact hallowed _ _ hr part (List.mem_flatMap.mpr ⟨d, hd, hpart⟩) c hc
    | nothing => cases hd
    | noSuchDomain name => cases hd
    | failed trouble reason => cases hd

/-- What replaces an include can be told from its text, but for the name that was included. -/
theorem legible_of_replacement? (hallowed : ∀ name r, allowed ⟨.texts, name⟩ r → r.IsAscii) {name : Text}
    (hname : Unbroken name) {found : Except Unpublished Publication}
    (hfound : (published (Domain.normalized name)).ComesTo allowed found)
    (hterms : replacement? (Domain.normalized name) (found.toOption.bind fun p => Record.parse? p.record) =
      some terms) : ∀ u ∈ terms, Legible u := by
  intro u hu
  cases found with
  | error e => cases hterms
  | ok publication =>
    cases hparse : Record.parse? publication.record with
    | none =>
      simp only [Except.toOption, Option.bind_some, hparse] at hterms
      cases hterms
    | some r =>
      simp only [Except.toOption, Option.bind_some, hparse] at hterms
      obtain ⟨-, -, rfl⟩ := replacement?_eq_some hterms
      obtain ⟨kept, hkept, rfl⟩ := List.mem_map.mp hu
      obtain ⟨w, hw, hdotted, rfl⟩ := exists_plain_word hparse (not_dotted (ascii_of_published hallowed hfound))
        (kept_of_mem_passing hkept).1
      exact legible_anchored hw hdotted hname

theorem flattenTerm_legible (hallowed : ∀ name r, allowed ⟨.texts, name⟩ r → r.IsAscii)
    (hfl : ∀ ts met flat, (∀ u ∈ ts, Legible u) → ((fl ts).run met).ComesTo allowed flat → ∀ u ∈ flat.1, Legible u)
    (ht : Legible t) (h : ((flattenTerm (some fl) t).run met).ComesTo allowed flat) : ∀ u ∈ flat.1, Legible u := by
  have hkept : ∀ u ∈ [t], Legible u := by simpa using ht
  rw [flattenTerm_run] at h
  dsimp only at h
  split at h
  case isTrue =>
    obtain rfl := h.eq_of_pure
    exact hkept
  case isFalse hopen =>
    obtain ⟨found, hfound, h⟩ := h.of_bind
    split at h
    case h_1 =>
      obtain rfl := h.eq_of_pure
      exact hkept
    case h_2 terms hterms =>
      exact hfl terms _ flat (legible_of_replacement? hallowed ht.unbroken hfound hterms) h

theorem flattenWith_legible
    (hstep : ∀ t met flat, Legible t → ((flattenTerm flatten? t).run met).ComesTo allowed flat →
      ∀ u ∈ flat.1, Legible u)
    (hts : ∀ t ∈ ts, Legible t) (h : ((flattenWith flatten? ts).run met).ComesTo allowed flat) :
    ∀ u ∈ flat.1, Legible u := by
  induction ts generalizing met flat with
  | nil =>
    obtain rfl := h.eq_of_pure
    exact hts
  | cons t rest ih =>
    obtain ⟨ht, hrest⟩ := List.forall_mem_cons.mp hts
    rw [flattenWith_run] at h
    obtain ⟨front, hfront, h⟩ := h.of_bind
    obtain ⟨others, hothers, h⟩ := h.of_bind
    obtain rfl := h.eq_of_pure
    exact List.forall_mem_append.mpr ⟨hstep t met front ht hfront, ih hrest hothers⟩

theorem flattenTerms_legible (hallowed : ∀ name r, allowed ⟨.texts, name⟩ r → r.IsAscii) (left : Nat)
    (hts : ∀ t ∈ ts, Legible t) (h : ((flattenTerms left ts).run met).ComesTo allowed flat) :
    ∀ u ∈ flat.1, Legible u := by
  induction left generalizing ts met flat with
  | zero =>
    refine flattenWith_legible (fun t met flat ht h => ?_) hts h
    obtain rfl := h.eq_of_pure
    simpa using ht
  | succ left ih =>
    refine flattenWith_legible (fun t met flat ht h => ?_) hts h
    exact flattenTerm_legible hallowed (fun ts met flat hts h => ih hts h) ht h

/-- A flattened record is read back from its composed text exactly if in each of its terms the host can be told apart
from what stands behind it, and so is each term. Only an address mechanism with the name of an included domain can fail
in this. -/
theorem flattened_reads_back_iff {σ : Type} (reply : Query → σ → Reply × σ) (s : σ) (depth : Int) (domain text : Text)
    (f : Record) (htext : ∀ c ∈ text, c.toNat < 128) (hanswers : ∀ name s, (reply ⟨.texts, name⟩ s).1.IsAscii)
    (hflat : ((flatten depth domain (some text)).run reply s).1 = some f) :
    (Record.parse? f.compose = some f ↔ ∀ t ∈ f.terms, t.IsSeparable) ∧
      ∀ t ∈ f.terms, (Term.parse t.compose = t ↔ t.IsSeparable) ∧
        (¬ t.IsSeparable → t.kind ∈ [Kind.a, .mx, .ptr] ∧ ∃ name, t.value = some (Domain.normalized name)) := by
  have hallowed : ∀ name r, Plan.Gives reply ⟨.texts, name⟩ r → r.IsAscii := by
    rintro name _ ⟨s, rfl⟩
    exact hanswers name s
  have hcomes := Plan.comesTo_run_gives reply (flatten depth domain (some text)) s
  rw [hflat, flatten, Option.bind_some] at hcomes
  cases hparse : Record.parse? text with
  | none =>
    rw [hparse] at hcomes
    cases hcomes
  | some r =>
    rw [hparse] at hcomes
    obtain ⟨⟨terms, met⟩, hterms, hend⟩ := hcomes.of_bind
    obtain rfl := Option.some.inj hend.eq_of_pure
    obtain ⟨tokens, -, rfl⟩ := Record.words_of_parse? hparse
    have hread : ∀ t ∈ terms, Legible t := flattenTerms_legible hallowed _ (fun t ht => by
      obtain ⟨w, hw, hdotted, rfl⟩ := exists_plain_word hparse (not_dotted htext) ht
      exact .read hw hdotted) hterms
    refine ⟨?_, fun t ht => ⟨(hread t ht).reads_back_iff, (hread t ht).pinned_of_not_isSeparable⟩⟩
    change Record.parse? (Record.compose ⟨some Record.versionTag, terms⟩) = some ⟨some Record.versionTag, terms⟩ ↔ _
    rw [Record.parse?_compose_of_solid fun t ht => (hread t ht).solid, Option.some_inj, Record.mk.injEq,
      and_iff_right rfl]
    calc terms.map reread = terms ↔ terms.map reread = terms.map id := by rw [List.map_id]
      _ ↔ ∀ t ∈ terms, reread t = t := List.map_inj_left
      _ ↔ ∀ t ∈ terms, t.IsSeparable := forall₂_congr fun t ht => (hread t ht).reads_back_iff

/-! Names with slashes, and lengths that are none -/

/-- An included name with a slash, an included `ptr` with a length, and an included record without either. -/
def slashedZone : Zone := [
  (⟨.texts, "b.example/24"⟩, .records [.text "v=spf1 a -all"]),
  (⟨.texts, "c.example"⟩, .records [.text "v=spf1 ptr/24 -all"]),
  (⟨.texts, "e.example"⟩, .records [.text "v=spf1 a mx/24 -all"])]

theorem slashedZone_isAscii : ∀ q, (slashedZone.reply q).IsAscii := Zone.reply_isAscii (by decide +kernel)

theorem plain_names_read_back :
    let reply : Query → Unit → Reply × Unit := fun q s => (slashedZone.reply q, s)
    let f : Record := ⟨some Record.versionTag, [{ kind := .a, value := some "e.example" },
      { kind := .mx, value := some "e.example", cidr := some "24" }, { kind := .all, qualifier := .fail }]⟩
    ((flatten 5 "d.example" (some "v=spf1 include:e.example -all")).run reply ()).1 = some f ∧
      Record.parse? f.compose = some f := by
  intro reply f
  have hflat : ((flatten 5 "d.example" (some "v=spf1 include:e.example -all")).run reply ()).1 = some f := by
    decide +kernel
  refine ⟨hflat, (flattened_reads_back_iff reply () 5 _ _ f (by simp)
    (fun name _ => slashedZone_isAscii _) hflat).1.mpr ?_⟩
  have hname : Term.WithinBraces 0 "e.example" := Term.withinBraces_of_notin (by decide) 0
  intro t ht
  simp only [f, List.mem_cons, List.not_mem_nil, or_false] at ht
  obtain rfl | rfl | rfl := ht
  · exact (Term.isSeparable_iff rfl).mpr ⟨fun _ => hname, fun h => absurd rfl h⟩
  · exact (Term.isSeparable_iff rfl).mpr ⟨fun _ => hname, fun _ => ⟨rfl, by decide⟩⟩
  · exact Term.isSeparable_of_value_eq_none rfl

/-- The slash of a name is taken for the one in front of a length, and the length of a `ptr` for a part of its name. -/
theorem slashed_names_read_otherwise :
    let f : Record := ⟨some Record.versionTag, [{ kind := .a, value := some "b.example/24" },
      { kind := .ptr, value := some "c.example", cidr := some "24" }, { kind := .all, qualifier := .fail }]⟩
    let g : Record := ⟨some Record.versionTag, [{ kind := .a, value := some "b.example", cidr := some "24" },
      { kind := .ptr, value := some "c.example/24" }, { kind := .all, qualifier := .fail }]⟩
    (∀ q, (slashedZone.reply q).IsAscii) ∧
      (flatten 5 "d.example" (some "v=spf1 include:b.example/24 include:c.example -all")).value slashedZone.reply =
        some f ∧
      Record.parse? f.compose = some g ∧ g ≠ f :=
  ⟨slashedZone_isAscii, by decide +kernel⟩

end SenderPolicy.Reference
