import SenderPolicy.Proofs.Evaluation.Decision
import SenderPolicy.Proofs.Evaluation.Step
import SenderPolicy.Reference.Flattening

/-!
What can stand for an include. Terms are covered by others if these decide nothing that the terms do not
decide, but for a message that the terms let pass. The kept mechanisms of an included record cover the include
exactly if all that is dropped of the record can be spared.
-/
namespace SenderPolicy.Reference
open Dns Evaluation
variable {s : Setting} {replies : Query → Reply} {domain target : Text} {t : Term} {ts us : List Term}
  {r : Record}

/-- Does flattening keep a mechanism of an included record? -/
def isKept (t : Term) : Bool := t.qualifier == .pass && t.kind != .all

/-- What flattening drops of the mechanisms can be spared: where one of the dropped decides, nothing that is
kept behind it lets the message pass, and it ends in no error that the kept ones would hide. -/
inductive Spared (s : Setting) (replies : Query → Reply) (domain : Text) : List Term → Prop
  | nil : Spared s replies domain []
  | kept {t : Term} {rest : List Term} : isKept t = true →
      (Yields s replies domain t .unmatched → Spared s replies domain rest) →
      Spared s replies domain (t :: rest)
  | unmatched {t : Term} {rest : List Term} : isKept t = false → Yields s replies domain t .unmatched →
      Spared s replies domain rest → Spared s replies domain (t :: rest)
  | passed {t : Term} {rest : List Term} : t.kind = .all → t.qualifier = .pass →
      Spared s replies domain (t :: rest)
  | final {t : Term} {rest : List Term} : isKept t = false → ¬ Passes s replies domain (rest.filter isKept) →
      (Decides s replies domain (rest.filter isKept) none → Yields s replies domain t .matched) →
      Spared s replies domain (t :: rest)

/-- The kept mechanisms of the record of a domain can stand for all of them, wherever they stand. -/
structure StandsIn (s : Setting) (replies : Query → Reply) (domain : Text) (r : Record) : Prop where
  valid : Audit.IsValid r
  spared : Spared s replies domain (mechanismsOf r.terms)
  pinned : ∀ t ∈ passing r, anchored domain t ≠ t →
    ∀ elsewhere, s.target (anchored domain t) elsewhere = .ok domain

theorem passing_eq (r : Record) : passing r = (mechanismsOf r.terms).filter isKept := by
  unfold passing mechanismsOf isKept
  rw [List.filter_filter]
  congr 1
  funext t
  rw [Bool.and_right_comm]

namespace Spared

theorem passes (h : Spared s replies domain ts) (hp : Passes s replies domain (ts.filter isKept)) :
    Passes s replies domain ts := by
  induction h with
  | nil => exact hp
  | kept hk _ ih =>
    rw [List.filter_cons_of_pos hk] at hp
    obtain ⟨u, hu, hd⟩ := hp
    cases hd with
    | past ht hd =>
      exact Passes.append (.past ht .nil) (ih ht ⟨_, hu, hd⟩)
    | stop ht ho => exact ⟨_, hu, .stop ht ho⟩
  | unmatched hk ht _ ih =>
    rw [List.filter_cons_of_neg (by simp [hk])] at hp
    exact Passes.append (.past ht .nil) (ih hp)
  | passed hk hq => exact ⟨_, hq, .stop (yields_all hk) (by decide)⟩
  | final hk hnone _ =>
    rw [List.filter_cons_of_neg (by simp [hk])] at hp
    exact absurd hp hnone

theorem decides (h : Spared s replies domain ts)
    (hd : Decides s replies domain (ts.filter isKept) none) :
    Decides s replies domain ts none ∨ ∃ t, Decides s replies domain ts (some (t, .matched)) := by
  have step {t : Term} {rest : List Term} (ht : Yields s replies domain t .unmatched)
      (h : Decides s replies domain rest none ∨ ∃ u, Decides s replies domain rest (some (u, .matched))) :
      Decides s replies domain (t :: rest) none ∨
        ∃ u, Decides s replies domain (t :: rest) (some (u, .matched)) := by
    rcases h with h | ⟨u, h⟩
    · exact .inl (.past ht h)
    · exact .inr ⟨u, .past ht h⟩
  induction h with
  | nil => exact .inl .nil
  | kept hk _ ih =>
    rw [List.filter_cons_of_pos hk] at hd
    cases hd with
    | past ht hd => exact step ht (ih ht hd)
  | unmatched hk ht _ ih =>
    rw [List.filter_cons_of_neg (by simp [hk])] at hd
    exact step ht (ih hd)
  | passed hk _ => exact .inr ⟨_, .stop (yields_all hk) (by decide)⟩
  | final hk _ hmatched =>
    rw [List.filter_cons_of_neg (by simp [hk])] at hd
    exact .inr ⟨_, .stop (hmatched hd) (by decide)⟩

theorem of_passes (hp : Passes s replies domain (ts.filter isKept) → Passes s replies domain ts)
    (hd : Decides s replies domain (ts.filter isKept) none →
      Decides s replies domain ts none ∨ ∃ t, Decides s replies domain ts (some (t, .matched))) :
    Spared s replies domain ts := by
  induction ts with
  | nil => exact .nil
  | cons t rest ih =>
    have behind (ht : Yields s replies domain t .unmatched)
        (hp : Passes s replies domain (rest.filter isKept) → Passes s replies domain (t :: rest))
        (hd : Decides s replies domain (rest.filter isKept) none →
          Decides s replies domain (t :: rest) none ∨
            ∃ u, Decides s replies domain (t :: rest) (some (u, .matched))) :
        Spared s replies domain rest := by
      refine ih (fun h => ?_) (fun h => ?_)
      · obtain ⟨u, hu, h⟩ := hp h
        exact ⟨u, hu, h.behind ht⟩
      · rcases hd h with h | ⟨u, h⟩
        · exact .inl (h.behind ht)
        · exact .inr ⟨u, h.behind ht⟩
    by_cases hk : isKept t = true
    · rw [List.filter_cons_of_pos hk] at hp hd
      refine .kept hk fun ht => behind ht (fun ⟨u, hu, h⟩ => hp ⟨u, hu, .past ht h⟩) fun h => hd (.past ht h)
    · have hdropped : isKept t = false := by simpa using hk
      rw [List.filter_cons_of_neg hk] at hp hd
      by_cases ht : Yields s replies domain t .unmatched
      · exact .unmatched hdropped ht (behind ht hp hd)
      · by_cases hall : t.kind = .all ∧ t.qualifier = .pass
        · exact .passed hall.1 hall.2
        · refine .final hdropped (fun h => ?_) (fun h => ?_)
          · obtain ⟨u, hu, h⟩ := hp h
            obtain ⟨rfl, -⟩ := h.of_not_unmatched ht
            simp [isKept, hu] at hdropped
            exact hall ⟨hdropped, hu⟩
          · rcases hd h with h | ⟨u, h⟩
            · exact absurd h.yields_of_none ht
            · exact (h.of_not_unmatched ht).2

end Spared

/-! Terms of an included record elsewhere -/

variable {t u : Term}

theorem matchesAny_congr (h : t.prefixLengths = u.prefixLengths) (addresses : List Text) :
    s.matchesAny addresses t = s.matchesAny addresses u := by
  simp only [Setting.matchesAny, Setting.matchLength, h]

theorem hostsOutcome_congr (h : t.prefixLengths = u.prefixLengths) (failed : Bool)
    (answers : List (Text × Answer)) : hostsOutcome s t failed answers = hostsOutcome s u failed answers := by
  induction answers generalizing failed with
  | nil => rfl
  | cons a rest ih =>
    obtain ⟨host, answer⟩ := a
    simp only [hostsOutcome, ih, matchesAny_congr h]

theorem lookupOutcome_congr (hk : t.kind = u.kind) (h : t.prefixLengths = u.prefixLengths)
    (target : Text) : lookupOutcome s replies target t = lookupOutcome s replies target u := by
  simp only [lookupOutcome, hk, hostsOutcome_congr h, matchesAny_congr h]

/-- What a term comes to depends on the domain through its target alone. -/
theorem termOutcome_congr {verdict : Text → Option Verdict} {elsewhere : Text} (hk : t.kind = u.kind)
    (hl : t.prefixLengths = u.prefixLengths) (hv : t.kind = .ip4 ∨ t.kind = .ip6 → t.value = u.value)
    (ht : s.target t elsewhere = s.target u domain) :
    termOutcome s replies verdict elsewhere t = termOutcome s replies verdict domain u := by
  unfold termOutcome
  rw [← hk, ht]
  split
  · rfl
  · rename_i h4
    rw [hv (.inl h4)]
  · rename_i h6
    rw [hv (.inr h6)]
  · rfl
  · simp only [lookupOutcome_congr hk hl]

theorem anchored_of_value {value : Text} (hv : t.value = some value) (hne : value ≠ []) (domain : Text) :
    anchored domain t = t := by
  unfold anchored
  split <;> simp_all

theorem termOutcome_anchored {verdict : Text → Option Verdict} {elsewhere : Text}
    (hcheck : Audit.checkTerm t = .ok ()) (hm : t.isModifier = false) (hletters : hasMacro t = false)
    (h : anchored domain t ≠ t → s.target (anchored domain t) elsewhere = .ok domain) :
    termOutcome s replies verdict elsewhere (anchored domain t) =
      termOutcome s replies verdict domain t := by
  cases hv : t.value with
  | some value =>
    have hne : value ≠ [] := fun hnil => Audit.value_ne_nil hcheck hm (hnil ▸ hv)
    have hplain : value.contains '%' = false := by simpa [hasMacro, hv] using hletters
    rw [anchored_of_value hv hne]
    refine termOutcome_congr rfl rfl (fun _ => rfl) ?_
    rw [target_of_value hv hne hplain, target_of_value hv hne hplain]
  | none =>
    have relative (ha : anchored domain t = { t with value := some domain })
        (hip : ¬ (t.kind = .ip4 ∨ t.kind = .ip6)) :
        termOutcome s replies verdict elsewhere (anchored domain t) =
          termOutcome s replies verdict domain t := by
      have htarget := h fun heq => by rw [ha] at heq; rw [← heq] at hv; cases hv
      rw [ha] at htarget ⊢
      refine termOutcome_congr rfl rfl (fun hk => absurd hk hip) (htarget.trans ?_)
      simp only [Setting.target, hv]
    cases hk : t.kind with
    | all | ip4 | ip6 => simp only [anchored, termOutcome, hk]
    | a | mx | ptr => exact relative (by simp only [anchored, hk, hv]) (by simp [hk])
    | inclusion => exact absurd hv (Audit.value_ne_none hcheck (.inl hk))
    | existence => exact absurd hv (Audit.value_ne_none hcheck (.inr hk))
    | unknown => exact absurd hk (Audit.kind_ne_unknown hcheck)
    | redirect | exp | unknownModifier => simp [Term.isModifier, Kind.isModifier, hk] at hm

/-! Covering -/

theorem replacement?_eq_some {terms : List Term} (h : replacement? target (some r) = some terms) :
    r.redirect = none ∧ (∀ u ∈ passing r, hasMacro u = false) ∧
      terms = (passing r).map (anchored target) := by
  simp only [replacement?] at h
  split at h
  · cases h
  · rename_i hplain
    rw [not_or] at hplain
    refine ⟨by simpa using hplain.1, fun u hu => ?_, (Option.some.inj h).symm⟩
    by_cases hm : hasMacro u = true
    · exact absurd (List.any_eq_true.mpr ⟨u, hu, hm⟩) hplain.2
    · simpa using hm

/-- What the flattened terms decide, the terms decide, too, or they let the message pass; errors aside. -/
def Covers (s : Setting) (replies : Query → Reply) (domain : Text) (flat ts : List Term) : Prop :=
  ∀ found, Decides s replies domain flat found → (∀ t o, found = some (t, o) → o = .matched) →
    Decides s replies domain ts found ∨ Passes s replies domain ts

theorem covers_refl (ts : List Term) : Covers s replies domain ts ts :=
  fun _ h _ => .inl h

theorem Covers.append {flat flat' : List Term} (h : Covers s replies domain flat ts)
    (h' : Covers s replies domain flat' us) : Covers s replies domain (flat ++ flat') (ts ++ us) := by
  intro found hd hm
  rcases hd.cut with ⟨hfront, hrest⟩ | ⟨x, rfl, hfront⟩
  · rcases h none hfront (fun t o ho => nomatch ho) with hnone | hpass
    · exact (h' found hrest hm).imp hnone.append (Passes.append hnone)
    · exact .inr (hpass.append_right us)
  · exact (h (some x) hfront hm).imp (fun hd => hd.append_right us) fun hpass => hpass.append_right us

theorem kept_of_mem_passing (h : t ∈ passing r) :
    t ∈ r.terms ∧ t.qualifier = .pass ∧ t.isModifier = false := by
  unfold passing at h
  obtain ⟨hmem, hkept⟩ := List.mem_filter.mp h
  simp at hkept
  exact ⟨hmem, hkept.1.1, hkept.1.2⟩

theorem anchored_cases (domain : Text) (t : Term) : anchored domain t = t ∨
    t.kind ∈ [Kind.a, .mx, .ptr] ∧ anchored domain t = { t with value := some domain } := by
  unfold anchored
  split <;> simp_all

theorem anchored_isModifier (domain : Text) (t : Term) : (anchored domain t).isModifier = t.isModifier := by
  unfold anchored
  split <;> rfl

theorem Covers.trans {flat : List Term} (h : Covers s replies domain flat ts)
    (h' : Covers s replies domain ts us) : Covers s replies domain flat us := by
  intro found hd hm
  rcases h found hd hm with hd | ⟨t, ht, hd⟩
  · exact h' found hd hm
  · refine (h' (some (t, .matched)) hd fun u o ho => by cases ho; rfl).elim (fun hd => ?_) .inr
    exact .inr ⟨t, ht, hd⟩

theorem target_of_isReplaceable (h : isReplaceable t = true) :
    t.kind = .inclusion ∧ t.qualifier = .pass ∧
      ∀ domain, s.target t domain = .ok (Domain.normalized (t.value.getD [])) := by
  simp only [isReplaceable, Bool.and_eq_true, beq_iff_eq] at h
  obtain ⟨⟨hk, hq⟩, hvalue⟩ := h
  cases hv : t.value with
  | none => simp [hv] at hvalue
  | some value =>
    have hne : value ≠ [] := fun hnil => by simp [hv, hnil] at hvalue
    have hplain : value.contains '%' = false := by simpa [hv, hne] using hvalue
    exact ⟨hk, hq, target_of_value hv hne hplain⟩

section Include
variable (hk : t.kind = .inclusion) (hq : t.qualifier = .pass) (htarget : s.target t domain = .ok target)
  (hp : Audit.Publishes replies target r) (hr : r.redirect = none)
include hk hq htarget hp hr

theorem passes_include_iff :
    Passes s replies domain [t] ↔ Passes s replies target (mechanismsOf r.terms) := by
  constructor
  · rintro ⟨u, -, hd⟩
    have hmatched : Yields s replies domain t .matched := by
      cases hd with
      | past _ hd => cases hd
      | stop ho _ => exact ho
    obtain ⟨v, hv, ho⟩ := judges_of_yields hk htarget hmatched
    obtain ⟨found, hd, rfl⟩ := decides_of_judges hp hr hv
    cases found with
    | none => cases ho
    | some x =>
      have hpass : decidedVerdict x.1 x.2 = .pass := by
        cases hx : decidedVerdict x.1 x.2 <;> simp [foundVerdict, hx, includeOutcome] at ho ⊢
      obtain ⟨hx, hu⟩ := matched_of_decidedVerdict hd hpass
      exact ⟨x.1, hu, hx ▸ hd⟩
  · rintro ⟨u, hu, hd⟩
    have hjudges := judges_of_decides hp hr hd
    rw [foundVerdict_matched, hu] at hjudges
    exact ⟨t, hq, .stop (yields_of_judges hk htarget hjudges) (by decide)⟩

theorem decides_include_iff :
    (Decides s replies domain [t] none ∨ Passes s replies domain [t]) ↔
      Decides s replies target (mechanismsOf r.terms) none ∨
        ∃ u, Decides s replies target (mechanismsOf r.terms) (some (u, .matched)) := by
  rw [passes_include_iff hk hq htarget hp hr]
  constructor
  · rintro (hnone | ⟨u, -, hd⟩)
    · obtain ⟨v, hv, ho⟩ := judges_of_yields hk htarget hnone.yields_of_none
      obtain ⟨found, hd, rfl⟩ := decides_of_judges hp hr hv
      cases found with
      | none => exact .inl hd
      | some x =>
        obtain ⟨u, o⟩ := x
        cases o with
        | matched => exact .inr ⟨u, hd⟩
        | unmatched => exact absurd rfl hd.ne_unmatched
        | _ => cases ho
    · exact .inr ⟨u, hd⟩
  · have hunmatched {found : Option (Term × Outcome)}
        (hd : Decides s replies target (mechanismsOf r.terms) found)
        (ho : includeOutcome (foundVerdict found) = .unmatched) : Decides s replies domain [t] none :=
      .past (ho ▸ yields_of_judges hk htarget (judges_of_decides hp hr hd)) .nil
    rintro (hnone | ⟨u, hd⟩)
    · exact .inl (hunmatched hnone rfl)
    · by_cases hu : u.qualifier = .pass
      · exact .inr ⟨u, hu, hd⟩
      · exact .inl (hunmatched hd (includeOutcome_of_ne hu))

/-- What replaces an include covers it exactly if what is dropped of the included record can be spared. -/
theorem covers_iff_spared {terms : List Term} (hterms : replacement? target (some r) = some terms)
    (hpinned : ∀ u ∈ passing r, anchored target u ≠ u → s.target (anchored target u) domain = .ok target) :
    Covers s replies domain terms [t] ↔ Spared s replies target (mechanismsOf r.terms) := by
  obtain ⟨-, hletters, rfl⟩ := replacement?_eq_some hterms
  -- What is kept comes to the same in either domain.
  have hyields (u : Term) (hu : u ∈ passing r) (o : Outcome) :
      Yields s replies domain (anchored target u) o ↔ Yields s replies target u o := by
    obtain ⟨publication, -, -, hvalid⟩ := hp
    obtain ⟨hmem, -, hmod⟩ := kept_of_mem_passing hu
    refine exists_congr fun n => ?_
    rw [termOutcome_anchored (hvalid.checkTerm u hmem) hmod (hletters u hu) (hpinned u hu)]
  constructor
  · intro hcovers
    refine Spared.of_passes ?_ ?_
    · rw [← passing_eq]
      rintro ⟨u, hu, hd⟩
      rw [← passes_include_iff hk hq htarget hp hr]
      have hflat := hd.map fun u hu o => (hyields u hu o).mpr
      rcases hcovers _ hflat (fun t o ho => by cases ho; rfl) with hd | hpass
      · have hmem := List.mem_singleton.mp hd.mem
        exact ⟨_, (congrArg Term.qualifier hmem).trans hq, hd⟩
      · exact hpass
    · rw [← passing_eq]
      intro hd
      rw [← decides_include_iff hk hq htarget hp hr]
      exact hcovers none (hd.map fun u hu o => (hyields u hu o).mpr) fun t o ho => nomatch ho
  · intro hspared found hd hm
    obtain ⟨found', hkept, rfl⟩ := hd.of_map fun u hu o => (hyields u hu o).mp
    cases found' with
    | some x =>
      obtain ⟨u, o⟩ := x
      obtain rfl : o = .matched := hm _ o rfl
      have hu : u.qualifier = .pass := (kept_of_mem_passing hkept.mem).2.1
      rw [passing_eq] at hkept
      exact .inr ((passes_include_iff hk hq htarget hp hr).mpr (hspared.passes ⟨u, hu, hkept⟩))
    | none =>
      rw [passing_eq] at hkept
      exact (decides_include_iff hk hq htarget hp hr).mpr (hspared.decides hkept)

end Include

end SenderPolicy.Reference
