import SenderPolicy.Proofs.Reference.Covering

/-!
Flattening keeps what a policy says of a message, if the kept mechanisms of each record that replaces an
include can stand for all. By induction on the depth and on the terms, what it comes to covers the mechanisms,
and has the same modifiers.
-/
namespace SenderPolicy.Reference
open Dns Evaluation
variable {s : Setting} {replies : Query → Reply} {domain target : Text} {t : Term} {ts us : List Term}
  {r : Record} {home : Text} {targets met : List Text}

/-! One term, flattened -/

theorem flattenTerm_run (fl : Flatten) (t : Term) (met : List Text) :
    (flattenTerm (some fl) t).run met =
      let target := Domain.normalized (t.value.getD [])
      if !isReplaceable t || met.contains target then pure ([t], met)
      else published target >>= fun fetched =>
        match replacement? target (fetched.toOption.bind fun p => Record.parse? p.record) with
        | none => pure ([t], target :: met)
        | some terms => (fl terms).run (target :: met) := by
  simp only [flattenTerm, StateT.run_bind, StateT.run_get, pure_bind]
  split
  · rfl
  · simp only [StateT.run_bind, StateT.run_modify, pure_bind, StateT.run_monadLift, monadLift_self,
      bind_assoc]
    refine bind_congr fun fetched => ?_
    cases replacement? (Domain.normalized (t.value.getD []))
      (fetched.toOption.bind fun p => Record.parse? p.record) <;> rfl

theorem flattenTerm_cases (replies : Query → Reply) (fl : Flatten) (t : Term) (met : List Text) :
    let target := Domain.normalized (t.value.getD [])
    let reached := ((flattenTerm (some fl) t).run met).value replies
    (reached.1 = [t] ∧ ∀ g ∈ met, g ∈ reached.2) ∨
    ∃ publication r terms, isReplaceable t = true ∧ target ∉ met ∧
      (published target).value replies = .ok publication ∧ Record.parse? publication.record = some r ∧
      replacement? target (some r) = some terms ∧
      reached = ((fl terms).run (target :: met)).value replies := by
  dsimp only
  rw [flattenTerm_run]
  dsimp only
  split
  · exact .inl ⟨rfl, fun g hg => hg⟩
  · rename_i hopen
    rw [Bool.or_eq_true, not_or] at hopen
    have hreplaceable : isReplaceable t = true := by simpa using hopen.1
    have hfresh : Domain.normalized (t.value.getD []) ∉ met := by simpa using hopen.2
    rw [Plan.value_bind]
    cases hp : (published (Domain.normalized (t.value.getD []))).value replies with
    | error u => exact .inl ⟨rfl, fun g hg => List.mem_cons_of_mem _ hg⟩
    | ok publication =>
      rw [show (Except.ok publication : Except Unpublished Publication).toOption = some publication from rfl,
        Option.bind_some]
      cases hparse : Record.parse? publication.record with
      | none => exact .inl ⟨rfl, fun g hg => List.mem_cons_of_mem _ hg⟩
      | some r =>
        cases hterms : replacement? (Domain.normalized (t.value.getD [])) (some r) with
        | none => exact .inl ⟨rfl, fun g hg => List.mem_cons_of_mem _ hg⟩
        | some terms => exact .inr ⟨publication, r, terms, hreplaceable, hfresh, rfl, hparse, hterms, rfl⟩

/-! Lists of terms, flattened -/

theorem mechanismsOf_append (ts us : List Term) :
    mechanismsOf (ts ++ us) = mechanismsOf ts ++ mechanismsOf us :=
  List.filter_append ts us

def modifiersOf (ts : List Term) : List Term := ts.filter (·.isModifier)

theorem modifiersOf_append (ts us : List Term) :
    modifiersOf (ts ++ us) = modifiersOf ts ++ modifiersOf us :=
  List.filter_append ts us

theorem anchored_passing (domain : Text) (r : Record) :
    mechanismsOf ((passing r).map (anchored domain)) = (passing r).map (anchored domain) ∧
      modifiersOf ((passing r).map (anchored domain)) = [] := by
  have hall : ∀ t ∈ (passing r).map (anchored domain), t.isModifier = false := by
    intro t ht
    obtain ⟨u, hu, rfl⟩ := List.mem_map.mp ht
    rw [anchored_isModifier]
    exact (kept_of_mem_passing hu).2.2
  constructor
  · exact List.filter_eq_self.mpr fun t ht => by simp [hall t ht]
  · exact List.filter_eq_nil_iff.mpr fun t ht => by simp [hall t ht]

/-- The kept mechanisms can stand for all in the records of the targets, where they replace an include. The
domain that is flattened is a target from the start, and replaces nothing. -/
def AllStandIn (s : Setting) (replies : Query → Reply) (home : Text) (targets : List Text) : Prop :=
  ∀ target ∈ targets, target ≠ home → ∀ publication r terms,
    (published target).value replies = .ok publication → Record.parse? publication.record = some r →
    replacement? target (some r) = some terms → StandsIn s replies target r

structure Keeps (s : Setting) (replies : Query → Reply) (domain : Text) (flat ts : List Term) : Prop where
  covers : Covers s replies domain (mechanismsOf flat) (mechanismsOf ts)
  modifiers : modifiersOf flat = modifiersOf ts

theorem keeps_refl (ts : List Term) : Keeps s replies domain ts ts := ⟨covers_refl _, rfl⟩

theorem Keeps.append {flat flat' : List Term} (h : Keeps s replies domain flat ts)
    (h' : Keeps s replies domain flat' us) : Keeps s replies domain (flat ++ flat') (ts ++ us) := by
  constructor
  · simpa only [mechanismsOf_append] using h.covers.append h'.covers
  · simp only [modifiersOf_append, h.modifiers, h'.modifiers]

/-- From any targets the flattening only goes on to more, and it keeps the terms if these are all. -/
def FlattensWell (s : Setting) (replies : Query → Reply) (home : Text) (targets : List Text) (domain : Text)
    (x : Flattening (List Term)) (ts : List Term) : Prop :=
  ∀ met, home ∈ met → let reached := (x.run met).value replies
    (∀ g ∈ met, g ∈ reached.2) ∧ ((∀ g ∈ reached.2, g ∈ targets) → Keeps s replies domain reached.1 ts)

theorem flattenTerm_well {fl : Flatten} (hall : AllStandIn s replies home targets)
    (h : ∀ ts, FlattensWell s replies home targets domain (fl ts) ts) (t : Term) :
    FlattensWell s replies home targets domain (flattenTerm (some fl) t) [t] := by
  intro met hhome
  rcases flattenTerm_cases replies fl t met with ⟨hsame, hgrows⟩ |
    ⟨publication, r, terms, hopen, hfresh, hp, hparse, hterms, hreached⟩
  · refine ⟨hgrows, fun _ => ?_⟩
    rw [hsame]
    exact keeps_refl [t]
  · obtain ⟨hgrows, hflat⟩ := h terms (Domain.normalized (t.value.getD []) :: met)
      (List.mem_cons_of_mem _ hhome)
    rw [← hreached] at hgrows hflat
    refine ⟨fun g hg => hgrows g (List.mem_cons_of_mem _ hg), fun htargets => ?_⟩
    have hne : Domain.normalized (t.value.getD []) ≠ home := fun heq => hfresh (heq ▸ hhome)
    have htarget := htargets _ (hgrows _ List.mem_cons_self)
    have hstands := hall _ htarget hne publication r terms hp hparse hterms
    have hkeeps := hflat htargets
    obtain ⟨hr, -, rfl⟩ := replacement?_eq_some hterms
    obtain ⟨hmech, hmod⟩ := anchored_passing (Domain.normalized (t.value.getD [])) r
    have hcovers := hkeeps.covers
    rw [hmech] at hcovers
    obtain ⟨hk, hq, htarget⟩ := target_of_isReplaceable (s := s) hopen
    have ht : t.isModifier = false := by simp [Term.isModifier, Kind.isModifier, hk]
    constructor
    · rw [show mechanismsOf [t] = [t] by simp [mechanismsOf, ht]]
      refine hcovers.trans ((covers_iff_spared hk hq (htarget domain)
        ⟨publication, hp, hparse, hstands.valid⟩ hr hterms fun u hu hne => ?_).mpr hstands.spared)
      exact hstands.pinned u hu hne domain
    · rw [hkeeps.modifiers, hmod]
      simp [modifiersOf, ht]

theorem flattenWith_run (flatten? : Option Flatten) (t : Term) (rest : List Term) (met : List Text) :
    (flattenWith flatten? (t :: rest)).run met = (flattenTerm flatten? t).run met >>= fun x =>
      (flattenWith flatten? rest).run x.2 >>= fun y => pure (x.1 ++ y.1, y.2) := rfl

theorem flattenWith_well {flatten? : Option Flatten}
    (h : ∀ t, FlattensWell s replies home targets domain (flattenTerm flatten? t) [t]) (ts : List Term) :
    FlattensWell s replies home targets domain (flattenWith flatten? ts) ts := by
  induction ts with
  | nil => exact fun met _ => ⟨fun g hg => hg, fun _ => keeps_refl []⟩
  | cons t rest ih =>
    intro met hhome
    obtain ⟨hgrows, hfront⟩ := h t met hhome
    obtain ⟨hgrows', hrest⟩ := ih _ (hgrows home hhome)
    rw [flattenWith_run, Plan.value_bind, Plan.value_bind]
    refine ⟨fun g hg => hgrows' g (hgrows g hg), fun htargets => ?_⟩
    exact (hfront fun g hg => htargets g (hgrows' g hg)).append (hrest htargets)

theorem flattenTerms_well (hall : AllStandIn s replies home targets) (left : Nat) (ts : List Term) :
    FlattensWell s replies home targets domain (flattenTerms left ts) ts := by
  induction left generalizing ts with
  | zero =>
    refine flattenWith_well (fun t met hhome => ?_) ts
    exact ⟨fun g hg => hg, fun _ => keeps_refl [t]⟩
  | succ left ih => exact flattenWith_well (flattenTerm_well hall ih) ts

/-! Records, flattened -/

theorem find_redirect_eq (ts : List Term) :
    ts.find? (fun t => t.kind == .redirect) = (modifiersOf ts).find? (fun t => t.kind == .redirect) := by
  rw [modifiersOf, List.find?_filter]
  congr 1
  funext t
  cases hk : t.kind <;> simp [Term.isModifier, Kind.isModifier, hk]

theorem redirect_withTerms {flat : List Term} (h : modifiersOf flat = modifiersOf r.terms) :
    (r.withTerms flat).redirect = r.redirect := by
  simp only [Record.redirect, Record.valueOf, Record.withTerms]
  rw [find_redirect_eq, h, ← find_redirect_eq]

/-- Where the flattened record lets a message pass, the record does. -/
theorem Keeps.recordVerdict_pass {flat : List Term} (h : Keeps s replies domain flat r.terms) {n : Nat}
    (hv : recordVerdict s replies (judge s replies n) (r.withTerms flat) domain = some .pass) :
    ∃ m, recordVerdict s replies (judge s replies m) r domain = some .pass := by
  obtain ⟨found, hfound, hrest⟩ := Option.bind_eq_some_iff.mp hv
  have hdecides := decides_of_decisive hfound
  cases found with
  | some x =>
    obtain ⟨t, o⟩ := x
    have hpass : decidedVerdict t o = .pass := Option.some.inj hrest
    obtain ⟨rfl, hq⟩ := matched_of_decidedVerdict hdecides hpass
    refine exists_recordVerdict_of_passes ?_
    rcases h.covers _ hdecides (fun u o ho => by cases ho; rfl) with hd | hp
    · exact ⟨t, hq, hd⟩
    · exact hp
  | none =>
    rcases h.covers none hdecides (fun u o ho => nomatch ho) with hd | hp
    · obtain ⟨m, hm⟩ := exists_decisive hd
      have hending : endingVerdict s (judge s replies n) r domain = some .pass := by
        have hsame := redirect_withTerms (r := r) h.modifiers
        unfold endingVerdict at hrest ⊢
        rwa [hsame] at hrest
      refine ⟨max m n, ?_⟩
      rw [recordVerdict, decisive_mono (fun t o => termOutcome_mono (judge_mono (Nat.le_max_left m n))) hm]
      exact endingVerdict_mono (judge_mono (Nat.le_max_right m n)) hending
    · exact exists_recordVerdict_of_passes hp

end SenderPolicy.Reference
