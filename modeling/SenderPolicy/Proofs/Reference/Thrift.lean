import SenderPolicy.Proofs.Audit.Counting
import SenderPolicy.Proofs.Audit.Numerals
import SenderPolicy.Proofs.Record.RoundTrip
import SenderPolicy.Proofs.Reference.Republished
import SenderPolicy.Proofs.Term.Recognition

/-!
Flattening costs no lookups. What replaces an include counts no more than the included record does, and an include that
stays is walked behind a shorter path; composed and read again, the terms count the same. So where an audit of a text
finds no excess and no loop, an audit of the flattened text finds neither and counts no more lookups.
-/
namespace SenderPolicy.Reference
open Dns Evaluation Text
open Audit (Counts Leads Offers walkedTerms)
open Term (Recognized Rereads rereads_parse rereads_valued)
variable {replies : Query → Reply} {domain target : Text} {t u : Term} {ts us flat flat' : List Term} {r : Record}
  {path : List Text} {n : Nat}

/-! Terms composed and read again -/

/-- The term as it is read again from its composed text. -/
def reread (t : Term) : Term := Term.parse t.compose

theorem countsLookup_of_recognized (h : Recognized t u) : u.countsLookup = t.countsLookup := by
  cases h with
  | same => rfl
  | address _ hkind => rw [Term.countsLookup, hkind, Term.countsLookup]
  | marked ht hu => rw [Term.countsLookup, hu, Term.countsLookup, ht]; rfl

theorem leads_of_recognized (h : Recognized t u) (target : Text) : Leads u target ↔ Leads t target := by
  cases h with
  | same => exact Iff.rfl
  | address hmem hkind =>
    have hall : [Kind.a, .mx, .ptr].all (fun k => k != .inclusion && k != .redirect) = true := by decide
    have hrow := List.all_eq_true.mp hall t.kind hmem
    simp only [Bool.and_eq_true, bne_iff_ne] at hrow
    refine iff_of_false (fun hl => ?_) fun hl => hl.kind.elim hrow.1 hrow.2
    exact (hkind ▸ hl.kind).elim hrow.1 hrow.2
  | marked ht hu =>
    refine iff_of_false (fun hl => ?_) fun hl => ?_
    · rcases hl.kind with hk | hk <;> cases hu.symm.trans hk
    · rcases hl.kind with hk | hk <;> cases ht.symm.trans hk

theorem counts_of_recognized (h : Recognized t u) (hcounts : Counts replies path [t] n) :
    Counts replies path [u] n :=
  hcounts.replace (countsLookup_of_recognized h) (leads_of_recognized h)

/-- A modifier stays one, unless it becomes a mechanism that is not understood. -/
theorem isModifier_of_recognized (h : Recognized t u) :
    u.isModifier = t.isModifier ∨ t.isModifier = true ∧ u.isModifier = false ∧ u.countsLookup = false := by
  cases h with
  | same => exact .inl rfl
  | address _ hkind => exact .inl (by rw [Term.isModifier, hkind, Term.isModifier])
  | marked ht hu => exact .inr ⟨by rw [Term.isModifier, ht]; rfl, by rw [Term.isModifier, hu]; rfl,
      by rw [Term.countsLookup, hu]; rfl⟩

theorem counts_reread (h : ∀ t ∈ ts, Rereads t) (hcounts : Counts replies path (mechanismsOf ts) n) :
    Counts replies path (mechanismsOf (ts.map reread)) n := by
  induction ts generalizing n with
  | nil => exact hcounts
  | cons t rest ih =>
    obtain ⟨ht, hrest⟩ := List.forall_mem_cons.mp h
    have hrecognized : Recognized t (reread t) := ht.recognized
    rw [List.map_cons]
    rcases isModifier_of_recognized hrecognized with hsame | ⟨hm, hmechanism, hfree⟩
    · cases hm : t.isModifier with
      | true =>
        simp only [mechanismsOf, List.filter_cons, hm, hsame] at hcounts ⊢
        exact ih hrest hcounts
      | false =>
        simp only [mechanismsOf, List.filter_cons, hm, hsame] at hcounts ⊢
        obtain ⟨m, k, hfirst, hothers, rfl⟩ := hcounts.uncons
        exact (counts_of_recognized hrecognized hfirst).cons (ih hrest hothers)
    · simp only [mechanismsOf, List.filter_cons, hm, hmechanism] at hcounts ⊢
      exact .free hfree (ih hrest hcounts)

theorem counts_map {f : Term → Term} (h : ∀ t ∈ ts, Recognized t (f t)) (hcounts : Counts replies path ts n) :
    Counts replies path (ts.map f) n := by
  induction ts generalizing n with
  | nil => exact hcounts
  | cons t rest ih =>
    obtain ⟨ht, hrest⟩ := List.forall_mem_cons.mp h
    obtain ⟨m, k, hfirst, hothers, rfl⟩ := hcounts.uncons
    exact (counts_of_recognized ht hfirst).cons (ih hrest hothers)

def endingOf (ts : List Term) : List Term :=
  if ts.any (fun t => t.kind == .all) then [] else (ts.find? fun t => t.kind == .redirect).toList

theorem walkedTerms_eq (r : Record) : walkedTerms r = mechanismsOf r.terms ++ endingOf r.terms := rfl

theorem kind_of_recognized {kind : Kind} (h : Recognized t u) (hkind : kind = .all ∨ kind = .redirect) :
    (u.kind == kind) = (t.kind == kind) ∧ (t.kind = kind → u = t) := by
  cases h with
  | same => exact ⟨rfl, fun _ => rfl⟩
  | address hmem hsame =>
    refine ⟨by rw [hsame], fun ht => ?_⟩
    rw [ht] at hmem
    rcases hkind with rfl | rfl <;> exact absurd hmem (by decide)
  | marked ht hu =>
    rw [ht, hu]
    rcases hkind with rfl | rfl <;> exact ⟨rfl, nofun⟩

theorem any_all_reread (h : ∀ t ∈ ts, Rereads t) :
    (ts.map reread).any (fun t => t.kind == .all) = ts.any (fun t => t.kind == .all) := by
  induction ts with
  | nil => rfl
  | cons t rest ih =>
    obtain ⟨ht, hrest⟩ := List.forall_mem_cons.mp h
    have hkind := (kind_of_recognized (u := reread t) ht.recognized (.inl rfl)).1
    rw [List.map_cons, List.any_cons, List.any_cons, hkind, ih hrest]

theorem find_redirect_reread (h : ∀ t ∈ ts, Rereads t) :
    (ts.map reread).find? (fun t => t.kind == .redirect) = ts.find? fun t => t.kind == .redirect := by
  induction ts with
  | nil => rfl
  | cons t rest ih =>
    obtain ⟨ht, hrest⟩ := List.forall_mem_cons.mp h
    obtain ⟨hkind, hsame⟩ := kind_of_recognized (u := reread t) ht.recognized (.inr rfl)
    rw [List.map_cons, List.find?_cons, List.find?_cons, hkind]
    split
    · rename_i hk
      rw [hsame (beq_iff_eq.mp hk)]
    · exact ih hrest

theorem endingOf_reread (h : ∀ t ∈ ts, Rereads t) : endingOf (ts.map reread) = endingOf ts := by
  rw [endingOf, any_all_reread h, find_redirect_reread h, endingOf]

theorem counts_walkedTerms_reread (h : ∀ t ∈ r.terms, Rereads t) (hcounts : Counts replies path (walkedTerms r) n) :
    Counts replies path (walkedTerms (r.withTerms (r.terms.map reread))) n := by
  rw [walkedTerms_eq] at hcounts ⊢
  obtain ⟨m, k, hmechanisms, hending, rfl⟩ := hcounts.cut
  refine (counts_reread h hmechanisms).append ?_
  rwa [show (r.withTerms (r.terms.map reread)).terms = r.terms.map reread from rfl, endingOf_reread h]

/-! What replaces an include -/

/-- What flattening comes to costs no more than the terms: it is read again if they are, has their modifiers and what
matches everything, and its mechanisms count no more lookups. -/
structure Spares (replies : Query → Reply) (path : List Text) (flat ts : List Term) : Prop where
  rereads : (∀ t ∈ ts, Rereads t) → ∀ t ∈ flat, Rereads t
  modifiers : modifiersOf flat = modifiersOf ts
  all : ∀ t ∈ ts, t.kind = .all → t ∈ flat
  counts : ∀ n, Counts replies path (mechanismsOf ts) n → ∃ m, m ≤ n ∧ Counts replies path (mechanismsOf flat) m

theorem spares_refl (ts : List Term) : Spares replies path ts ts :=
  ⟨id, rfl, fun _ ht _ => ht, fun n h => ⟨n, Nat.le_refl n, h⟩⟩

theorem Spares.trans (h : Spares replies path flat ts) (h' : Spares replies path ts us) :
    Spares replies path flat us := by
  refine ⟨fun hus => h.rereads (h'.rereads hus), h.modifiers.trans h'.modifiers,
    fun t ht hk => h.all t (h'.all t ht hk) hk, fun n hn => ?_⟩
  obtain ⟨m, hm, hts⟩ := h'.counts n hn
  obtain ⟨k, hk, hflat⟩ := h.counts m hts
  exact ⟨k, Nat.le_trans hk hm, hflat⟩

theorem Spares.append (h : Spares replies path flat ts) (h' : Spares replies path flat' us) :
    Spares replies path (flat ++ flat') (ts ++ us) := by
  constructor
  · intro hall
    obtain ⟨hts, hus⟩ := List.forall_mem_append.mp hall
    exact List.forall_mem_append.mpr ⟨h.rereads hts, h'.rereads hus⟩
  · rw [modifiersOf_append, modifiersOf_append, h.modifiers, h'.modifiers]
  · intro t ht hk
    exact (List.mem_append.mp ht).elim (fun ht => List.mem_append_left _ (h.all t ht hk))
      fun ht => List.mem_append_right _ (h'.all t ht hk)
  · intro n hn
    rw [mechanismsOf_append] at hn ⊢
    obtain ⟨a, b, ha, hb, rfl⟩ := hn.cut
    obtain ⟨m, hm, hflat⟩ := h.counts a ha
    obtain ⟨k, hk, hflat'⟩ := h'.counts b hb
    exact ⟨m + k, Nat.add_le_add hm hk, hflat.append hflat'⟩

theorem recognized_anchored (domain : Text) (t : Term) : Recognized t (anchored domain t) := by
  rcases anchored_cases domain t with hsame | ⟨hk, hvalued⟩
  · rw [hsame]
    exact .same t
  · rw [hvalued]
    exact .address hk rfl

theorem rereads_anchored (hr : ∃ w, IsSolid w ∧ t = Term.parse w) (hdomain : Unbroken domain) :
    Rereads (anchored domain t) := by
  obtain ⟨w, hw, rfl⟩ := hr
  rcases anchored_cases domain (Term.parse w) with hsame | ⟨hk, hvalued⟩
  · rw [hsame]
    exact rereads_parse hw
  · rw [hvalued]
    exact rereads_valued (rereads_parse hw).solid hk hdomain

theorem exists_word_of_mem {text : Text} (h : Record.parse? text = some r) (ht : t ∈ r.terms) :
    ∃ w, IsSolid w ∧ t = Term.parse w := by
  obtain ⟨tokens, hwords, rfl⟩ := Record.words_of_parse? h
  obtain ⟨w, hw, rfl⟩ := List.mem_map.mp ht
  exact ⟨w, (of_mem_words (hwords ▸ List.mem_cons_of_mem _ hw)).1, rfl⟩

theorem leads_of_isReplaceable (h : isReplaceable t = true) :
    t.kind = .inclusion ∧ Leads t (Domain.normalized (t.value.getD [])) := by
  simp only [isReplaceable, Bool.and_eq_true, beq_iff_eq] at h
  obtain ⟨⟨hk, -⟩, hvalue⟩ := h
  refine ⟨hk, .inl hk, ?_⟩
  split at hvalue
  · cases hvalue
  · cases hvalue
  · rename_i value hne hv
    exact ⟨value, hv, hne, by simpa using hvalue, by rw [hv]; rfl⟩

theorem passing_sublist (r : Record) : (passing r).Sublist (walkedTerms r) := by
  have hfilter : passing r = (mechanismsOf r.terms).filter (fun t => t.qualifier == .pass && t.kind != .all) := by
    rw [passing, mechanismsOf, List.filter_filter]
    congr 1
    funext t
    cases t.isModifier <;> simp
  rw [hfilter, walkedTerms_eq]
  exact List.filter_sublist.trans (List.sublist_append_left _ _)

/-- An include is worth what replaces it, and one lookup more: what is kept of the included record is walked behind the
path that the include stands on. -/
theorem spares_replacement {publication : Publication} {terms : List Term} (hopen : isReplaceable t = true)
    (hp : (published (Domain.normalized (t.value.getD []))).value replies = .ok publication)
    (hparse : Record.parse? publication.record = some r)
    (hterms : replacement? (Domain.normalized (t.value.getD [])) (some r) = some terms) :
    Spares replies path terms [t] := by
  obtain ⟨hk, hleads⟩ := leads_of_isReplaceable hopen
  obtain ⟨-, -, rfl⟩ := replacement?_eq_some hterms
  obtain ⟨hmechanisms, hmodifiers⟩ := anchored_passing (Domain.normalized (t.value.getD [])) r
  have hm : t.isModifier = false := by rw [Term.isModifier, hk]; rfl
  constructor
  · intro hall u hu
    obtain ⟨kept, hkept, rfl⟩ := List.mem_map.mp hu
    have ht : Rereads t := hall t List.mem_cons_self
    refine rereads_anchored (exists_word_of_mem hparse (kept_of_mem_passing hkept).1) (unbroken_normalized ?_)
    cases hv : t.value with
    | none =>
      intro c hc
      cases hc
    | some value => exact Term.unbroken_value ht.solid.2 hv
  · rw [hmodifiers]
    simp [modifiersOf, hm]
  · intro u hu hall
    rw [List.mem_singleton.mp hu, hk] at hall
    cases hall
  · -- the include counts itself and all of its record, of which only a part replaces it
    intro n hn
    rw [hmechanisms]
    rw [show mechanismsOf [t] = [t] by simp [mechanismsOf, hm]] at hn
    cases hn with
    | free hfree => exact (hleads.not_free hfree).elim
    | plain _ hnone => exact absurd hleads (hnone _)
    | missing hl _ hu =>
      rw [hl.unique hleads, hp] at hu
      cases hu
    | @followed _ _ target record _ m k hl _ hoffers hrecord hrest =>
      obtain rfl := hl.unique hleads
      obtain ⟨publication', hp', hparse', -⟩ := hoffers
      obtain rfl : publication = publication' := Except.ok.inj (hp.symm.trans hp')
      obtain rfl : r = record := Option.some.inj (hparse.symm.trans hparse')
      obtain ⟨a, ha, hkept⟩ := (hrecord.weaken (List.subset_append_left path _)).sublist (passing_sublist r)
      exact ⟨a, by omega, counts_map (fun u _ => recognized_anchored _ u) hkept⟩

/-! Flattening, by induction on its depth -/

theorem flattenTerm_spares {fl : Flatten}
    (h : ∀ ts met, Spares replies path (((fl ts).run met).value replies).1 ts) (t : Term) (met : List Text) :
    Spares replies path (((flattenTerm (some fl) t).run met).value replies).1 [t] := by
  rcases flattenTerm_cases replies fl t met with ⟨hsame, -⟩ |
    ⟨publication, r, terms, hopen, -, hp, hparse, hterms, hreached⟩
  · rw [hsame]
    exact spares_refl [t]
  · rw [hreached]
    exact (h terms _).trans (spares_replacement hopen hp hparse hterms)

theorem flattenWith_spares {flatten? : Option Flatten}
    (h : ∀ t met, Spares replies path (((flattenTerm flatten? t).run met).value replies).1 [t]) (ts : List Term)
    (met : List Text) : Spares replies path (((flattenWith flatten? ts).run met).value replies).1 ts := by
  induction ts generalizing met with
  | nil => exact spares_refl []
  | cons t rest ih =>
    rw [flattenWith_run, Plan.value_bind, Plan.value_bind]
    exact (h t met).append (ih _)

theorem flattenTerms_spares (left : Nat) (ts : List Term) (met : List Text) :
    Spares replies path (((flattenTerms left ts).run met).value replies).1 ts := by
  induction left generalizing ts met with
  | zero => exact flattenWith_spares (fun t met => spares_refl [t]) ts met
  | succ left ih => exact flattenWith_spares (flattenTerm_spares ih) ts met

/-! Records, flattened -/

theorem Spares.ending (h : Spares replies path flat ts) : endingOf flat = endingOf ts ∨ endingOf flat = [] := by
  by_cases hflat : flat.any (fun t => t.kind == .all) = true
  · exact .inr (if_pos hflat)
  · have hts : ¬ ts.any (fun t => t.kind == .all) = true := fun hany => by
      obtain ⟨t, ht, hk⟩ := List.any_eq_true.mp hany
      exact hflat (List.any_eq_true.mpr ⟨t, h.all t ht (beq_iff_eq.mp hk), hk⟩)
    refine .inl ?_
    rw [endingOf, endingOf, if_neg hflat, if_neg hts, find_redirect_eq, h.modifiers, ← find_redirect_eq]

theorem Spares.walkedTerms (h : Spares replies path flat r.terms) (hn : Counts replies path (walkedTerms r) n) :
    ∃ m, m ≤ n ∧ Counts replies path (walkedTerms (r.withTerms flat)) m := by
  rw [walkedTerms_eq] at hn
  obtain ⟨a, b, ha, hb, rfl⟩ := hn.cut
  obtain ⟨m, hm, hflat⟩ := h.counts a ha
  rw [walkedTerms_eq, show (r.withTerms flat).terms = flat from rfl]
  rcases h.ending with hsame | hnone
  · rw [hsame]
    exact ⟨m + b, by omega, hflat.append hb⟩
  · rw [hnone, List.append_nil]
    exact ⟨m, by omega, hflat⟩

/-- Where an audit of a text finds neither an excess nor a loop, an audit of its flattened record finds neither, and
counts no more lookups, unless it ends with a fault. This it does exactly where an audit of the composed text by itself
does, without any lookup. -/
theorem auditContent_of_flattened (replies : Query → Reply) (limits : Limits) (depth : Int) (text domain : Text)
    (a : Audit.Assessment) (flat : Record) (haudit : (Audit.auditContent limits text domain).value replies = .ok a)
    (hnone : ∀ f ∈ a.findings, ¬ f.IsExcess ∧ ¬ f.IsLoop)
    (hflat : (flatten depth domain (some text)).value replies = some flat) :
    ((∃ b, (Audit.auditContent limits flat.compose domain).value replies = .ok b) ↔
      ∃ b, Audit.auditText flat.compose = .ok b) ∧
    ∀ b, (Audit.auditContent limits flat.compose domain).value replies = .ok b →
      (∀ f ∈ b.findings, ¬ f.IsExcess ∧ ¬ f.IsLoop) ∧
      ∃ m n, b.lookups = some m ∧ a.lookups = some n ∧ m ≤ n := by
  obtain ⟨r, hparse⟩ : ∃ r, Record.parse? text = some r := by
    cases hparse : Record.parse? text with
    | some r => exact ⟨r, rfl⟩
    | none =>
      rw [flatten, Option.bind_some, hparse] at hflat
      cases hflat
  obtain ⟨n, hn, hlookups, hwithin⟩ := Audit.auditContent_counts hparse haudit hnone
  obtain rfl := flatten_eq_some hparse hflat
  have hspares : Spares replies [Domain.normalized domain] (flattening replies depth domain r).1 r.terms :=
    flattenTerms_spares depth.toNat r.terms _
  generalize (flattening replies depth domain r).1 = terms at hspares
  obtain ⟨m, hm, hcounts⟩ := hspares.walkedTerms hn
  -- The composed text may be read as other terms, but they count and lead as these do.
  have hrereads : ∀ t ∈ terms, Rereads t := hspares.rereads fun t ht => by
    obtain ⟨w, hw, rfl⟩ := exists_word_of_mem hparse ht
    exact rereads_parse hw
  have hcounts := counts_walkedTerms_reread (r := r.withTerms terms) hrereads hcounts
  have hback : Record.parse? (r.withTerms terms).compose = some (r.withTerms (terms.map reread)) := by
    obtain ⟨tokens, -, rfl⟩ := Record.words_of_parse? hparse
    exact Record.parse?_compose_of_solid fun t ht => (hrereads t ht).solid
  cases hfindings : Audit.recordFindings (r.withTerms (terms.map reread)) with
  | error f =>
    have hcontent : (Audit.auditContent limits (r.withTerms terms).compose domain).value replies = .error f := by
      simp only [Audit.auditContent, hback, hfindings]
      rfl
    have htext : Audit.auditText (r.withTerms terms).compose = .error f := by
      simp only [Audit.auditText, hback, hfindings]
      rfl
    rw [hcontent, htext]
    refine ⟨iff_of_false (fun h => ?_) (fun h => ?_), fun b hb => ?_⟩
    · obtain ⟨b, hb⟩ := h
      cases hb
    · obtain ⟨b, hb⟩ := h
      cases hb
    · cases hb
  | ok findings =>
    obtain ⟨b, hb, hblookups, hbnone⟩ := Audit.auditContent_of_counts hback hfindings hcounts (Nat.le_trans hm hwithin)
    have htext : Audit.auditText (r.withTerms terms).compose = .ok { findings } := by
      simp only [Audit.auditText, hback, hfindings]
      rfl
    rw [hb, htext]
    refine ⟨iff_of_true ⟨b, rfl⟩ ⟨_, rfl⟩, fun c hc => ?_⟩
    cases hc
    exact ⟨hbnone, m, n, hblookups, hlookups, hm⟩

/-- The policy that includes a denial counts two lookups, and flattened no more. -/
theorem denyingPolicy_flattened_counts_no_more :
    let audit (text : Text) := (Audit.auditContent {} text "d.example").value denyingZone.reply
    (∃ a, audit "v=spf1 include:b.example -all" = .ok a ∧ a.lookups = some 2) ∧
    ∃ b m, audit flattenedText = .ok b ∧ (∀ f ∈ b.findings, ¬ f.IsExcess ∧ ¬ f.IsLoop) ∧ b.lookups = some m ∧
      m ≤ 2 := by
  intro audit
  have haudit : (audit "v=spf1 include:b.example -all").toOption = some { findings := [], lookups := some 2 } := by
    decide +kernel
  have htext : (Audit.auditText flattenedText).toOption = some { findings := [] } := by decide +kernel
  have hbefore := eq_ok_of_toOption haudit
  obtain ⟨hends, hthrifty⟩ := auditContent_of_flattened denyingZone.reply {} 5 "v=spf1 include:b.example -all"
    "d.example" _ flattenedRecord hbefore (fun f hf => nomatch hf) denyingZone_flattens.flattened
  rw [flattenedRecord_compose] at hends hthrifty
  obtain ⟨b, hb⟩ := hends.mpr ⟨_, eq_ok_of_toOption htext⟩
  obtain ⟨hnone, m, n, hm, hn, hle⟩ := hthrifty b hb
  cases hn
  exact ⟨⟨_, hbefore, rfl⟩, b, m, hb, hnone, hm, hle⟩

/-! A prefix length behind an empty value -/

def ones (n : Nat) : Text := List.replicate n '1'

def lengthTerm (value : Text) (n : Nat) : Term := { kind := .a, value := some value, cidr := some (ones n) }

def lengthRecord (value : Text) (n : Nat) : Record :=
  ⟨some Record.versionTag, [lengthTerm value n, { kind := .all, qualifier := .fail }]⟩

/-- A domain that other policies include. Its mechanism has no host, which is all that an audit says of it. -/
def hostlessZone (n : Nat) : Zone := [(⟨.texts, "b.example"⟩, .records [.text (lengthRecord [] n).compose])]

theorem ones_unbroken (n : Nat) : Unbroken (ones n) := by
  intro c hc
  rw [List.eq_of_mem_replicate hc]
  decide

theorem lengthRecord_solid {value : Text} (hvalue : Unbroken value) (n : Nat) :
    ∀ t ∈ (lengthRecord value n).terms, IsSolid t.compose := by
  have hall : Unbroken (Term.compose { kind := .all, qualifier := .fail }) := by decide
  refine List.forall_mem_cons.mpr ⟨?_, List.forall_mem_singleton.mpr ⟨by decide, hall⟩⟩
  have hwritten : Unbroken ('a' :: ':' :: (value ++ '/' :: ones n)) :=
    unbroken_cons.mpr ⟨by decide, unbroken_cons.mpr ⟨by decide, unbroken_append.mpr
      ⟨hvalue, unbroken_cons.mpr ⟨by decide, ones_unbroken n⟩⟩⟩⟩
  exact ⟨List.cons_ne_nil _ _, hwritten⟩

theorem parse?_hostless (n : Nat) :
    Record.parse? (lengthRecord [] n).compose = some (lengthRecord [] n) :=
  Record.parse?_compose_of_solid (lengthRecord_solid (by decide) n)

theorem parse?_hosted (n : Nat) :
    Record.parse? (lengthRecord "b.example" n).compose = some (lengthRecord "b.example" n) :=
  Record.parse?_compose_of_solid (lengthRecord_solid (by decide) n)

theorem published_hostless (n : Nat) : (published "b.example").value (hostlessZone n).reply =
    .ok ⟨(lengthRecord [] n).compose, Publication.sizeWarnings "b.example" [(lengthRecord [] n).compose]⟩ := by
  have hname : Domain.normalized "b.example" = "b.example" := by decide +kernel
  have hrecord : Publication.isRecord (lengthRecord [] n).compose = true := rfl
  rw [← Publication.ofAnswer_single hrecord, published, hname]
  rfl

theorem flatten_hostless (n : Nat) :
    (flatten 5 "d.example" (some "v=spf1 include:b.example -all")).value (hostlessZone n).reply =
      some (lengthRecord "b.example" n) := by
  have hparse : Record.parse? "v=spf1 include:b.example -all" = some includingRecord := by decide +kernel
  have hhome : Domain.normalized "d.example" = "d.example" := by decide +kernel
  have htarget : Domain.normalized (includingTerm.value.getD []) = "b.example" := by decide +kernel
  have hterms : replacement? "b.example" (some (lengthRecord [] n)) = some [lengthTerm "b.example" n] := rfl
  have hfirst : ((flattenTerm (some (flattenTerms 4)) includingTerm).run ["d.example"]).value (hostlessZone n).reply =
      ([lengthTerm "b.example" n], (["b.example", "d.example"] : List Text)) := by
    rw [flattenTerm_run]
    simp only [htarget]
    rw [if_neg (by decide), Plan.value_bind, published_hostless]
    simp only [Except.toOption, Option.bind_some, parse?_hostless, hterms]
    rfl
  rw [flatten, Option.bind_some, hparse]
  simp only [Plan.value_bind, hhome]
  change some (includingRecord.withTerms (((flattenWith (some (flattenTerms 4)) includingRecord.terms).run
    ["d.example"]).value (hostlessZone n).reply).1) = _
  rw [includingRecord, flattenWith_run, Plan.value_bind, hfirst]
  rfl

theorem stumbles_lengthTerm {n : Nat} (hn : maxDigits < n) : Audit.Stumbles (lengthTerm "b.example" n) := by
  have hdigits : ∀ c ∈ ones n, isDecimal c = true ∧ Audit.isValueCharacter c = true := fun c hc => by
    rw [List.eq_of_mem_replicate hc]
    decide
  have hwritten : (lengthTerm "b.example" n).compose = 'a' :: ':' :: ("b.example" ++ '/' :: ones n) := rfl
  refine ⟨?_, rfl, .inl ⟨rfl, ones n, some (ones n), none, rfl, ?_, .inl ⟨ones n, rfl, by simpa [ones] using hn⟩⟩⟩
  · have hbehind : Audit.behindFirst? (Qualifier.take (lengthTerm "b.example" n).compose).2 =
        some ("b.example" ++ '/' :: ones n) := rfl
    have hend : ("b.example" ++ '/' :: ones n).dropWhile Audit.isValueCharacter = [] := by
      refine List.dropWhile_eq_nil_iff.mpr fun c hc => ?_
      rcases List.mem_append.mp hc with hc | hc
      · have hhost : ("b.example" : Text).all Audit.isValueCharacter = true := by decide
        exact List.all_eq_true.mp hhost c hc
      · rcases List.mem_cons.mp hc with rfl | hc
        · decide
        · exact (hdigits c hc).2
    have hnone : Audit.departure? (lengthTerm "b.example" n).compose = none := by
      simp only [Audit.departure?, hbehind, hend]
    simp only [Audit.checkGrammar, hnone]
    rfl
  · have htake : (ones n).takeWhile isDecimal = ones n :=
      List.takeWhile_eq_self_iff.mpr fun c hc => (hdigits c hc).1
    have hdrop : (ones n).dropWhile isDecimal = [] := List.dropWhile_eq_nil_iff.mpr fun c hc => (hdigits c hc).1
    have hne : (ones n).isEmpty = false := by
      cases n with
      | zero => cases hn
      | succ n => rfl
    simp only [Audit.splitLengths?, htake, hdrop, hne]
    rfl

theorem auditContent_including (n : Nat) :
    ∃ a, (Audit.auditContent {} "v=spf1 include:b.example -all" "d.example").value (hostlessZone n).reply = .ok a ∧
      a.lookups = some 2 ∧ ∀ f ∈ a.findings, ¬ f.IsExcess ∧ ¬ f.IsLoop := by
  have hparse : Record.parse? "v=spf1 include:b.example -all" = some includingRecord := by decide +kernel
  have hhome : Domain.normalized "d.example" = "d.example" := by decide +kernel
  have hfindings : (Audit.recordFindings includingRecord).toOption = some [] := by decide +kernel
  have hends : ∃ findings, Audit.recordFindings (lengthRecord [] n) = .ok findings := by
    refine Audit.recordFindings_returns_iff.mpr fun t ht hstumbles => ?_
    cases ht with
    | head => exact nomatch hstumbles.value
    | tail _ ht =>
      rw [List.mem_singleton.mp ht] at hstumbles
      rcases hstumbles.numeral with hlong | ⟨-, hname, -⟩
      · exact nomatch hlong.1
      · exact nomatch hname
  have hleads : Leads includingTerm "b.example" :=
    ⟨.inl rfl, "b.example", rfl, by decide, by decide, by decide +kernel⟩
  have hoffers : Offers (hostlessZone n).reply "b.example" (lengthRecord [] n) :=
    ⟨_, published_hostless n, parse?_hostless n, hends⟩
  have hincluded : Counts (hostlessZone n).reply ["d.example", "b.example"] (walkedTerms (lengthRecord [] n)) 1 := by
    refine .plain rfl (fun target hl => ?_) (.free rfl .nil)
    rcases hl.kind with hk | hk <;> cases hk
  have hfresh : ("b.example" : Text) ∉ (["d.example"] : List Text) := by decide
  have hwalked : walkedTerms includingRecord = [includingTerm, { kind := .all, qualifier := .fail }] := rfl
  have hcounts : Counts (hostlessZone n).reply [Domain.normalized "d.example"] (walkedTerms includingRecord) 2 := by
    rw [hhome, hwalked]
    exact .followed hleads hfresh hoffers hincluded (.free rfl .nil)
  exact Audit.auditContent_of_counts hparse (eq_ok_of_toOption hfindings) hcounts (by decide)

theorem auditContent_hosted (replies : Query → Reply) {n : Nat} (hn : maxDigits < n) :
    ¬ ∃ b, (Audit.auditContent {} (lengthRecord "b.example" n).compose "d.example").value replies = .ok b := by
  rintro ⟨b, hb⟩
  cases hfindings : Audit.recordFindings (lengthRecord "b.example" n) with
  | ok findings =>
    exact Audit.recordFindings_returns_iff.mp ⟨findings, hfindings⟩ _ List.mem_cons_self (stumbles_lengthTerm hn)
  | error f =>
    simp only [Audit.auditContent, parse?_hosted, hfindings] at hb
    cases hb

/-- The audit of the policy ends, for nobody reads the prefix length; that of the flattened policy does not. -/
theorem hosted_length_has_no_assessment :
    let text : Text := "v=spf1 include:b.example -all"
    let replies := (hostlessZone 4301).reply
    (∃ a, (Audit.auditContent {} text "d.example").value replies = .ok a ∧
      ∀ f ∈ a.findings, ¬ f.IsExcess ∧ ¬ f.IsLoop) ∧
    ∃ flat, (flatten 5 "d.example" (some text)).value replies = some flat ∧
      ¬ ∃ b, (Audit.auditContent {} flat.compose "d.example").value replies = .ok b := by
  intro text replies
  obtain ⟨a, ha, -, hnone⟩ := auditContent_including 4301
  exact ⟨⟨a, ha, hnone⟩, lengthRecord "b.example" 4301, flatten_hostless 4301, auditContent_hosted replies (by decide)⟩

end SenderPolicy.Reference
