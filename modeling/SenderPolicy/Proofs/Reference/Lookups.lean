import SenderPolicy.Proofs.Audit.Redirects
import SenderPolicy.Proofs.Reference.Search
import SenderPolicy.Report

/-!
Two counts of lookups in one report. The audit counts the terms that it walks, and the graph all terms of the records
that it shows. Where the records spread out from the domain, none of them met twice, both come to the same exactly if
no redirect is ignored.
-/
namespace SenderPolicy.Reference
open Dns
open Audit (Counts IgnoresRedirect Leads Offers walkedTerms)
variable {replies : Query → Reply} {depth : Nat} {ts : List Term} {t : Term} {r : Record} {target domain : Text}
  {found below rest : List (Text × Record)} {known known' path : List Text} {g : Graph}

/-! Records that spread out -/

/-- The records behind the terms, in the order in which they are met, where each reference has a value without macros
and its target publishes a record, and no more references follow one another than the depth. -/
inductive Spread (replies : Query → Reply) : Nat → List Term → List (Text × Record) → Prop
  | nil {depth : Nat} : Spread replies depth [] []
  | other {depth : Nat} {t : Term} {ts : List Term} {found : List (Text × Record)} : isReference t = false →
      Spread replies depth ts found → Spread replies depth (t :: ts) found
  | along {depth : Nat} {t : Term} {ts : List Term} {target : Text} {r : Record} {below rest : List (Text × Record)} :
      Leads t target → Offers replies target r → Spread replies depth r.terms below →
      Spread replies (depth + 1) ts rest → Spread replies (depth + 1) (t :: ts) ((target, r) :: (below ++ rest))

/-- What the terms of all records count. -/
def countedIn : List (Text × Record) → Nat
  | [] => 0
  | (_, r) :: rest => r.terms.countP (·.countsLookup) + countedIn rest

structure IsNew (known : List Text) (found : List (Text × Record)) : Prop where
  once : (found.map Prod.fst).Nodup
  fresh : ∀ x ∈ found.map Prod.fst, x ∉ known

theorem countedIn_append (found found' : List (Text × Record)) :
    countedIn (found ++ found') = countedIn found + countedIn found' := by
  induction found with
  | nil => exact (Nat.zero_add _).symm
  | cons x rest ih =>
    rw [List.cons_append, countedIn, countedIn, ih]
    exact (Nat.add_assoc _ _ _).symm

theorem IsNew.weaken (h : IsNew known found) (hsub : ∀ x ∈ known', x ∈ known) : IsNew known' found :=
  ⟨h.once, fun x hx hmem => h.fresh x hx (hsub x hmem)⟩

theorem IsNew.cut (h : IsNew known ((target, r) :: (below ++ rest))) :
    target ∉ known ∧ IsNew (known ++ [target]) below ∧ IsNew (known ++ target :: below.map Prod.fst) rest := by
  obtain ⟨honce, hfresh⟩ := h
  simp only [List.map_cons, List.map_append, List.nodup_cons, List.nodup_append, List.mem_append] at honce
  simp only [List.map_cons, List.map_append, List.forall_mem_cons, List.forall_mem_append] at hfresh
  obtain ⟨htarget, hbelow, hrest, hapart⟩ := honce
  refine ⟨hfresh.1, ⟨hbelow, fun x hx hmem => ?_⟩, ⟨hrest, fun x hx hmem => ?_⟩⟩
  · rcases List.mem_append.mp hmem with hmem | hmem
    · exact hfresh.2.1 x hx hmem
    · exact htarget (.inl (List.mem_singleton.mp hmem ▸ hx))
  · rcases List.mem_append.mp hmem with hmem | hmem
    · exact hfresh.2.2 x hx hmem
    · rcases List.mem_cons.mp hmem with rfl | hmem
      · exact htarget (.inr hx)
      · exact hapart x hmem x hx rfl

theorem isReference_of_leads (h : Leads t target) : isReference t = true := by
  obtain ⟨value, hv, hne, -, -⟩ := h.value
  rcases h.kind with hk | hk <;> simp [isReference, hk, hv, hne]

theorem not_leads (h : isReference t = false) (target : Text) : ¬ Leads t target := fun hl => by
  rw [isReference_of_leads hl] at h
  cases h

theorem offers_of_publishes (h : Audit.Publishes replies target r) : Offers replies target r := by
  obtain ⟨publication, hp, hparse, findings, hfindings, -⟩ := h
  exact ⟨publication, hp, hparse, findings, hfindings⟩

/-! The audit -/

/-- The audit counts no more than all terms do, and as much exactly if no redirect of a record that is found is
ignored. -/
theorem Spread.counts (h : Spread replies depth ts found) (hnew : IsNew path found) :
    ∃ n, Counts replies path ts n ∧ n ≤ ts.countP (·.countsLookup) + countedIn found ∧
      (n = ts.countP (·.countsLookup) + countedIn found ↔ ∀ x ∈ found, ¬ IgnoresRedirect x.2) := by
  induction h generalizing path with
  | nil => exact ⟨0, .nil, Nat.zero_le _, by simp [countedIn]⟩
  | @other depth t ts found hother _ ih =>
    obtain ⟨n, hn, hle, hsame⟩ := ih hnew
    rw [List.countP_cons]
    cases hcounts : t.countsLookup with
    | true =>
      refine ⟨1 + n, .plain hcounts (not_leads hother) hn, by simp; omega, ?_⟩
      rw [← hsame]
      simp
      omega
    | false => exact ⟨n, .free hcounts hn, by simpa using hle, by simpa using hsame⟩
  | @along depth t ts target r below rest hl hoffers _ _ ihbelow ihrest =>
    obtain ⟨htarget, hbelow, hrest⟩ := hnew.cut
    obtain ⟨n, hn, hle, hsame⟩ := ihbelow hbelow
    obtain ⟨m, hm, hmle, hmsame⟩ := hn.walkedTerms
    obtain ⟨k, hk, hkle, hksame⟩ := ihrest (hrest.weaken fun x hx => List.mem_append_left _ hx)
    rw [List.countP_cons, if_pos hl.countsLookup, countedIn, countedIn_append, List.forall_mem_cons,
      List.forall_mem_append, ← hmsame, ← hsame, ← hksame]
    exact ⟨1 + m + k, .followed hl htarget hoffers hm hk, by omega, by omega⟩

theorem exists_assessment {text : Text} {findings : List Audit.Finding} {n : Nat}
    (hparse : Record.parse? text = some r) (hfindings : Audit.recordFindings r = .ok findings)
    (hcounts : Counts replies [Domain.normalized domain] (walkedTerms r) n) (limits : Limits) :
    ∃ a, (Audit.auditContent limits text domain).value replies = .ok a ∧
      ((∀ f ∈ a.findings, ¬ f.IsExcess) → a.lookups = some n) := by
  let enough : Limits := { limits with lookups := max limits.lookups n }
  have hle : limits.lookups ≤ enough.lookups := Int.le_max_left _ _
  have hn : n ≤ enough.lookups.toNat := by
    have hmax : (n : Int) ≤ enough.lookups := Int.le_max_right _ _
    omega
  obtain ⟨a, ha, hlookups, -⟩ := Audit.auditContent_of_counts hparse hfindings hcounts hn
  rcases Audit.auditContent_cut replies hle text domain with ⟨hsame, -⟩ | ⟨before, term, hover, -⟩
  · exact ⟨a, hsame.symm.trans ha, fun _ => hlookups⟩
  · refine ⟨_, hover, fun hnone => absurd ?_ (hnone _ (List.mem_append_right _ List.mem_cons_self))⟩
    exact ⟨_, rfl⟩

/-! The graph -/

def following : Nat → Option Follow
  | 0 => none
  | left + 1 => some (grow left)

theorem grow_eq (left : Nat) : grow left = growAt (following left) := by
  cases left <;> rfl

theorem growReference_value {follow : Follow} {value : Text} {kind : Kind} {publication : Publication}
    (hnew : Domain.normalized value ∉ g.domains) (hpercent : '%' ∉ value)
    (hp : (published (Domain.normalized value)).value replies = .ok publication) :
    ((growReference (some follow) domain path kind value).run g).value replies =
      ((follow (Domain.normalized value) (some publication.record) (path ++ [Domain.normalized value])).run
        (g.withEdge path ⟨domain, Domain.normalized value, kind⟩)).value replies := by
  have hplain : ¬ (Domain.normalized value).contains '%' = true := by
    simpa using Text.percent_notin_normalized hpercent
  rw [growReference_run]
  dsimp only
  rw [if_neg (mt Graph.hasNode_iff.mp hnew), if_neg hplain, Plan.value_bind, hp]
  rfl

theorem terms_of_parse? {text : Text} (h : Record.parse? text = some r) (domain : Text) :
    (Node.mk domain (some text)).terms = r.terms := by
  simp [Node.terms, h]

theorem Spread.grows (h : Spread replies depth ts found) (hnew : IsNew g.domains found) (domain : Text)
    (path : List Text) :
    ∃ g', ((growTerms (following depth) domain path ts).run g).value replies = ((), g') ∧
      g'.domains = g.domains ++ found.map Prod.fst ∧ g'.lookups = g.lookups + countedIn found := by
  induction h generalizing domain path g with
  | nil => exact ⟨g, rfl, by simp, rfl⟩
  | other hother _ ih =>
    rw [growTerms, reference?_eq, hother]
    exact ih hnew domain path
  | @along depth t ts target r below rest hl hoffers _ _ ihbelow ihrest =>
    -- The graph grows below the target first, and then along the other terms from what it has become.
    obtain ⟨htarget, hbelow, hrest⟩ := hnew.cut
    obtain ⟨value, hv, hne, hpercent, rfl⟩ := hl.value
    obtain ⟨publication, hp, hparse, -⟩ := hoffers
    have hreference : reference? t = some value := by
      rw [reference?_eq, if_pos (isReference_of_leads hl), hv, Option.getD_some]
    have hterms := terms_of_parse? hparse (Domain.normalized value)
    let opened := (g.withEdge path ⟨domain, Domain.normalized value, t.kind⟩).withNode
      ⟨Domain.normalized value, some publication.record⟩
    obtain ⟨g₁, hrun₁, hdomains₁, hlookups₁⟩ := ihbelow (g := opened) (by simpa [opened] using hbelow)
      (Domain.normalized value) (path ++ [Domain.normalized value])
    have hdomains : g₁.domains = g.domains ++ Domain.normalized value :: below.map Prod.fst := by
      simp [hdomains₁, opened]
    obtain ⟨g₂, hrun₂, hdomains₂, hlookups₂⟩ := ihrest (g := g₁) (by rwa [hdomains]) domain path
    refine ⟨g₂, ?_, by simp [hdomains₂, hdomains], ?_⟩
    · have hlevel : following (depth + 1) = some (growAt (following depth)) := congrArg some (grow_eq depth)
      rw [hlevel] at hrun₂ ⊢
      rw [growTerms, hreference]
      dsimp only
      rw [StateT.run_bind, Plan.value_bind, growReference_value htarget (by simpa using hpercent) hp, growAt_run,
        hterms, hrun₁]
      exact hrun₂
    · rw [hlookups₂, hlookups₁, countedIn, countedIn_append]
      simp only [opened, Graph.lookups_withNode, Graph.lookups_withEdge, Node.lookups, hterms]
      omega

/-- The graph of a record shows the domains that are found, and counts what all terms count. -/
theorem Spread.graph {text : Text} {limit : Int} (h : Spread replies limit.toNat r.terms found)
    (hparse : Record.parse? text = some r) (hnew : IsNew [Domain.normalized domain] found) :
    ((graphOf limit domain (some text)).value replies).lookups =
      r.terms.countP (·.countsLookup) + countedIn found := by
  have hterms := terms_of_parse? hparse (Domain.normalized domain)
  obtain ⟨g, hrun, -, hlookups⟩ := h.grows (g := Graph.withNode ⟨Domain.normalized domain, some text⟩ {})
    hnew (Domain.normalized domain) [Domain.normalized domain]
  rw [graphOf, Plan.value_bind, grow_eq, growAt_run, hterms, hrun]
  change g.lookups = _
  rw [hlookups, Graph.lookups_withNode, Node.lookups, hterms]
  exact congrArg (· + countedIn found) (Nat.zero_add _)

/-! The report -/

/-- The audit counts as much as the graph exactly if no redirect is ignored, and never more, where it goes over no
limit. -/
theorem lookups_of_report (rules : List Domain.SuffixRule) (replies : Query → Reply) (limits : Limits) (domain : Text)
    (r : Record) (found : List (Text × Record)) (hroot : Offers replies (Domain.normalized domain) r)
    (hspread : Spread replies defaultDepth.toNat r.terms found)
    (honce : (Domain.normalized (Domain.normalized domain) :: found.map Prod.fst).Nodup) :
    ∃ text a warnings g, (Report.ofDomain rules limits domain).value replies =
        .ok ⟨Domain.normalized domain, Domain.base rules (Domain.normalized domain), .audited text a warnings g⟩ ∧
      ((∀ f ∈ a.findings, ¬ f.IsExcess) → ∃ n, a.lookups = some n ∧ n ≤ g.lookups ∧
        (n = g.lookups ↔ ¬ IgnoresRedirect r ∧ ∀ x ∈ found, ¬ IgnoresRedirect x.2)) := by
  obtain ⟨publication, hp, hparse, findings, hfindings⟩ := hroot
  have hnew : IsNew [Domain.normalized (Domain.normalized domain)] found := by
    obtain ⟨hfresh, honce⟩ := List.nodup_cons.mp honce
    exact ⟨honce, fun x hx hmem => hfresh (List.mem_singleton.mp hmem ▸ hx)⟩
  obtain ⟨n, hn, hle, hsame⟩ := hspread.counts hnew
  obtain ⟨m, hm, hmle, hmsame⟩ := hn.walkedTerms
  obtain ⟨a, ha, hlookups⟩ := exists_assessment hparse hfindings hm limits
  let g := (graphOf defaultDepth (Domain.normalized domain) (some publication.record)).value replies
  have hg : g.lookups = r.terms.countP (·.countsLookup) + countedIn found := hspread.graph hparse hnew
  refine ⟨publication.record, a, publication.warnings, g, ?_, fun hnone => ⟨m, hlookups hnone, by omega, ?_⟩⟩
  · simp only [Report.ofDomain, Plan.value_bind, hp, ha]
    rfl
  · rw [hg, ← hmsame, ← hsame]
    omega

/-! Redirects that are followed, and one that is ignored -/

def redirectingZone : Zone := [
  (⟨.texts, "d.example"⟩, .records [.text "v=spf1 include:b.example redirect=c.example"]),
  (⟨.texts, "b.example"⟩, .records [.text "v=spf1 a -all"]),
  (⟨.texts, "c.example"⟩, .records [.text "v=spf1 mx -all"]),
  (⟨.texts, "e.example"⟩, .records [.text "v=spf1 redirect=f.example -all"]),
  (⟨.texts, "f.example"⟩, .records [.text "v=spf1 -all"])]

def hostRecord (kind : Kind) : Record := ⟨some Record.versionTag, [{ kind }, { kind := .all, qualifier := .fail }]⟩

def closedRecord : Record := ⟨some Record.versionTag, [{ kind := .all, qualifier := .fail }]⟩

theorem spread_hostRecord (depth : Nat) {kind : Kind} (h : isReference { kind } = false) :
    Spread replies depth (hostRecord kind).terms [] :=
  .other h (.other rfl .nil)

theorem followed_redirect_counts_alike :
    ∃ text a warnings g, (Report.ofDomain [] {} "d.example").value redirectingZone.reply =
        .ok ⟨Domain.normalized "d.example", Domain.base [] (Domain.normalized "d.example"),
          .audited text a warnings g⟩ ∧
      a.lookups = some g.lookups := by
  let r : Record := ⟨some Record.versionTag,
    [{ kind := .inclusion, value := some "b.example" }, { kind := .redirect, value := some "c.example" }]⟩
  let found : List (Text × Record) := [("b.example", hostRecord .a), ("c.example", hostRecord .mx)]
  have hroot : Audit.Publishes redirectingZone.reply (Domain.normalized "d.example") r :=
    Audit.publishes_of_checks (by decide +kernel) (by decide +kernel)
  have hb : Audit.Publishes redirectingZone.reply "b.example" (hostRecord .a) :=
    Audit.publishes_of_checks (by decide +kernel) (by decide +kernel)
  have hc : Audit.Publishes redirectingZone.reply "c.example" (hostRecord .mx) :=
    Audit.publishes_of_checks (by decide +kernel) (by decide +kernel)
  have hinclude : Leads { kind := .inclusion, value := some "b.example" } "b.example" :=
    ⟨.inl rfl, _, rfl, by decide, by decide, by decide +kernel⟩
  have hredirect : Leads { kind := .redirect, value := some "c.example" } "c.example" :=
    ⟨.inr rfl, _, rfl, by decide, by decide, by decide +kernel⟩
  have hlast : Spread redirectingZone.reply defaultDepth.toNat [{ kind := .redirect, value := some "c.example" }]
      [("c.example", hostRecord .mx)] :=
    .along hredirect (offers_of_publishes hc) (spread_hostRecord _ rfl) .nil
  have hspread : Spread redirectingZone.reply defaultDepth.toNat r.terms found :=
    .along hinclude (offers_of_publishes hb) (spread_hostRecord _ rfl) hlast
  obtain ⟨text, a, warnings, g, hreport, hcounts⟩ :=
    lookups_of_report [] redirectingZone.reply {} "d.example" r found (offers_of_publishes hroot) hspread
      (by decide +kernel)
  have hfindings : ((Report.ofDomain [] {} "d.example").value redirectingZone.reply).toOption.map (fun report =>
      match report.details with
      | .audited _ a _ _ => a.findings
      | .failed _ => []) = some [] := by decide +kernel
  rw [hreport] at hfindings
  obtain ⟨n, hn, -, hsame⟩ := hcounts fun f hf => by
    rw [show a.findings = [] from Option.some.inj hfindings] at hf
    cases hf
  exact ⟨text, a, warnings, g, hreport, by rw [hn, hsame.mpr (by decide)]⟩

/-- The audit says that the redirect is ignored and counts nothing, and the graph counts it. -/
theorem ignored_redirect_is_counted :
    let r : Record := ⟨some Record.versionTag,
      [{ kind := .redirect, value := some "f.example" }, { kind := .all, qualifier := .fail }]⟩
    let found : List (Text × Record) := [("f.example", closedRecord)]
    Audit.Publishes redirectingZone.reply (Domain.normalized "e.example") r ∧
      (∀ x ∈ found, Audit.Publishes redirectingZone.reply x.1 x.2) ∧
      Spread redirectingZone.reply defaultDepth.toNat r.terms found ∧
      (Domain.normalized (Domain.normalized "e.example") :: found.map Prod.fst).Nodup ∧
      ((Report.ofDomain [] {} "e.example").value redirectingZone.reply).toOption.map (fun report =>
        match report.details with
        | .audited _ a _ g => (a.findings, a.lookups, g.lookups)
        | .failed _ => ([], none, 0)) = some ([.remark .idleRedirect], some 0, 1) := by
  intro r found
  have hf : Audit.Publishes redirectingZone.reply "f.example" closedRecord :=
    Audit.publishes_of_checks (by decide +kernel) (by decide +kernel)
  have hredirect : Leads { kind := .redirect, value := some "f.example" } "f.example" :=
    ⟨.inr rfl, _, rfl, by decide, by decide, by decide +kernel⟩
  refine ⟨Audit.publishes_of_checks (by decide +kernel) (by decide +kernel), by simpa [found] using hf, ?_,
    by decide +kernel, by decide +kernel⟩
  exact .along hredirect (offers_of_publishes hf) (.other rfl .nil) (.other rfl .nil)

end SenderPolicy.Reference
