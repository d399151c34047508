import SenderPolicy.Dns.Zone
import SenderPolicy.Proofs.Audit.Walk
import SenderPolicy.Proofs.Evaluation.Spending

/-!
Evaluating what an audit has found valid. The lookups that the audit counted are enough, wherever the
message comes from; and a permanent error has one of the few causes that an audit does not look at.
-/
namespace SenderPolicy.Evaluation
open Dns Dns.Work Audit
variable {limits : Limits} {replies : Query → Reply} {s : Setting} {follow : Follow} {p : Progress}
  {domain target label : Text} {path : List Text} {t : Term} {m n : Nat}

/-- The line of the trail that tells what a permanent error comes from: more exchanges than are looked at,
or a redirect to a domain without a record. -/
inductive Cause (replies : Query → Reply) : Text → Prop
  | exchanges (label target : Text) (all : List Datum) :
      replies ⟨.exchanges, target⟩ = .records all → maxExchanges < all.length →
      Cause replies (Text.phrase [label, ": ", target, " has more than ", Text.decimal maxExchanges,
        " MX records - (RFC 7208 § 4.6.4) (permerror)"])
  | redirect (domain value : Text) (u : Unpublished) :
      (published (Domain.normalized value)).value replies = .error u → u.verdict = .none →
      Cause replies (Text.phrase [Text.phrase [domain, ": redirect=", value],
        ": the redirect target has no SPF record (permerror)"])

/-- A trail that ends with a cause, and with the includes that handed the permanent error on. -/
inductive Explained (replies : Query → Reply) : List Text → Prop
  | cause {trail : List Text} {line : Text} : Cause replies line → Explained replies (trail ++ [line])
  | handed {trail : List Text} (label : Text) : Explained replies trail →
      Explained replies (trail ++ [Text.phrase [label, " -> ", Verdict.permerror.name]])

def Accounted (replies : Query → Reply) (o : Outcome) (p : Progress) : Prop :=
  o = .permerror → Explained replies p.trail

theorem accounted_of_ne {o : Outcome} (h : o ≠ .permerror) : Accounted replies o p :=
  fun ho => absurd ho h

structure Settled (replies : Query → Reply) (target : Text) (verdict : Verdict) (p : Progress) : Prop where
  lacking : verdict = .none → ∃ u, (published target).value replies = .error u ∧ u.verdict = .none
  explained : verdict = .permerror → Explained replies p.trail

/-! Mechanisms that follow no record -/

theorem withRecords_spends (answer : Answer) {onRecords : List Datum → Step Outcome}
    (h : answer.error = none →
      Spends s.limits replies 0 (onRecords answer.records) p (Accounted replies)) :
    Spends s.limits replies 0 (withRecords s label answer onRecords) p (Accounted replies) := by
  unfold withRecords
  split
  · exact .note_bind (.pure (accounted_of_ne (by decide)))
  · rename_i hnone
    split
    · exact .note_bind (.countVoid_bind (.pure (accounted_of_ne (by decide))))
    · exact h hnone

theorem ofBool_ne (b : Bool) : Outcome.ofBool b ≠ .permerror := by cases b <;> decide

theorem matchAddresses_spends :
    Spends s.limits replies 0 (matchAddresses s label target t) p (Accounted replies) :=
  .query_bind (withRecords_spends _ fun _ => .pure (accounted_of_ne (ofBool_ne _)))

theorem matchHosts_spends (failed : Bool) (answers : List (Text × Answer)) :
    Spends s.limits replies 0 (matchHosts s label t failed answers) p (Accounted replies) := by
  induction answers generalizing failed p with
  | nil => exact .pure (accounted_of_ne (by cases failed <;> decide))
  | cons a rest ih =>
    obtain ⟨host, answer⟩ := a
    unfold matchHosts
    split
    · exact .note_bind (ih true)
    · split
      · exact .pure (accounted_of_ne (by decide))
      · exact ih failed

theorem reply_of_records {r : Reply} (h : (Answer.ofReply r).records ≠ []) :
    r = .records (Answer.ofReply r).records := by
  cases r with
  | records all => rfl
  | _ => exact absurd rfl h

theorem matchExchanges_spends :
    Spends s.limits replies 0 (matchExchanges s label target t) p (Accounted replies) := by
  refine .query_bind (withRecords_spends _ fun _ => ?_)
  split
  · rename_i hmany
    refine .note_bind (.pure fun _ => .cause (.exchanges label target _ (reply_of_records ?_) hmany))
    intro hnil
    rw [hnil] at hmany
    cases hmany
  · exact .queryAll_bind fun _ => matchHosts_spends false _

theorem confirmNames_spends (answers : List (Text × Answer)) :
    Spends s.limits replies 0 (confirmNames s label answers) p (Accounted replies) := by
  induction answers generalizing p with
  | nil => exact .pure (accounted_of_ne (by decide))
  | cons a rest ih =>
    obtain ⟨name, answer⟩ := a
    unfold confirmNames
    split
    · exact .note_bind (.pure (accounted_of_ne (by decide)))
    · exact .note_bind ih

theorem matchNames_spends :
    Spends s.limits replies 0 (matchNames s label target) p (Accounted replies) := by
  refine .query_bind ?_
  split
  · exact .note_bind (.pure (accounted_of_ne (by decide)))
  · exact withRecords_spends _ fun _ => .queryAll_bind fun _ => confirmNames_spends _

theorem matchExistence_spends :
    Spends s.limits replies 0 (matchExistence s label target) p (Accounted replies) :=
  .query_bind (withRecords_spends _ fun _ => .pure (accounted_of_ne (by decide)))

/-! Following records. A path leads down: what each of its domains costs is at least so much. -/

/-- Each domain on the path publishes a valid record, which costs so much at least. -/
def Descends (replies : Query → Reply) (path : List Text) (n : Nat) : Prop :=
  ∀ domain ∈ path, ∃ record m, Publishes replies domain record ∧
    Costs replies (walkedTerms record) m ∧ n ≤ m

theorem Descends.mono (h : Descends replies path n) (hle : m ≤ n) : Descends replies path m :=
  fun domain hd => by
    obtain ⟨record, k, hp, hk, hnk⟩ := h domain hd
    exact ⟨record, k, hp, hk, Nat.le_trans hle hnk⟩

/-- A target that costs less than the record that leads to it closes no loop. -/
theorem Descends.not_mem (h : Descends replies path n) (hr : Reached replies target m) (hlt : m < n) :
    target ∉ path := by
  intro hmem
  obtain ⟨record, k, hp, hk, hle⟩ := h target hmem
  cases hr with
  | lacking hlacks => exact hp.not_lacks hlacks
  | followed hp' hm =>
    cases hp.unique hp'
    have hkm : k = m := hk.unique hm
    omega

theorem guardLoop_bind {α : Type} {f : Unit → Step α} {post : α → Progress → Prop}
    {stop : List Text → Stop} (h : target ∉ path) (hf : Spends limits replies n (f ()) p post) :
    Spends limits replies n (guardLoop s stop path target >>= f) p post := by
  have hguard : guardLoop s stop path target = pure () := by
    unfold guardLoop
    exact if_neg fun hc => h (by simpa using hc.2)
  rw [hguard, pure_bind]
  exact hf

/-- Each target that costs less than so much is followed with as many lookups as it costs, wherever the path
leads down to it. -/
def Handles (s : Setting) (replies : Query → Reply) (n : Nat) (follow : Follow) : Prop :=
  ∀ target m path explains p, m < n → Reached replies target m → Descends replies path (m + 1) →
    Spends s.limits replies m (follow target (path ++ [target]) explains) p (Settled replies target)

theorem matchInclude_spends (hf : Handles s replies n follow) (hr : Reached replies target m)
    (hlt : m < n) (hpath : Descends replies path n) :
    Spends s.limits replies m (matchInclude s follow label target path) p (Accounted replies) := by
  refine guardLoop_bind (hpath.not_mem hr hlt) ?_
  have hdown := hpath.mono (Nat.succ_le_of_lt hlt)
  refine (hf target m path false p hlt hr hdown).before fun verdict p' hsettled => ?_
  refine .note_bind ?_
  cases verdict with
  | permerror => exact .pure fun _ => .handed label (hsettled.explained rfl)
  | none => exact .countVoid_bind (.pure (accounted_of_ne (by decide)))
  | _ => exact .pure (accounted_of_ne (by decide))

theorem expandName_of_leads (hl : Leads t target) {value : Text} (hv : t.value = some value) :
    s.expandName value domain = .ok target := by
  obtain ⟨value', hv', -, hpercent, rfl⟩ := hl.value
  cases Option.some.inj (hv.symm.trans hv')
  exact expandName_of_plain hpercent domain

theorem target_of_leads (hl : Leads t target) : s.target t domain = .ok target := by
  obtain ⟨value, hv, hne, hpercent, rfl⟩ := hl.value
  exact target_of_value hv hne hpercent domain

theorem countsLookup_of_mechanism (hm : t.isModifier = false) (hu : t.kind ≠ .unknown)
    (hall : t.kind ≠ .all) (h4 : t.kind ≠ .ip4) (h6 : t.kind ≠ .ip6) : t.countsLookup = true := by
  unfold Term.isModifier at hm
  unfold Term.countsLookup
  cases hk : t.kind with
  | all => exact absurd hk hall
  | ip4 => exact absurd hk h4
  | ip6 => exact absurd hk h6
  | unknown => exact absurd hk hu
  | redirect | exp | unknownModifier => rw [hk] at hm; cases hm
  | _ => rfl

theorem matchTerm_spends (hf : Handles s replies n follow) (hm : t.isModifier = false)
    (hu : t.kind ≠ .unknown) (ht : Costs replies [t] m) (hle : m ≤ n) (hpath : Descends replies path n) :
    Spends s.limits replies m (matchTerm s follow domain path t) p (Accounted replies) := by
  unfold matchTerm
  split
  · exact .pure (accounted_of_ne (by decide))
  · exact .pure (accounted_of_ne (ofBool_ne _))
  · exact .pure (accounted_of_ne (ofBool_ne _))
  · rename_i hall h4 h6
    have hone : 1 ≤ m := ht.one_le (countsLookup_of_mechanism hm hu hall h4 h6)
    obtain ⟨k, rfl⟩ : ∃ k, m = 1 + k := ⟨m - 1, by omega⟩
    refine .count_bind (.ofExcept_bind fun target htarget => ?_)
    split
    · exact matchAddresses_spends.weaken (Nat.zero_le k)
    · exact matchExchanges_spends.weaken (Nat.zero_le k)
    · exact matchNames_spends.weaken (Nat.zero_le k)
    · rename_i hk
      obtain ⟨target', k', hl, hr, hkk⟩ := ht.exists_reached (.inl hk)
      obtain rfl : k = k' := by omega
      rw [target_of_leads hl] at htarget
      cases htarget
      exact matchInclude_spends hf hr (by omega) hpath
    · exact matchExistence_spends.weaken (Nat.zero_le k)
    · exact .pure (accounted_of_ne (by decide))

/-! A record -/

theorem firstDecisive_spends (hf : Handles s replies n follow) {ts : List Term}
    (hm : ∀ t ∈ ts, t.isModifier = false ∧ t.kind ≠ .unknown) (hts : Costs replies ts m) (hle : m ≤ n)
    (hpath : Descends replies path n) :
    Spends s.limits replies m (firstDecisive (matchTerm s follow domain path) ts) p
      fun found p' => ∀ t o, found = some (t, o) → Accounted replies o p' := by
  induction ts generalizing m p with
  | nil => exact .pure fun t o h => nomatch h
  | cons t rest ih =>
    rw [← List.singleton_append] at hts
    obtain ⟨a, b, ha, hb, rfl⟩ := hts.cut
    obtain ⟨hmt, hut⟩ := hm t List.mem_cons_self
    refine (matchTerm_spends hf hmt hut ha (by omega) hpath).bind fun outcome p' haccounted => ?_
    split
    · exact ih (fun u hu => hm u (List.mem_cons_of_mem t hu)) hb (by omega)
    · refine .pure fun u o h => ?_
      cases h
      exact haccounted

theorem no_all_of_undecided {attempt : Term → Step Outcome} {ts : List Term} {p' : Progress}
    (hall : ∀ t ∈ ts, t.kind = .all → attempt t = pure .matched)
    (h : outcome replies (firstDecisive attempt ts) p = (.ok none, p')) : ∀ t ∈ ts, t.kind ≠ .all := by
  induction ts generalizing p with
  | nil => exact fun t ht => nomatch ht
  | cons t rest ih =>
    obtain ⟨o, p₁, ho, hrest⟩ := bind_eq_ok h
    split at hrest
    · rename_i hunmatched
      intro u hu
      cases hu with
      | head =>
        intro hk
        rw [hall t List.mem_cons_self hk] at ho
        cases ho
        cases hunmatched
      | tail _ hu => exact ih (fun v hv => hall v (List.mem_cons_of_mem t hv)) hrest u hu
    · cases hrest

theorem firstDecisive_decides (hf : Handles s replies n follow) {ts : List Term}
    (hm : ∀ t ∈ ts, t.isModifier = false ∧ t.kind ≠ .unknown) (hts : Costs replies ts m) (hle : m ≤ n)
    (hpath : Descends replies path n) :
    Spends s.limits replies m (firstDecisive (matchTerm s follow domain path) ts) p
      fun found p' => (∀ t o, found = some (t, o) → Accounted replies o p') ∧
        (found = none → ∀ t ∈ ts, t.kind ≠ .all) := by
  refine (firstDecisive_spends hf hm hts hle hpath).and_of_ok fun found p' h hnone => ?_
  subst hnone
  exact no_all_of_undecided (fun t _ hk => by simp only [matchTerm, hk]) h

theorem explain_spends (r : Record) :
    Spends s.limits replies 0 (explain s r domain) p fun _ _ => True := by
  unfold explain
  split
  · exact .pure trivial
  · exact .pure trivial
  · refine .ofExcept_bind fun target _ => .query_bind ?_
    split
    · refine .ofExcept_bind fun explanation _ _ o p' ho => ?_
      cases ho
      exact ⟨Nat.le_refl _, trivial⟩
    · exact fun _ o p' ho => by cases ho; exact ⟨Nat.le_refl _, trivial⟩

def Concluded (replies : Query → Reply) (verdict : Verdict) (p : Progress) : Prop :=
  verdict ≠ .none ∧ (verdict = .permerror → Explained replies p.trail)

theorem concluded_of_ne {verdict : Verdict} (hn : verdict ≠ .none) (hp : verdict ≠ .permerror) :
    Concluded replies verdict p :=
  ⟨hn, fun h => absurd h hp⟩

theorem redirect_spends (hf : Handles s replies n follow) (hk : t.kind = .redirect) {value : Text}
    (hv : t.value = some value) (ht : Costs replies [t] m) (hle : m ≤ n)
    (hpath : Descends replies path n) (explains : Bool) :
    Spends s.limits replies m (redirect s follow value domain path explains) p (Concluded replies) := by
  obtain ⟨target, k, hl, hr, rfl⟩ := ht.exists_reached (.inr hk)
  refine .count_bind (.ofExcept_bind fun target' htarget => ?_)
  rw [expandName_of_leads hl hv] at htarget
  cases htarget
  refine guardLoop_bind (hpath.not_mem hr (by omega)) (.note_bind ?_)
  have hdown := hpath.mono (show k + 1 ≤ n by omega)
  refine (hf target k path explains _ (by omega) hr hdown).before fun verdict p' hsettled => ?_
  split
  · rename_i hnone
    obtain ⟨u, hu, hun⟩ := hsettled.lacking hnone
    obtain ⟨value', hv', -, -, rfl⟩ := hl.value
    cases Option.some.inj (hv.symm.trans hv')
    exact .note_bind (.pure ⟨by decide, fun _ => .cause (.redirect domain value u hu hun)⟩)
  · rename_i hsome
    exact .pure ⟨hsome, hsettled.explained⟩

theorem qualifier_concludes (q : Qualifier) : Concluded replies q.verdict p := by
  cases q <;> exact concluded_of_ne (by decide) (by decide)

theorem evaluateRecord_spends {r : Record} (hf : Handles s replies n follow) (hvalid : IsValid r)
    (hr : Costs replies (walkedTerms r) n) (hpath : Descends replies path n) (explains : Bool) :
    Spends s.limits replies n (evaluateRecord s follow r domain path explains) p (Concluded replies) := by
  obtain ⟨a, b, ha, hb, rfl⟩ := hr.cut
  have hmech : ∀ t ∈ r.terms.filter (fun t => !t.isModifier), t.isModifier = false ∧ t.kind ≠ .unknown := by
    intro t ht
    obtain ⟨hmem, hm⟩ := List.mem_filter.mp ht
    exact ⟨by simpa using hm, kind_ne_unknown (hvalid.checkTerm t hmem)⟩
  refine (firstDecisive_decides hf hmech ha (by omega) hpath).bind fun found p' ⟨hfound, hnone⟩ => ?_
  split
  · exact .pure ⟨by decide, fun _ => hfound _ _ rfl rfl⟩
  · exact .pure (concluded_of_ne (by decide) (by decide))
  · refine .note_bind ?_
    split
    · exact ((explain_spends r).weaken (Nat.zero_le b)).before fun _ _ _ => .pure (qualifier_concludes _)
    · exact .pure (qualifier_concludes _)
  · have hall : hasAll r = false := by
      refine List.any_eq_false.mpr fun t ht hk => ?_
      have hkind : t.kind = .all := by simpa using hk
      exact hnone rfl t (List.mem_filter.mpr ⟨ht, by simp [Term.isModifier, hkind, Kind.isModifier]⟩) hkind
    simp only [hall] at hb
    unfold Record.redirect Record.valueOf
    cases hfind : r.terms.find? (fun t => t.kind == .redirect) with
    | none => exact .note_bind (.pure (concluded_of_ne (by decide) (by decide)))
    | some t =>
      have hk : t.kind = .redirect := by simpa using List.find?_some hfind
      obtain ⟨value, hv, -⟩ := exists_value (hvalid.checkTerm t (List.mem_of_find?_eq_some hfind)) (.inr hk)
      rw [hfind] at hb
      simp only [Option.bind_some, hv]
      exact redirect_spends hf hk hv hb (by omega) hpath explains

/-! A domain -/

theorem visit_handles (hf : Handles s replies n follow) : Handles s replies (n + 1) (visit s follow) := by
  intro target m path explains p hlt hr hpath
  cases hr with
  | lacking hlacks =>
    obtain ⟨u, hu, hperm⟩ := hlacks
    refine .ofPlan_bind ?_
    rw [hu]
    exact .note_bind (.pure ⟨fun hnone => ⟨u, hu, hnone⟩, fun h => absurd h hperm⟩)
  | followed hp hm =>
    obtain ⟨publication, hpub, hparse, hvalid⟩ := hp
    obtain ⟨a, ha, haval⟩ := hvalid.auditText hparse
    have hdown : Descends replies (path ++ [target]) m := by
      intro domain hd
      cases List.mem_append.mp hd with
      | inl hd => exact hpath.mono (Nat.le_succ m) domain hd
      | inr hd =>
        rw [List.mem_singleton.mp hd]
        exact ⟨_, m, ⟨publication, hpub, hparse, hvalid⟩, hm, Nat.le_refl m⟩
    have hf' : Handles s replies m follow :=
      fun target' k path' explains' p' hk => hf target' k path' explains' p' (by omega)
    refine .ofPlan_bind ?_
    rw [hpub]
    refine .note_bind ?_
    rw [ha]
    refine .ofExcept_bind fun assessment hassessment => ?_
    cases hassessment
    rw [hparse, haval]
    exact (evaluateRecord_spends hf' hvalid hm hdown explains).mono
      fun verdict p' hc => ⟨fun h => absurd h hc.1, hc.2⟩

/-- The levels of an evaluation are enough for a domain that costs no more lookups. -/
theorem checkHost_handles (depth : Nat) : Handles s replies (depth + 1) (checkHost s depth) := by
  induction depth with
  | zero => exact visit_handles fun _ _ _ _ _ h => nomatch h
  | succ depth ih => exact visit_handles ih

theorem evaluateDomain_of_cost {record : Record} {result : Result}
    (hp : Publishes replies domain record) (hcost : Costs replies (walkedTerms record) n)
    (hle : n ≤ s.limits.lookups.toNat) (h : (evaluateDomain s domain).value replies = .ok result) :
    result.tally.lookups ≤ n ∧
    (result.verdict = .permerror →
      (s.limits.voids < result.tally.voids ∧ ∃ trail term, result.trail = trail ++
        [Text.phrase [(Excess.voids result.tally.voids s.limits.voids term).message, " (permerror)"]]) ∨
      Explained replies result.trail) := by
  have hfollow : Spends s.limits replies n
      (checkHost s s.limits.lookups.toNat domain [domain] true) {} (Settled replies domain) :=
    checkHost_handles _ domain n [] true {} (Nat.lt_succ_of_le hle) (.followed hp hcost)
      fun _ hd => nomatch hd
  unfold evaluateDomain at h
  rw [Plan.value_bind] at h
  cases hrun : ((checkHost s s.limits.lookups.toNat domain [domain] true).run.run {}).value replies with
  | mk o p =>
    obtain ⟨hl, hend⟩ := hfollow (by simpa using hle) o p hrun
    have hlookups : p.tally.lookups ≤ n := by simpa using hl
    rw [hrun] at h
    cases o with
    | ok verdict =>
      cases h
      exact ⟨hlookups, fun hperm => .inr (hend.explained hperm)⟩
    | error stop =>
      cases hend with
      | fault f => cases h
      | voids term hover =>
        cases h
        exact ⟨hlookups, fun _ => .inl ⟨hover, p.trail, term, rfl⟩⟩

/-- An audit that finds a policy valid, with nothing left out for its macros, is right about every message:
no evaluation counts more lookups than the audit did, and a permanent error comes from a lookup in vain too
many, or from one of the causes that the end of the trail tells. -/
theorem evaluate_of_clean_audit (replies : Query → Reply) (limits : Limits) (domain : Text) (a : Assessment)
    (haudit : (auditDomain limits domain).value replies = .ok a) (hclean : a.Clean) :
    ∃ count, a.lookups = some count ∧
      ∀ (voids : Int) (now : Int) (request : Request) (address : Address) (result : Result),
        request.domain = domain → Address.parse? request.ip = some address →
        (evaluate { limits with voids } now request).value replies = .ok result →
        result.tally.lookups ≤ count ∧
        (result.verdict = .permerror →
          (voids < result.tally.voids ∧ ∃ trail term, result.trail = trail ++
            [Text.phrase [(Excess.voids result.tally.voids voids term).message, " (permerror)"]]) ∨
          Explained replies result.trail) := by
  obtain ⟨record, n, hp, hcost, hlookups, hle⟩ := auditDomain_costs haudit hclean
  refine ⟨n, hlookups, ?_⟩
  rintro voids now request address result rfl hip hresult
  unfold evaluate at hresult
  dsimp only at hresult
  split at hresult
  · cases hresult
    exact ⟨Nat.zero_le n, fun h => nomatch h⟩
  · rw [hip] at hresult
    exact evaluateDomain_of_cost hp hcost hle hresult

def danglingZone : Zone := [
  (⟨.texts, "a.example"⟩, .records [.text "v=spf1 include:b.example redirect=c.example"]),
  (⟨.texts, "b.example"⟩, .records [.text "v=spf1 ip4:192.0.2.0/24 -all"])]

theorem danglingZone_evaluates_as_audited :
    ∃ a, (auditDomain {} "a.example").value danglingZone.reply = .ok a ∧ a.Clean ∧ a.lookups = some 2 ∧
      Address.parse? "198.51.100.1" = some (.v4 0xC6336401#32) ∧
      ∃ result, (evaluate {} 0 { domain := "a.example", ip := "198.51.100.1" }).value danglingZone.reply =
          .ok result ∧ result.verdict = .permerror ∧ result.tally = ⟨2, 0⟩ ∧ result.tally.lookups ≤ 2 ∧
        Explained danglingZone.reply result.trail := by
  let a : Assessment := ⟨[.remark (.unpublished "c.example" .noDomain)], some 2⟩
  have haudit : (auditDomain {} "a.example").value danglingZone.reply = .ok a := by
    have hkept : ((auditDomain {} "a.example").value danglingZone.reply).toOption = some a := by
      decide +kernel
    exact eq_ok_of_toOption hkept
  have hclean : a.Clean := by
    refine ⟨by decide, fun f hf domain term h => ?_⟩
    rw [List.mem_singleton.mp hf] at h
    cases h
  have hip : Address.parse? "198.51.100.1" = some (.v4 0xC6336401#32) := by decide +kernel
  refine ⟨a, haudit, hclean, rfl, hip, ?_⟩
  obtain ⟨count, hcount, hevaluate⟩ := evaluate_of_clean_audit danglingZone.reply {} _ a haudit hclean
  cases hcount
  have hkept : ((evaluate {} 0 { domain := "a.example", ip := "198.51.100.1" }).value
      danglingZone.reply).toOption.map (fun result => (result.verdict, result.tally)) =
        some (.permerror, ⟨2, 0⟩) := by decide +kernel
  cases hresult : (evaluate {} 0 { domain := "a.example", ip := "198.51.100.1" }).value
      danglingZone.reply with
  | error f => rw [hresult] at hkept; cases hkept
  | ok result =>
    rw [hresult] at hkept
    obtain ⟨hverdict, htally⟩ := Prod.mk.inj (Option.some.inj hkept)
    obtain ⟨hle, hcause⟩ := hevaluate 2 0 _ _ result rfl hip hresult
    refine ⟨result, rfl, hverdict, htally, hle, ?_⟩
    cases hcause hverdict with
    | inl hvoids =>
      have hfew := hvoids.1
      rw [htally] at hfew
      cases hfew
    | inr hexplained => exact hexplained

end SenderPolicy.Evaluation
