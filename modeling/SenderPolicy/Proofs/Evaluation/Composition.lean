import SenderPolicy.Proofs.Evaluation.Absence
import SenderPolicy.Proofs.Evaluation.Loops

/-!
Policies made of other policies. A record that hands over to another domain, or that includes one and says what
holds otherwise, comes to what the other domain comes to by itself with one lookup less.
-/
namespace SenderPolicy.Evaluation
open Dns Dns.Work
variable {α β : Type} {s : Setting} {replies : Query → Reply} {follow : Follow} {r : Record}
  {domain base target label : Text} {path : List Text} {t u : Term} {explains : Bool} {p : Progress}

/-! How steps end -/

theorem ended_bind {x : Step α} {f : α → Step β} {g : α → β}
    (h : ∀ a p', outcome replies x p = (.ok a, p') → (outcome replies (f a) p').1 = .ok (g a)) :
    (outcome replies (x >>= f) p).1 = (outcome replies x p).1.map g := by
  cases hx : outcome replies x p with
  | mk o p' =>
    cases o with
    | ok a => rw [outcome_bind_of_ok hx]; exact h a p' hx
    | error stop => rw [outcome_bind_of_error hx]; rfl

theorem outcome_count_within {limits : Limits} {f : Unit → Step α} (term : Text)
    (h : (p.tally.lookups + 1 : Nat) ≤ limits.lookups) :
    outcome replies (Step.count limits term >>= f) p = outcome replies (f ()) p.counted := by
  refine outcome_bind_of_ok ?_
  rw [Step.outcome_count, if_neg (Int.not_lt.mpr h)]

theorem outcome_countVoid_within {limits : Limits} {f : Unit → Step α} (term : Text)
    (h : (p.tally.voids + 1 : Nat) ≤ limits.voids) :
    outcome replies (Step.countVoid limits term >>= f) p = outcome replies (f ()) p.voided := by
  refine outcome_bind_of_ok ?_
  rw [Step.outcome_countVoid, if_neg (Int.not_lt.mpr h)]

theorem Step.ofExcept_ok (a : α) : Step.ofExcept (.ok a) = pure a := rfl

theorem endVerdict_map {g : Verdict → Verdict} (hg : g .permerror = .permerror) (o : Except Stop Verdict) :
    endVerdict (o.map g) = (endVerdict o).map g := by
  cases o with
  | ok v => rfl
  | error stop =>
    cases stop with
    | fault f => rfl
    | _ => exact congrArg Except.ok hg.symm

/-! Constructs that no path stops -/

def handedVerdict (v : Verdict) : Verdict := if v = .none then .permerror else v

theorem redirect_ended {value : Text} (hopen : s.endsLoops = false)
    (ht : s.expandName value domain = .ok target) (h : (p.tally.lookups + 1 : Nat) ≤ s.limits.lookups)
    (replies : Query → Reply) (follow : Follow) (path : List Text) (explains : Bool) :
    ∃ line, (outcome replies (redirect s follow value domain path explains) p).1 =
      (outcome replies (follow target (path ++ [target]) explains) (p.counted.noted line)).1.map
        handedVerdict := by
  refine ⟨Text.phrase [Text.phrase [domain, ": redirect=", value], " -> ", target], ?_⟩
  unfold redirect
  dsimp only
  rw [outcome_count_within _ h, ht, Step.ofExcept_ok, pure_bind, guardLoop_eq_pure hopen, pure_bind,
    outcome_bind_of_ok (Step.outcome_note replies p.counted _)]
  refine ended_bind fun v p' hv => ?_
  unfold handedVerdict
  split
  · rfl
  · rfl

theorem matchInclude_ended (hopen : s.endsLoops = false)
    (h : ∀ p', outcome replies (follow target (path ++ [target]) false) p = (.ok .none, p') →
      (p'.tally.voids + 1 : Nat) ≤ s.limits.voids) :
    (outcome replies (matchInclude s follow label target path) p).1 =
      (outcome replies (follow target (path ++ [target]) false) p).1.map includeOutcome := by
  unfold matchInclude
  rw [guardLoop_eq_pure hopen, pure_bind]
  refine ended_bind fun v p' hv => ?_
  rw [outcome_bind_of_ok (Step.outcome_note replies p' _)]
  cases v with
  | none =>
    dsimp only
    rw [outcome_countVoid_within (p := p'.noted _) label (h p' hv)]
    rfl
  | _ => rfl

theorem matchTerm_ended (hk : t.kind = .inclusion) (hopen : s.endsLoops = false)
    (ht : s.target t domain = .ok target) (hl : (p.tally.lookups + 1 : Nat) ≤ s.limits.lookups)
    (h : ∀ p', outcome replies (follow target (path ++ [target]) false) p.counted = (.ok .none, p') →
      (p'.tally.voids + 1 : Nat) ≤ s.limits.voids) :
    (outcome replies (matchTerm s follow domain path t) p).1 =
      (outcome replies (follow target (path ++ [target]) false) p.counted).1.map includeOutcome := by
  simp only [matchTerm, hk]
  rw [outcome_count_within _ hl, ht, Step.ofExcept_ok, pure_bind]
  exact matchInclude_ended hopen h

def Setting.IsOutside (s : Setting) (t : Term) : Prop :=
  (t.kind = .ip4 ∨ t.kind = .ip6) ∧ Address.matchesNetwork s.address.text (t.value.getD []) = false

theorem firstDecisive_outside {ts : List Term} (h : ∀ t ∈ ts, s.IsOutside t) :
    Comparison.Steady replies (firstDecisive (matchTerm s follow domain path) ts) none := by
  induction ts with
  | nil => exact .pure none
  | cons t rest ih =>
    have hmatch : matchTerm s follow domain path t = pure .unmatched := by
      obtain ⟨hk | hk, hvalue⟩ := h t List.mem_cons_self
      · simp only [matchTerm, hk, hvalue]; rfl
      · simp only [matchTerm, hk, hvalue]; rfl
    rw [firstDecisive, hmatch, pure_bind, if_pos rfl]
    exact ih fun u hu => h u (List.mem_cons_of_mem t hu)

/-- What a term comes to, if a term for all others stands behind it. -/
def settledVerdict (t u : Term) : Outcome → Verdict
  | .unmatched => u.qualifier.verdict
  | o => decidedVerdict t o

/-- What an include makes of the verdict on its target, if a term for all others stands behind it. -/
def includedVerdict (t u : Term) (v : Verdict) : Verdict := settledVerdict t u (includeOutcome v)

theorem matched_ended (hexp : r.exp = none) (t : Term) :
    (outcome replies (do
      Step.note [domain, ": ", t.compose, " matched (", t.qualifier.verdict.name, ")"]
      if t.qualifier.verdict = .fail ∧ explains then explain s r domain
      return t.qualifier.verdict) p).1 = .ok t.qualifier.verdict := by
  have hexplain : explain s r domain = pure () := by simp only [explain, hexp]
  rw [outcome_bind_of_ok (Step.outcome_note replies p _), hexplain]
  split
  · rfl
  · rfl

theorem evaluateRecord_settled (hterms : r.terms = [t, u]) (hk : t.kind = .inclusion) (hu : u.kind = .all) :
    (outcome replies (evaluateRecord s follow r domain path explains) p).1 =
      (outcome replies (matchTerm s follow domain path t) p).1.map (settledVerdict t u) := by
  have hmechanisms : r.terms.filter (fun t => !t.isModifier) = [t, u] := by
    simp [hterms, Term.isModifier, Kind.isModifier, hk, hu]
  have hexp : r.exp = none := by simp [Record.exp, Record.valueOf, hterms, hk, hu]
  have hall : matchTerm s follow domain path u = pure .matched := by simp only [matchTerm, hu]
  unfold evaluateRecord
  rw [hmechanisms, firstDecisive, bind_assoc]
  refine ended_bind fun o p' ho => ?_
  cases o with
  | matched =>
    rw [if_neg (by decide), pure_bind]
    exact matched_ended hexp t
  | permerror => rfl
  | temperror => rfl
  | unmatched =>
    rw [if_pos rfl, firstDecisive, hall, pure_bind, if_neg (by decide), pure_bind]
    exact matched_ended hexp u

theorem evaluateRecord_of_include (hterms : r.terms = [t, u]) (hk : t.kind = .inclusion) (hu : u.kind = .all)
    (hopen : s.endsLoops = false) (ht : s.target t domain = .ok target)
    (hl : (p.tally.lookups + 1 : Nat) ≤ s.limits.lookups)
    (h : ∀ p', outcome replies (follow target (path ++ [target]) false) p.counted = (.ok .none, p') →
      (p'.tally.voids + 1 : Nat) ≤ s.limits.voids) :
    (outcome replies (evaluateRecord s follow r domain path explains) p).1 =
      (outcome replies (follow target (path ++ [target]) false) p.counted).1.map (includedVerdict t u) := by
  rw [evaluateRecord_settled hterms hk hu, matchTerm_ended hk hopen ht hl h]
  cases (outcome replies (follow target (path ++ [target]) false) p.counted).1 with
  | ok v => rfl
  | error stop => rfl

theorem evaluateRecord_of_redirect {ts : List Term} {value : Text} (hterms : r.terms = ts ++ [t])
    (hts : ∀ t ∈ ts, s.IsOutside t) (hk : t.kind = .redirect) (hvalue : t.value = some value)
    (follow : Follow) (domain : Text) (path : List Text) (explains : Bool) (p : Progress) :
    ∃ trail, outcome replies (evaluateRecord s follow r domain path explains) p =
      outcome replies (redirect s follow value domain path explains) { p with trail } := by
  have hmechanisms : r.terms.filter (fun t => !t.isModifier) = ts := by
    rw [hterms, List.filter_append, List.filter_eq_self.mpr]
    · simp [Term.isModifier, Kind.isModifier, hk]
    · intro u hu
      obtain ⟨hk | hk, -⟩ := hts u hu <;> simp [Term.isModifier, Kind.isModifier, hk]
  have hredirect : r.redirect = some value := by
    have hnone : ts.find? (fun t => t.kind == .redirect) = none := by
      rw [List.find?_eq_none]
      intro u hu
      obtain ⟨hk | hk, -⟩ := hts u hu <;> simp [hk]
    simp [Record.redirect, Record.valueOf, hterms, hnone, hk, hvalue]
  have hsteady : Comparison.Steady replies (firstDecisive (matchTerm s follow domain path) ts) none :=
    firstDecisive_outside hts
  obtain ⟨trail, hfirst⟩ := hsteady p
  refine ⟨trail, ?_⟩
  unfold evaluateRecord
  rw [hmechanisms, outcome_bind_of_ok hfirst]
  simp only [hredirect]

/-! One lookup more -/

def Setting.oneMore (s : Setting) : Setting := { s with limits := ⟨s.limits.lookups + 1, s.limits.voids⟩ }

/-- Following from a domain that has one lookup more: there are as many levels below it as without. -/
def followBehind (s : Setting) : Follow := checkHost s.oneMore.heedless s.limits.lookups.toNat

theorem oneMore_allows (h : 0 ≤ s.limits.lookups) :
    ((0 : Nat) + 1 : Nat) ≤ s.oneMore.heedless.limits.lookups := by
  simp only [Setting.heedless, Setting.oneMore]
  omega

/-- A domain by itself, beside the same domain behind another, where one lookup more is counted and allowed. -/
def behindAnother (s : Setting) (replies : Query → Reply) (forgives : Stop → Prop) : Comparison where
  first := s.heedless
  second := s.oneMore.heedless
  replies := replies
  replies' := replies
  lead := 1
  forgives := forgives
  lookups := rfl
  voids := rfl
  rearranged := rearranged_refl replies

theorem evaluateDomain_heedless_ended (s : Setting) (replies : Query → Reply) (domain : Text) :
    ((evaluateDomain s domain).value replies).map (·.verdict) =
      endVerdict (outcome replies (checkHost s.heedless s.limits.lookups.toNat domain [domain] true) {}).1 := by
  rw [← evaluateDomain_heedless, evaluateDomain_verdict]
  rfl

theorem evaluateDomain_oneMore (hl : 0 ≤ s.limits.lookups) (hp : Audit.Publishes replies base r) :
    ∃ line, ((evaluateDomain s.oneMore base).value replies).map (·.verdict) =
      endVerdict (outcome replies (evaluateRecord s.oneMore.heedless (followBehind s) r base [base] true)
        (({} : Progress).noted line)).1 := by
  have hlevels : s.oneMore.limits.lookups.toNat = s.limits.lookups.toNat + 1 := by
    simp only [Setting.oneMore]
    omega
  obtain ⟨line, hvisit⟩ :=
    outcome_visit_of_publishes (s := s.oneMore.heedless) hp (followBehind s) [base] true {}
  refine ⟨line, ?_⟩
  rw [evaluateDomain_heedless_ended, hlevels, ← hvisit]
  rfl

/-- Evaluated behind another, a domain comes to the verdict that it comes to by itself; the two may differ
only where the domain by itself ends in a forgiven way. -/
theorem followed_verdict (s : Setting) (replies : Query → Reply) (forgives : Stop → Prop) (target : Text)
    (path : List Text) {q : Progress} (he : (behindAnother s replies forgives).OnFlags true explains)
    (hq : q.tally = ⟨1, 0⟩) :
    (∃ stop p', outcome replies (checkHost s.heedless s.limits.lookups.toNat target [target] true) {} =
      (.error stop, p') ∧ forgives stop) ∨
    endVerdict (outcome replies (followBehind s target path explains) q).1 =
      ((evaluateDomain s target).value replies).map (·.verdict) := by
  have hnear : (behindAnother s replies forgives).Near {} q :=
    ⟨by rw [hq]; rfl, by rw [hq], fun h => nomatch h⟩
  have hpaths : (behindAnother s replies forgives).OnPaths [target] path := .inr ⟨rfl, fun h => nomatch h⟩
  rw [evaluateDomain_heedless_ended]
  exact (Comparison.checkHost_parallel (C := behindAnother s replies forgives) s.limits.lookups.toNat target
    [target] path true explains hpaths he {} q hnear).imp id fun hend => hend.endVerdict_eq

theorem evaluateDomain_of_redirect {ts : List Term} {value : Text} (hl : 0 ≤ s.limits.lookups)
    (hp : Audit.Publishes replies base r) (hterms : r.terms = ts ++ [t]) (hts : ∀ t ∈ ts, s.IsOutside t)
    (hk : t.kind = .redirect) (hvalue : t.value = some value) (ht : s.expandName value base = .ok target) :
    ((evaluateDomain s.oneMore base).value replies).map (·.verdict) =
      (((evaluateDomain s target).value replies).map (·.verdict)).map handedVerdict := by
  obtain ⟨line, hrecord⟩ := evaluateDomain_oneMore hl hp
  obtain ⟨trail, hredirect⟩ := evaluateRecord_of_redirect (s := s.oneMore.heedless) hterms hts hk hvalue
    (followBehind s) base [base] true (({} : Progress).noted line)
  obtain ⟨line', hend⟩ := redirect_ended (s := s.oneMore.heedless) (p := { trail }) rfl ht
    (oneMore_allows hl) replies (followBehind s) [base] true
  have hfollowed := (followed_verdict (q := ({ trail } : Progress).counted.noted line') s replies
    (fun _ => False) target ([base] ++ [target]) (.inl rfl) rfl).resolve_left fun ⟨_, _, _, hfalse⟩ => hfalse
  calc
    _ = endVerdict (outcome replies
          (redirect s.oneMore.heedless (followBehind s) value base [base] true) { trail }).1 := by
      rw [hrecord, hredirect]
      rfl
    _ = _ := by rw [hend, endVerdict_map rfl, hfollowed]

theorem evaluateDomain_of_include {v : Verdict} (hl : 0 ≤ s.limits.lookups) (hvoids : 1 ≤ s.limits.voids)
    (hp : Audit.Publishes replies base r) (hterms : r.terms = [t, u]) (hk : t.kind = .inclusion)
    (hu : u.kind = .all) (ht : s.target t base = .ok target)
    (hv : ((evaluateDomain s target).value replies).map (·.verdict) = .ok v) :
    ((evaluateDomain s.oneMore base).value replies).map (·.verdict) = .ok (includedVerdict t u v) := by
  obtain ⟨line, hrecord⟩ := evaluateDomain_oneMore hl hp
  let q : Progress := (({} : Progress).noted line).counted
  have hfollowed :
      endVerdict (outcome replies (followBehind s target ([base] ++ [target]) false) q).1 = .ok v := by
    obtain ⟨stop, p', hstop, f, rfl⟩ | hsame := followed_verdict (q := q) s replies
      (fun stop => ∃ f, stop = .fault f) target ([base] ++ [target])
      (.inr ⟨rfl, rfl, fun f => ⟨f, rfl⟩⟩) rfl
    · rw [evaluateDomain_heedless_ended, hstop] at hv
      cases hv
    · exact hsame.trans hv
  have hnone (p' : Progress)
      (h : outcome replies (followBehind s target ([base] ++ [target]) false) q = (.ok .none, p')) :
      (p'.tally.voids + 1 : Nat) ≤ s.oneMore.heedless.limits.voids := by
    rw [checkHost_tally_of_none h]
    exact hvoids
  have hrest : (outcome replies (evaluateRecord s.oneMore.heedless (followBehind s) r base [base] true)
      (({} : Progress).noted line)).1 = _ :=
    evaluateRecord_of_include hterms hk hu rfl ht (oneMore_allows hl) hnone
  rw [hrecord, hrest, endVerdict_map rfl]
  exact congrArg (Except.map (includedVerdict t u)) hfollowed

/-- A domain that hands over to another, or includes it and says what holds otherwise, comes with one lookup
more to what the other comes to by itself; also where the other leads back to it. -/
theorem evaluate_composed (replies : Query → Reply) (n : Nat) (voids now : Int) (request : Request)
    (address : Address) (base target : Text) (hip : Address.parse? request.ip = some address)
    (hbase : Domain.normalized base = base) (hbase_ne : base ≠ [])
    (htarget : Domain.normalized target = target) (htarget_ne : target ≠ [])
    (hplain : target.contains '%' = false) :
    let verdictOf (lookups : Int) (domain : Text) : Except Fault Verdict :=
      ((evaluate ⟨lookups, voids⟩ now { request with domain }).value replies).map (·.verdict)
    (∀ r networks t, Audit.Publishes replies base r → r.terms = networks ++ [t] →
      (∀ u ∈ networks, (u.kind = .ip4 ∨ u.kind = .ip6) ∧
        Address.matchesNetwork address.text (u.value.getD []) = false) →
      t.kind = .redirect → t.value = some target →
      verdictOf (n + 1) base =
        (verdictOf n target).map fun v => if v = .none then .permerror else v) ∧
    (∀ r t u v, Audit.Publishes replies base r → r.terms = [t, u] → t.kind = .inclusion →
      t.value = some target → u.kind = .all → 1 ≤ voids → verdictOf n target = .ok v →
      verdictOf (n + 1) base = .ok (match v with
        | .pass => t.qualifier.verdict
        | .permerror => .permerror
        | .temperror => .temperror
        | _ => u.qualifier.verdict)) := by
  intro verdictOf
  let s : Setting := .ofRequest request address ⟨n, voids⟩ now
  have hl : 0 ≤ s.limits.lookups := Int.natCast_nonneg n
  -- A name in its normal form is evaluated as it stands.
  have hrun (limits : Limits) (domain : Text) (hdomain : Domain.normalized domain = domain)
      (hne : domain ≠ []) :
      evaluate limits now { request with domain } =
        evaluateDomain (.ofRequest request address limits now) domain := by
    have hnamed : Domain.normalized domain ≠ [] := by rwa [hdomain]
    have hevaluate : evaluate limits now { request with domain } =
        evaluateDomain (.ofRequest { request with domain } address limits now) (Domain.normalized domain) :=
      evaluate_eq_evaluateDomain hnamed hip
    rw [hevaluate, hdomain]
    rfl
  have hown : verdictOf n target = ((evaluateDomain s target).value replies).map (·.verdict) :=
    congrArg (fun plan => (plan.value replies).map (·.verdict)) (hrun ⟨n, voids⟩ target htarget htarget_ne)
  have hmore : verdictOf (n + 1) base = ((evaluateDomain s.oneMore base).value replies).map (·.verdict) :=
    congrArg (fun plan => (plan.value replies).map (·.verdict)) (hrun ⟨n + 1, voids⟩ base hbase hbase_ne)
  have hname : s.expandName target base = .ok target := by
    rw [expandName_of_plain hplain, htarget]
  constructor
  · intro r networks t hp hterms hnetworks hk hvalue
    rw [hown, hmore]
    exact evaluateDomain_of_redirect hl hp hterms hnetworks hk hvalue hname
  · intro r t u v hp hterms hk hvalue hu hvoids hv
    have ht : s.target t base = .ok target := by
      rw [target_of_value hvalue htarget_ne hplain, htarget]
    rw [hmore, evaluateDomain_of_include hl hvoids hp hterms hk hu ht (hown ▸ hv)]
    cases v <;> rfl

/-- Two domains that build on a third, which leads back to the first of them. -/
def buildingZone : Zone := [
  (⟨.texts, "a.example"⟩, .records [.text "v=spf1 ip4:198.51.100.0/24 redirect=c.example"]),
  (⟨.texts, "b.example"⟩, .records [.text "v=spf1 ~include:c.example -all"]),
  (⟨.texts, "c.example"⟩, .records [.text "v=spf1 ip4:192.0.2.1 include:a.example -all"])]

/-- A client that the third domain lets pass, and one for which it goes round with the first. -/
theorem buildingZone_composed :
    let verdictOf (ip domain : Text) (lookups : Int) :=
      ((evaluate ⟨lookups, 2⟩ 0 { domain, ip }).value buildingZone.reply).map (·.verdict)
    verdictOf "192.0.2.1" "b.example" 10 = .ok .softfail ∧
    verdictOf "192.0.2.7" "a.example" 10 = .ok .permerror := by
  intro verdictOf
  let network : Term := { kind := .ip4, value := some "198.51.100.0/24" }
  let handing : Term := { kind := .redirect, value := some "c.example" }
  let including : Term := { kind := .inclusion, qualifier := .softfail, value := some "c.example" }
  let others : Term := { kind := .all, qualifier := .fail }
  have hredirecting : Audit.Publishes buildingZone.reply "a.example"
      ⟨some Record.versionTag, [network, handing]⟩ :=
    Audit.publishes_of_checks (by decide +kernel) (by decide +kernel)
  have hincluding : Audit.Publishes buildingZone.reply "b.example"
      ⟨some Record.versionTag, [including, others]⟩ :=
    Audit.publishes_of_checks (by decide +kernel) (by decide +kernel)
  have hpass : verdictOf "192.0.2.1" "c.example" 9 = .ok .pass := eq_ok_of_toOption (by decide +kernel)
  have hround : verdictOf "192.0.2.7" "c.example" 9 = .ok .permerror := eq_ok_of_toOption (by decide +kernel)
  have hmismatch : ∀ u ∈ [network], (u.kind = .ip4 ∨ u.kind = .ip6) ∧
      Address.matchesNetwork (Address.v4 0xC0000207#32).text (u.value.getD []) = false := by decide +kernel
  obtain ⟨-, hinclude⟩ := evaluate_composed buildingZone.reply 9 2 0
    { domain := "b.example", ip := "192.0.2.1" } (.v4 0xC0000201#32) "b.example" "c.example"
    (by decide +kernel) (by decide +kernel) (by decide) (by decide +kernel) (by decide) (by decide)
  obtain ⟨hredirect, -⟩ := evaluate_composed buildingZone.reply 9 2 0
    { domain := "a.example", ip := "192.0.2.7" } (.v4 0xC0000207#32) "a.example" "c.example"
    (by decide +kernel) (by decide +kernel) (by decide) (by decide +kernel) (by decide) (by decide)
  constructor
  · exact hinclude _ including others .pass hincluding rfl rfl rfl rfl (by decide) hpass
  · refine (hredirect _ [network] handing hredirecting rfl hmismatch rfl rfl).trans ?_
    exact congrArg (Except.map _) hround

end SenderPolicy.Evaluation
