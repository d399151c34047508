import SenderPolicy.Dns.Zone
import SenderPolicy.Proofs.Evaluation.Ending
import SenderPolicy.Proofs.Evaluation.Notes

/-!
Only the terms up to the first decisive one matter. Two records that begin with the same mechanisms, up to one that
settles the evaluation, lead to the same questions and the same counts, and to one outcome. Only what that outcome means,
and whether it is explained, is up to each of them.
-/
namespace SenderPolicy.Evaluation
open Dns Dns.Work
variable {s : Setting} {replies replies' : Query → Reply} {domain : Text} {r : Record}
  {before before' after : List Term} {t t' : Term} {o : Outcome}

/-- What a mechanism settles the evaluation with, if it does: a stop without a fault is a permanent error. -/
def settled : Except Stop Outcome → Option Outcome
  | .ok o => if o = .unmatched then none else some o
  | .error stop => if stop.fault?.isNone then some .permerror else none

/-- Tries one mechanism of the domain's record, as the evaluation of the domain does. -/
def attempt (s : Setting) (domain : Text) (t : Term) : Step Outcome :=
  matchTerm s (below s s.limits.lookups.toNat) domain [domain] t

/-- Tries the mechanisms in order, up to the first that is decisive. -/
def trial (s : Setting) (domain : Text) (ts : List Term) : Step (Option (Term × Outcome)) :=
  firstDecisive (attempt s domain) ts

/-- None of the mechanisms before is more than a mismatch, and the mechanism settles the evaluation with the outcome. -/
def SettledBy (s : Setting) (replies : Query → Reply) (domain : Text) (before : List Term) (t : Term) (o : Outcome) :
    Prop :=
  ∃ p, outcome replies (trial s domain before) {} = (.ok none, p) ∧
    settled (outcome replies (attempt s domain t) p).1 = some o

theorem settledBy_of_checks (hbefore : (outcome replies (trial s domain before) {}).1.toOption = some none)
    (ht : settled (outcome replies (attempt s domain t) (outcome replies (trial s domain before) {}).2).1 = some o) :
    SettledBy s replies domain before t o := by
  cases hrun : outcome replies (trial s domain before) {} with
  | mk e p =>
    rw [hrun] at hbefore ht
    obtain rfl := eq_ok_of_toOption hbefore
    exact ⟨p, hrun, ht⟩

theorem firstDecisive_append (attempt : Term → Step Outcome) (ts us : List Term) :
    firstDecisive attempt (ts ++ us) = (do
      match ← firstDecisive attempt ts with
      | none => firstDecisive attempt us
      | some found => return some found) := by
  induction ts with
  | nil => simp [firstDecisive]
  | cons t rest ih =>
    simp only [List.cons_append, firstDecisive, ih, bind_assoc]
    refine bind_congr fun o => ?_
    split
    · rfl
    · simp

theorem attempt_alike (h : SameMechanism t t') : (attempt s domain t).Alike Eq (attempt s domain t') :=
  matchTerm_alike (below_alike s _) h

theorem trial_alike {ts ts' : List Term} (h : List.Forall₂ SameMechanism ts ts') :
    (trial s domain ts).Alike (FoundAlike SameMechanism) (trial s domain ts') :=
  firstDecisive_alike (fun _ _ => attempt_alike) h

theorem settled_eq_some {e : Except Stop Outcome} (h : settled e = some o) :
    e = .ok o ∧ o ≠ .unmatched ∨ ∃ stop, e = .error stop ∧ stop.fault? = none ∧ o = .permerror := by
  cases e with
  | ok o' =>
    by_cases hunmatched : o' = .unmatched
    · rw [settled, if_pos hunmatched] at h
      cases h
    · rw [settled, if_neg hunmatched] at h
      cases h
      exact .inl ⟨rfl, hunmatched⟩
  | error stop =>
    cases hfault : stop.fault? with
    | some f =>
      simp only [settled, hfault] at h
      cases h
    | none =>
      simp only [settled, hfault] at h
      cases h
      exact .inr ⟨stop, rfl, hfault, rfl⟩

theorem firstDecisive_of_settled {attempt : Term → Step Outcome} {p : Progress}
    (h : settled (outcome replies (attempt t) p).1 = some o) (rest : List Term) :
    outcome replies (firstDecisive attempt (t :: rest)) p =
        ((outcome replies (attempt t) p).1.map fun o => some (t, o), (outcome replies (attempt t) p).2) ∧
      asks replies (firstDecisive attempt (t :: rest)) p = asks replies (attempt t) p := by
  rw [firstDecisive]
  cases hrun : outcome replies (attempt t) p with
  | mk e p' =>
    rw [hrun] at h
    obtain ⟨rfl, hne⟩ | ⟨stop, rfl, -, -⟩ := settled_eq_some h
    · rw [outcome_bind_of_ok hrun, asks_bind_of_ok hrun, if_neg hne]
      exact ⟨rfl, List.append_nil _⟩
    · rw [outcome_bind_of_error hrun, asks_bind_of_error hrun]
      exact ⟨rfl, rfl⟩

namespace SettledBy

theorem trial_append (h : SettledBy s replies domain before t o) (after : List Term) :
    outcome replies (trial s domain (before ++ t :: after)) {} =
        outcome replies (trial s domain (before ++ [t])) {} ∧
      asks replies (trial s domain (before ++ t :: after)) {} =
        asks replies (trial s domain (before ++ [t])) {} := by
  obtain ⟨p, hbefore, hsettled⟩ := h
  have run (rest : List Term) := firstDecisive_of_settled hsettled rest
  have hbefore' : outcome replies (firstDecisive (attempt s domain) before) {} = (.ok none, p) := hbefore
  simp only [trial, firstDecisive_append]
  rw [outcome_bind_of_ok hbefore', outcome_bind_of_ok hbefore', asks_bind_of_ok hbefore', asks_bind_of_ok hbefore']
  dsimp only
  rw [(run after).1, (run after).2, (run []).1, (run []).2]
  exact ⟨rfl, rfl⟩

theorem trial_ends (h : SettledBy s replies domain before t o) :
    (outcome replies (trial s domain (before ++ [t])) {}).1 = .ok (some (t, o)) ∨
      ∃ stop, (outcome replies (trial s domain (before ++ [t])) {}).1 = .error stop ∧
        stop.fault? = none ∧ o = .permerror := by
  obtain ⟨p, hbefore, hsettled⟩ := h
  have hbefore' : outcome replies (firstDecisive (attempt s domain) before) {} = (.ok none, p) := hbefore
  have hrun := (firstDecisive_of_settled hsettled []).1
  simp only [trial, firstDecisive_append]
  rw [outcome_bind_of_ok hbefore']
  dsimp only
  rw [hrun]
  obtain ⟨he, -⟩ | ⟨stop, he, hstop, ho⟩ := settled_eq_some hsettled
  · rw [he]
    exact .inl rfl
  · rw [he]
    exact .inr ⟨stop, rfl, hstop, ho⟩

end SettledBy

/-! Explanations -/

def expandedText (s : Setting) (domain : Text) (text : Option Text) : Except Fault (Option Text) :=
  match text with
  | some text => (s.expand text domain).map some
  | none => .ok none

/-- The explanation that a record names, if it can be used, or the fault in it. -/
def explanationOf (s : Setting) (replies : Query → Reply) (r : Record) (domain : Text) :
    Except Fault (Option Text) :=
  match r.exp with
  | none | some [] => .ok none
  | some value =>
    match s.expandName value domain with
    | .ok target => expandedText s domain (soleText? (answerOf replies .texts target))
    | .error f => .error f

def explanationQueries (s : Setting) (r : Record) (domain : Text) : List Query :=
  match r.exp with
  | none | some [] => []
  | some value =>
    match s.expandName value domain with
    | .ok target => [⟨.texts, target⟩]
    | .error _ => []

theorem explainFrom_of_ok {text e : Option Text} (h : expandedText s domain text = .ok e) (target : Text)
    (p : Progress) :
    ∃ p', outcome replies (explainFrom s domain target text) p = (.ok (), p') ∧ p'.tally = p.tally ∧
      asks replies (explainFrom s domain target text) p = [] := by
  cases text with
  | none => exact ⟨_, Step.outcome_note replies p _, rfl, rfl⟩
  | some text =>
    cases hx : s.expand text domain with
    | error f => simp [expandedText, hx, Except.map] at h
    | ok explanation =>
      simp only [explainFrom, hx]
      exact ⟨_, rfl, rfl, rfl⟩

theorem explain_of_ok {e : Option Text} (h : explanationOf s replies r domain = .ok e) (p : Progress) :
    ∃ p', outcome replies (explain s r domain) p = (.ok (), p') ∧ p'.tally = p.tally ∧
      asks replies (explain s r domain) p = explanationQueries s r domain := by
  rw [explain_eq]
  unfold explanationOf at h
  unfold explanationQueries
  match hexp : r.exp with
  | none => exact ⟨p, rfl, rfl, rfl⟩
  | some [] => exact ⟨p, rfl, rfl, rfl⟩
  | some (c :: rest) =>
    simp only [hexp] at h ⊢
    cases htarget : s.expandName (c :: rest) domain with
    | error f => simp [htarget] at h
    | ok target =>
      simp only [htarget] at h ⊢
      have hread : outcome replies (Step.ofExcept (.ok target)) p = (.ok target, p) := rfl
      have hquery := Step.outcome_query replies p .texts target
      obtain ⟨p', hrun, htally, hasks⟩ := explainFrom_of_ok h target p
      refine ⟨p', ?_, htally, ?_⟩
      · rw [outcome_bind_of_ok hread, outcome_bind_of_ok hquery]
        exact hrun
      · rw [asks_bind_of_ok hread, asks_bind_of_ok hquery]
        exact congrArg (⟨.texts, target⟩ :: ·) hasks

/-- If the verdict is a failure, it is explained without a fault, or not at all. -/
def CanExplain (s : Setting) (replies : Query → Reply) (r : Record) (domain : Text) (verdict : Verdict) : Prop :=
  verdict = .fail → ∃ e, explanationOf s replies r domain = .ok e

/-! The evaluation -/

/-- The question that is asked at the end, where a failure is explained. -/
def endQueries (s : Setting) (r : Record) (domain : Text) (verdict : Verdict) : List Query :=
  if verdict = .fail then explanationQueries s r domain else []

theorem conclude_of_ok {verdict : Verdict}
    (h : CanExplain s replies r domain verdict) (line : List Text) (p : Progress) :
    let x : Step Verdict := do
      Step.note line
      if verdict = .fail ∧ true then explain s r domain
      return verdict
    ∃ p', outcome replies x p = (.ok verdict, p') ∧ p'.tally = p.tally ∧
      asks replies x p = endQueries s r domain verdict := by
  intro x
  have hnote := Step.outcome_note replies p line
  unfold endQueries
  by_cases hfail : verdict = .fail
  · obtain ⟨e, he⟩ := h hfail
    obtain ⟨p', hrun, htally, hasks⟩ := explain_of_ok he (p.noted (Text.phrase line))
    refine ⟨p', ?_, htally, ?_⟩
    · simp only [x, hfail, true_and, if_true]
      rw [outcome_bind_of_ok hnote, outcome_bind_of_ok hrun]
      rfl
    · simp only [x, hfail, true_and, if_true]
      rw [asks_bind_of_ok hnote, asks_bind_of_ok hrun, hasks]
      exact List.append_nil _
  · refine ⟨p.noted (Text.phrase line), ?_, rfl, ?_⟩
    · simp only [x, hfail, false_and, if_false]
      rw [outcome_bind_of_ok hnote]
      rfl
    · simp only [x, hfail, false_and, if_false]
      rw [asks_bind_of_ok hnote]
      rfl

/-- The evaluation of a record that a mechanism settles is its trial up to the mechanism, and an explanation. -/
theorem evaluateRecord_of_settledBy (h : SettledBy s replies domain before t o)
    (hterms : mechanismsOf r.terms = before ++ t :: after)
    (hexplains : CanExplain s replies r domain (decidedVerdict t o)) :
    let x := evaluateRecord s (below s s.limits.lookups.toNat) r domain [domain] true
    let y := trial s domain (before ++ [t])
    endVerdict (outcome replies x {}).1 = .ok (decidedVerdict t o) ∧
      (outcome replies x {}).2.tally = (outcome replies y {}).2.tally ∧
      asks replies x {} = asks replies y {} ++ endQueries s r domain (decidedVerdict t o) := by
  intro x y
  obtain ⟨houtcome, hasks⟩ := h.trial_append after
  rw [← hterms] at houtcome hasks
  cases hrun : outcome replies y {} with
  | mk e p =>
    have hends := h.trial_ends
    have htrial : outcome replies (firstDecisive (matchTerm s (below s s.limits.lookups.toNat) domain [domain])
        (r.terms.filter fun t => !t.isModifier)) {} = (e, p) := houtcome.trans hrun
    have hasked : asks replies (firstDecisive (matchTerm s (below s s.limits.lookups.toNat) domain [domain])
        (r.terms.filter fun t => !t.isModifier)) {} = asks replies y {} := hasks
    rw [show outcome replies (trial s domain (before ++ [t])) {} = (e, p) from hrun] at hends
    simp only [x]
    unfold evaluateRecord
    obtain rfl | ⟨stop, rfl, hstop, rfl⟩ := hends
    · rw [outcome_bind_of_ok htrial, asks_bind_of_ok htrial, hasked]
      cases o with
      | permerror => exact ⟨rfl, rfl, rfl⟩
      | temperror => exact ⟨rfl, rfl, rfl⟩
      | matched | unmatched =>
        obtain ⟨p', hrest, htally, hlast⟩ := conclude_of_ok (r := r) hexplains
          [domain, ": ", t.compose, " matched (", t.qualifier.verdict.name, ")"] p
        exact ⟨congrArg (fun reached => endVerdict reached.1) hrest,
          (congrArg (fun reached => reached.2.tally) hrest).trans htally, congrArg (asks replies y {} ++ ·) hlast⟩
    · rw [outcome_bind_of_error htrial, asks_bind_of_error htrial, hasked]
      exact ⟨endVerdict_of_stop hstop, rfl, (List.append_nil _).symm⟩

theorem EndAlike.endVerdict_eq {x y : Except Stop Verdict × Progress} (h : EndAlike Eq x y) :
    endVerdict y.1 = endVerdict x.1 := by
  cases hx : x.1 with
  | ok verdict =>
    obtain ⟨_, hy, rfl⟩ := h.of_ok hx
    rw [hy]
  | error stop =>
    obtain ⟨stop', hy, hfault⟩ := h.of_error hx
    simp only [hy, endVerdict, hfault]

theorem evaluateDomain_of_settledBy (hp : Audit.Publishes replies domain r)
    (h : SettledBy s replies domain before t o) (hterms : mechanismsOf r.terms = before ++ t :: after)
    (hexplains : CanExplain s replies r domain (decidedVerdict t o)) :
    let y := trial s domain (before ++ [t])
    ∃ result, (evaluateDomain s domain).value replies = .ok result ∧
      result.verdict = decidedVerdict t o ∧ result.tally = (outcome replies y {}).2.tally ∧
      (evaluateDomain s domain).queries replies = ⟨.texts, Domain.normalized domain⟩ :: asks replies y {} ++
        endQueries s r domain (decidedVerdict t o) := by
  intro y
  obtain ⟨hverdict, htally, hasks⟩ := evaluateRecord_of_settledBy h hterms hexplains
  obtain ⟨line, hrun, hasked⟩ := visit_of_publishes (s := s) hp (below s s.limits.lookups.toNat) [domain] true {}
  have htells := evaluateDomain_tells s replies domain
  have hqueries := evaluateDomain_queries s replies domain
  rw [checkHost_eq_visit] at htells hqueries
  let x := evaluateRecord s (below s s.limits.lookups.toNat) r domain [domain] true
  have halike : x.Alike Eq x := evaluateRecord_alike (below_alike s _) r true
  have hend := halike.outcome (p := {}) (q := ({} : Progress).noted line) rfl replies
  have hnoted := halike.asks_eq (p := {}) (q := ({} : Progress).noted line) rfl replies
  rw [hrun] at htells
  dsimp only at htells
  rw [hend.endVerdict_eq, hverdict, hend.tally_eq, htally] at htells
  rw [hasked, hnoted, hasks] at hqueries
  cases hvalue : (evaluateDomain s domain).value replies with
  | error f =>
    rw [hvalue] at htells
    cases htells
  | ok result =>
    rw [hvalue] at htells
    obtain ⟨hsame, hrest⟩ := Prod.mk.inj (Except.ok.inj htells)
    exact ⟨result, rfl, hsame, (Prod.mk.inj hrest).1, hqueries⟩

/-! Two records -/

theorem EndAlike.settled_eq {x y : Except Stop Outcome × Progress} (h : EndAlike Eq x y) :
    settled y.1 = settled x.1 := by
  cases hx : x.1 with
  | ok o =>
    obtain ⟨_, hy, rfl⟩ := h.of_ok hx
    rw [hy]
  | error stop =>
    obtain ⟨stop', hy, hfault⟩ := h.of_error hx
    simp only [hy, settled, hfault]

theorem asks_trial {p : Progress} (hrun : outcome replies (trial s domain before) {} = (.ok none, p))
    (hsettled : settled (outcome replies (attempt s domain t) p).1 = some o) :
    asks replies (trial s domain (before ++ [t])) {} =
      asks replies (trial s domain before) {} ++ asks replies (attempt s domain t) p := by
  have hbefore : outcome replies (firstDecisive (attempt s domain) before) {} = (.ok none, p) := hrun
  simp only [trial, firstDecisive_append]
  rw [asks_bind_of_ok hbefore]
  dsimp only
  rw [(firstDecisive_of_settled hsettled []).2]

/-- What settles one evaluation settles another that tries the same, where the replies to its questions are the same. -/
theorem SettledBy.transfer (h : SettledBy s replies domain before t o)
    (hbefore : List.Forall₂ SameMechanism before before') (ht : SameMechanism t t')
    (hagree : ∀ q ∈ asks replies (trial s domain (before ++ [t])) {}, replies' q = replies q) :
    SettledBy s replies' domain before' t' o := by
  obtain ⟨p, hrun, hsettled⟩ := h
  rw [asks_trial hrun hsettled] at hagree
  obtain ⟨hend, -⟩ := (trial_alike hbefore).outcome_of_agree (p := {}) (q := {}) rfl
    fun q hq => hagree q (List.mem_append_left _ hq)
  rw [hrun] at hend
  obtain ⟨found, hfound, hnone⟩ := hend.of_ok rfl
  have hnone : found = none := by
    cases found with
    | none => rfl
    | some f => exact hnone.elim
  obtain ⟨hterm, -⟩ := (attempt_alike ht).outcome_of_agree hend.tally_eq
    fun q hq => hagree q (List.mem_append_right _ hq)
  exact ⟨_, Prod.ext (hfound.trans (congrArg _ hnone)) rfl, hterm.settled_eq.trans hsettled⟩

/-- The request is evaluated from the domain, in the setting. -/
structure StartsAt (limits : Limits) (now : Int) (request : Request) (s : Setting) (domain : Text) : Prop where
  normalized : Domain.normalized request.domain = domain
  isNamed : domain ≠ []
  setting : ∃ address, Address.parse? request.ip = some address ∧ .ofRequest request address limits now = s

theorem StartsAt.evaluate_eq {limits : Limits} {now : Int} {request : Request}
    (h : StartsAt limits now request s domain) : evaluate limits now request = evaluateDomain s domain := by
  obtain ⟨rfl, hname, address, hip, rfl⟩ := h
  exact evaluate_eq_evaluateDomain hname hip

/-- The domain publishes the one record or the other, and all else is the same. -/
structure PublishesInstead (replies replies' : Query → Reply) (domain : Text) (r r' : Record) : Prop where
  first : Audit.Publishes replies domain r
  second : Audit.Publishes replies' domain r'
  others : ∀ q, q ≠ ⟨.texts, Domain.normalized domain⟩ → replies' q = replies q

/-- The records begin with the same mechanisms, up to one of each. -/
structure BeginAlike (r r' : Record) (before before' : List Term) (t t' : Term) : Prop where
  first : ∃ after, mechanismsOf r.terms = before ++ t :: after
  second : ∃ after, mechanismsOf r'.terms = before' ++ t' :: after
  before : List.Forall₂ SameMechanism before before'
  last : SameMechanism t t'

/-- Only the terms up to the first that is more than a mismatch matter. Where two records begin with the same mechanisms
up to that one, the domain has a result under either: the questions are the same, but for the one for an explanation at
the end; the counts are the same; and the verdict is what the term means in its record, or the same error. This is so
unless the domain's own record is read a second time on the way, and unless an explanation ends in a fault. -/
theorem evaluate_of_same_beginning (replies replies' : Query → Reply) (limits : Limits) (now : Int)
    (request : Request) (s : Setting) (domain : Text) (r r' : Record) (before before' : List Term) (t t' : Term)
    (o : Outcome) (hstarts : StartsAt limits now request s domain)
    (hpublishes : PublishesInstead replies replies' domain r r') (hbegin : BeginAlike r r' before before' t t')
    (hsettled : SettledBy s replies domain before t o)
    (hunread : ⟨.texts, Domain.normalized domain⟩ ∉ asks replies (trial s domain (before ++ [t])) {})
    (hexplains : CanExplain s replies r domain (decidedVerdict t o))
    (hexplains' : CanExplain s replies' r' domain (decidedVerdict t' o)) :
    ∃ result result' asked,
      (evaluate limits now request).value replies = .ok result ∧
      (evaluate limits now request).value replies' = .ok result' ∧
      result.verdict = decidedVerdict t o ∧ result'.verdict = decidedVerdict t' o ∧
      result'.tally = result.tally ∧
      (evaluate limits now request).queries replies = asked ++ endQueries s r domain result.verdict ∧
      (evaluate limits now request).queries replies' = asked ++ endQueries s r' domain result'.verdict := by
  obtain ⟨⟨after, hterms⟩, ⟨after', hterms'⟩, hbefore, ht⟩ := hbegin
  -- The replies differ in the domain's own record alone, which the trial does not ask for.
  have hagree : ∀ q ∈ asks replies (trial s domain (before ++ [t])) {}, replies' q = replies q :=
    fun q hq => hpublishes.others q fun heq => hunread (heq ▸ hq)
  have hsettled' : SettledBy s replies' domain before' t' o := hsettled.transfer hbefore ht hagree
  have htrials : List.Forall₂ SameMechanism (before ++ [t]) (before' ++ [t']) :=
    List.rel_append hbefore (.cons ht .nil)
  obtain ⟨hend, hasks⟩ := (trial_alike htrials).outcome_of_agree (p := {}) (q := {}) rfl hagree
  obtain ⟨result, hresult, hverdict, htally, hqueries⟩ :=
    evaluateDomain_of_settledBy hpublishes.first hsettled hterms hexplains
  obtain ⟨result', hresult', hverdict', htally', hqueries'⟩ :=
    evaluateDomain_of_settledBy hpublishes.second hsettled' hterms' hexplains'
  rw [hstarts.evaluate_eq]
  refine ⟨result, result', ⟨.texts, Domain.normalized domain⟩ :: asks replies (trial s domain (before ++ [t])) {},
    hresult, hresult', hverdict, hverdict', ?_, ?_, ?_⟩
  · rw [htally, htally', hend.tally_eq]
  · rw [hverdict]
    exact hqueries
  · rw [hverdict', ← hasks]
    exact hqueries'

/-- A policy that lets a network pass through an include, behind a host that it looks up. -/
def networkZone (text : Text) : Zone := [
  (⟨.texts, "d.example"⟩, .records [.text text]),
  (⟨.shortAddresses, "x.example"⟩, .records [.text "198.51.100.1"]),
  (⟨.texts, "b.example"⟩, .records [.text "v=spf1 ip4:192.0.2.0/24 -all"]),
  (⟨.texts, "e.example"⟩, .records [.text "%{i} is refused by %{d}"])]

/-- The include settles both policies: the one lets the network pass, and the other refuses it and tells why. -/
theorem networkZone_settled_alike :
    let request : Request := { domain := "d.example", ip := "192.0.2.1" }
    let replies := (networkZone "v=spf1 ~a:x.example include:b.example -all").reply
    let replies' := (networkZone "v=spf1 a:x.example -include:b.example mx exp=e.example").reply
    ∃ result result' asked,
      (evaluate {} 0 request).value replies = .ok result ∧ (evaluate {} 0 request).value replies' = .ok result' ∧
      result.verdict = .pass ∧ result'.verdict = .fail ∧ result'.tally = result.tally ∧
      (evaluate {} 0 request).queries replies = asked ∧
      (evaluate {} 0 request).queries replies' = asked ++ [⟨.texts, "e.example"⟩] := by
  intro request replies replies'
  let s := Setting.ofRequest request (.v4 0xC0000201#32) {} 0
  let host : Term := { kind := .a, qualifier := .softfail, value := some "x.example" }
  let network : Term := { kind := .inclusion, value := some "b.example" }
  let others : Term := { kind := .all, qualifier := .fail }
  let exchange : Term := { kind := .mx }
  let why : Term := { kind := .exp, value := some "e.example" }
  let r : Record := ⟨some Record.versionTag, [host, network, others]⟩
  let r' : Record := ⟨some Record.versionTag,
    [{ host with qualifier := .pass }, { network with qualifier := .fail }, exchange, why]⟩
  have hname : Domain.normalized request.domain = "d.example" := by decide +kernel
  have hown : Domain.normalized "d.example" = "d.example" := hname
  have hpublishes : PublishesInstead replies replies' "d.example" r r' := by
    refine ⟨Audit.publishes_of_checks (by decide +kernel) (by decide +kernel),
      Audit.publishes_of_checks (by decide +kernel) (by decide +kernel), fun q hq => ?_⟩
    rw [hown] at hq
    simp only [replies, replies', networkZone, Zone.reply, List.find?_cons, decide_eq_false (Ne.symm hq)]
  have hbegin : BeginAlike r r' [host] [{ host with qualifier := .pass }] network { network with qualifier := .fail } :=
    ⟨⟨[others], rfl⟩, ⟨[exchange], rfl⟩, .cons ⟨rfl, rfl, rfl⟩ .nil, ⟨rfl, rfl, rfl⟩⟩
  have hsettled : SettledBy s replies "d.example" [host] network .matched :=
    settledBy_of_checks (by decide +kernel) (by decide +kernel)
  have hwhy : explanationOf s replies' r' "d.example" = .ok (some "192.0.2.1 is refused by d.example") :=
    eq_ok_of_toOption (by decide +kernel)
  obtain ⟨result, result', asked, hresult, hresult', hverdict, hverdict', htally, hasked, hasked'⟩ :=
    evaluate_of_same_beginning replies replies' {} 0 request s "d.example" r r' [host]
      [{ host with qualifier := .pass }] network { network with qualifier := .fail } .matched
      ⟨hname, by decide, _, by decide +kernel, rfl⟩ hpublishes hbegin hsettled (by decide +kernel)
      (fun h => nomatch h) fun _ => ⟨_, hwhy⟩
  rw [hverdict] at hasked
  rw [hverdict'] at hasked'
  refine ⟨result, result', asked, hresult, hresult', hverdict, hverdict', htally, ?_, ?_⟩
  · rw [hasked]
    exact List.append_nil _
  · rw [hasked']
    exact congrArg (asked ++ ·) (by decide +kernel)

/-- A policy that includes its own record under another spelling of its name. -/
def echoZone (text : Text) : Zone := [(⟨.texts, "d.example"⟩, .records [.text text])]

/-- The first mechanism settles the one policy, and the other begins with it; but it finds what stands behind it. -/
theorem echoZone_is_read_again :
    let request : Request := { domain := "d.example", ip := "192.0.2.1" }
    let s := Setting.ofRequest request (.v4 0xC0000201#32) {} 0
    let text : Text := "v=spf1 include:%{d}.%_. +all"
    let text' : Text := "v=spf1 include:%{d}.%_. -all"
    let echo : Term := { kind := .inclusion, value := some "%{d}.%_." }
    let others : Term := { kind := .all }
    let others' : Term := { kind := .all, qualifier := .fail }
    let verdictOf (text : Text) := ((evaluate {} 0 request).value (echoZone text).reply).toOption.map (·.verdict)
    Audit.Publishes (echoZone text).reply "d.example" ⟨some Record.versionTag, [echo, others]⟩ ∧
      Audit.Publishes (echoZone text').reply "d.example" ⟨some Record.versionTag, [echo, others']⟩ ∧
      SettledBy s (echoZone text).reply "d.example" [] echo .matched ∧
      decidedVerdict echo .matched = .pass ∧
      verdictOf text = some .pass ∧ verdictOf text' = some .fail := by
  intro request s text text' echo others others' verdictOf
  refine ⟨Audit.publishes_of_checks (by decide +kernel) (by decide +kernel),
    Audit.publishes_of_checks (by decide +kernel) (by decide +kernel),
    settledBy_of_checks (by decide +kernel) (by decide +kernel), rfl, ?_, ?_⟩
  · decide +kernel
  · decide +kernel

end SenderPolicy.Evaluation
