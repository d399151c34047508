import SenderPolicy.Proofs.Evaluation.Explanations

/-!
Where an explanation comes from: from the record that the matching term stands in, to which redirects alone have led. No
step but the last of them explains anything.
-/
namespace SenderPolicy.Evaluation
open Dns Dns.Work Relation
variable {α β : Type} {s : Setting} {replies replies' : Query → Reply} {path : List Text} {r r' : Record}
  {explains : Bool} {follow : Follow}

/-- The step leaves alone what has been explained. -/
def Silent (replies : Query → Reply) (x : Step α) : Prop :=
  ∀ p, (outcome replies x p).2.explanation = p.explanation

namespace Silent
variable {x : Step α} {f : α → Step β}

theorem bind (h : Silent replies x) (hf : ∀ a, Silent replies (f a)) : Silent replies (x >>= f) := by
  intro p
  have hx := h p
  cases hrun : outcome replies x p with
  | mk o p' =>
    rw [hrun] at hx
    cases o with
    | ok a =>
      rw [outcome_bind_of_ok hrun, hf a p', hx]
    | error e =>
      rw [outcome_bind_of_error hrun, hx]

theorem ofPlan (x : Plan α) : Silent replies (Step.ofPlan x) := by
  intro p
  rw [Step.ofPlan_eq, outcome_ofPlan]

theorem count (limits : Limits) (label : Text) : Silent replies (Step.count limits label) := by
  intro p
  rw [Step.outcome_count]
  rfl

theorem countVoid (limits : Limits) (label : Text) : Silent replies (Step.countVoid limits label) := by
  intro p
  rw [Step.outcome_countVoid]
  rfl

end Silent

def silent (replies : Query → Reply) (s : Setting) : Congruence s s.limits where
  Rel x _ := Silent replies x
  pure _ := fun _ => rfl
  bind := .bind
  note _ := fun _ => rfl
  query _ _ := .ofPlan _
  queryAll _ _ := .ofPlan _
  count := .count s.limits
  countVoid := .countVoid s.limits
  includeLoop _ := fun _ => rfl
  redirectLoop _ := fun _ => rfl

theorem visit_silent {d : Text} (hf : ∀ target, (silent replies s).FollowsTo follow follow false target) :
    (silent replies s).FollowsTo (visit s follow) (visit s follow) false d := by
  intro path p
  by_cases hp : ∃ r, Audit.Publishes replies d r
  · obtain ⟨r, hp⟩ := hp
    have hreads {α : Type} (x : Except Fault α) : (silent replies s).Reads x :=
      (silent replies s).reads_of_fault (fun _ _ => rfl) x
    have hrecord : Silent replies (evaluateRecord s follow r d path false) :=
      (silent replies s).evaluateRecord
        ⟨fun _ _ _ _ _ _ => hreads _, fun _ _ _ target _ => hf target, fun _ _ => hreads _,
          fun _ _ target _ => hf target⟩
        rfl rfl fun hfalse => nomatch hfalse
    obtain ⟨line, hrun⟩ := outcome_visit_of_publishes hp follow path false p
    rw [hrun]
    exact hrecord _
  · obtain ⟨o, ho⟩ := visit_of_not_publishes (not_exists.mp hp)
    obtain ⟨trail, hrun⟩ := ho replies rfl s follow path false p
    rw [hrun]

theorem checkHost_silent (left : Nat) (d : Text) :
    (silent replies s).FollowsTo (checkHost s left) (checkHost s left) false d := by
  induction left generalizing d with
  | zero => exact visit_silent fun _ _ _ => rfl
  | succ left ih => exact visit_silent ih

def tried (s : Setting) (left : Nat) (r : Record) (domain : Text) (path : List Text) :
    Step (Option (Term × Outcome)) :=
  firstDecisive (matchTerm s (below s left) domain path) (mechanismsOf r.terms)

theorem tried_silent (s : Setting) (left : Nat) (r : Record) (domain : Text) (path : List Text) :
    Silent replies (tried s left r domain path) := by
  have hbelow (target : Text) : (silent replies s).FollowsTo (below s left) (below s left) false target := by
    cases left with
    | zero => exact fun _ _ => rfl
    | succ left => exact checkHost_silent left target
  have hattempt (t : Term) : (silent replies s).Rel (matchTerm s (below s left) domain path t)
      (matchTerm s (below s left) domain path t) :=
    (silent replies s).matchTerm t (fun _ _ _ => (silent replies s).reads_of_fault (fun _ _ => rfl) _)
      fun _ target _ => hbelow target
  exact (silent replies s).firstDecisive fun t _ => hattempt t

theorem firstDecisive_ne_unmatched {attempt : Term → Step Outcome} {ts : List Term} {p p' : Progress} {t : Term}
    {o : Outcome} (h : outcome replies (firstDecisive attempt ts) p = (.ok (some (t, o)), p')) : o ≠ .unmatched := by
  induction ts generalizing p with
  | nil => cases h
  | cons u rest ih =>
    obtain ⟨o', p₁, -, hrest⟩ := bind_eq_ok h
    split at hrest
    · exact ih hrest
    · rename_i hne
      cases hrest
      exact hne

/-- The evaluation of a domain, from a tally, comes to the record of a domain, by redirects alone, and matches a term
of it. -/
inductive Matches (s : Setting) (replies : Query → Reply) :
    Nat → Text → List Text → Tally → Text → Record → Term → Prop
  | here {left : Nat} {d : Text} {path : List Text} {r : Record} {t : Term} {p p' : Progress} :
      Audit.Publishes replies d r →
      outcome replies (tried s left r d path) p = (.ok (some (t, .matched)), p') →
      Matches s replies left d path p.tally d r t
  | redirected {left : Nat} {d target last : Text} {path : List Text} {r r' : Record} {value : Text} {t : Term}
      {p p' : Progress} :
      Audit.Publishes replies d r → outcome replies (tried s (left + 1) r d path) p = (.ok none, p') →
      r.redirect = some value → s.expandName value d = .ok target →
      Matches s replies left target (path ++ [target]) p'.counted.tally last r' t →
      Matches s replies (left + 1) d path p.tally last r' t

/-- The evaluation matches a term that denies, and the record that the term stands in is so explained. -/
def IsExplained (s : Setting) (replies : Query → Reply) (left : Nat) (d : Text) (path : List Text) (tally : Tally)
    (e : Text) : Prop :=
  ∃ last r t, Matches s replies left d path tally last r t ∧ t.qualifier = .fail ∧
    explanationOf s replies r last = .ok (some e)

section
variable {x : Step α} {f : α → Step β} {left : Nat} {d e : Text} {p : Progress}

theorem explained_behind (h : Silent replies x) (hnone : p.explanation = none)
    (hsome : (outcome replies (x >>= f) p).2.explanation = some e) :
    ∃ a p', outcome replies x p = (.ok a, p') ∧ p'.explanation = none ∧
      (outcome replies (f a) p').2.explanation = some e := by
  have hx := h p
  cases hrun : outcome replies x p with
  | mk o p' =>
    rw [hrun] at hx
    cases o with
    | ok a =>
      rw [outcome_bind_of_ok hrun] at hsome
      exact ⟨a, p', rfl, hx.trans hnone, hsome⟩
    | error stop =>
      rw [outcome_bind_of_error hrun] at hsome
      cases hsome.symm.trans (hx.trans hnone)

theorem explained_before (h : ∀ a, Silent replies (f a)) (p : Progress) :
    (outcome replies (x >>= f) p).2.explanation = (outcome replies x p).2.explanation := by
  cases hrun : outcome replies x p with
  | mk o p' =>
    cases o with
    | ok a => rw [outcome_bind_of_ok hrun, h a p']
    | error stop => rw [outcome_bind_of_error hrun]

theorem ofExcept_silent (x : Except Fault α) : Silent replies (Step.ofExcept x) := by
  intro p
  rw [Step.outcome_ofExcept]

theorem explain_explains (hnone : p.explanation = none)
    (hsome : (outcome replies (explain s r d) p).2.explanation = some e) :
    explanationOf s replies r d = .ok (some e) := by
  rw [explain_eq] at hsome
  unfold explanationOf
  match hexp : r.exp with
  | none =>
    rw [hexp] at hsome
    cases hnone.symm.trans hsome
  | some [] =>
    rw [hexp] at hsome
    cases hnone.symm.trans hsome
  | some (c :: rest) =>
    simp only [hexp] at hsome ⊢
    obtain ⟨target, p₁, htarget, hnone₁, hsome⟩ := explained_behind (ofExcept_silent _) hnone hsome
    obtain ⟨htarget, -⟩ := Step.ofExcept_eq_ok htarget
    rw [outcome_bind_of_ok (Step.outcome_query replies p₁ .texts target)] at hsome
    change (outcome replies (explainFrom s d target (soleText? (answerOf replies .texts target))) p₁).2.explanation =
      some e at hsome
    simp only [htarget]
    cases hsole : soleText? (answerOf replies .texts target) with
    | none =>
      rw [hsole] at hsome
      cases hnone₁.symm.trans hsome
    | some text =>
      rw [hsole] at hsome
      obtain ⟨explanation, p₂, hexpand, -, hsome⟩ := explained_behind (ofExcept_silent _) hnone₁ hsome
      obtain ⟨hexpand, -⟩ := Step.ofExcept_eq_ok hexpand
      rw [expandedText, hexpand]
      exact congrArg Except.ok hsome

theorem eq_fail_of_verdict {q : Qualifier} (h : q.verdict = .fail) : q = .fail := by
  cases q with
  | fail => rfl
  | _ => cases h

theorem redirect_explains {value : Text} (hnone : p.explanation = none)
    (hsome : (outcome replies (redirect s follow value d path explains) p).2.explanation = some e) :
    ∃ target p', s.expandName value d = .ok target ∧ p'.tally = p.counted.tally ∧ p'.explanation = none ∧
      (outcome replies (follow target (path ++ [target]) explains) p').2.explanation = some e := by
  unfold redirect at hsome
  obtain ⟨_, p₁, hcount, hnone₁, hsome₁⟩ := explained_behind (Silent.count _ _) hnone hsome
  obtain ⟨target, p₂, hread, hnone₂, hsome₂⟩ := explained_behind (ofExcept_silent _) hnone₁ hsome₁
  obtain ⟨htarget, hp₂⟩ := Step.ofExcept_eq_ok hread
  have hguard (p : Progress) : (outcome replies (guardLoop s .redirectLoop path target) p).2 = p := by
    unfold guardLoop
    split <;> rfl
  have hguarded : Silent replies (guardLoop s .redirectLoop path target) := fun p => by rw [hguard p]
  obtain ⟨_, p₃, hpassed, hnone₃, hsome₃⟩ := explained_behind hguarded hnone₂ hsome₂
  have hp₃ : p₃ = p₂ := by rw [← hguard p₂, hpassed]
  have hp₁ : p₁ = p.counted := by
    rw [Step.outcome_count] at hcount
    exact (Prod.mk.inj hcount).2.symm
  rw [outcome_bind_of_ok (Step.outcome_note replies p₃ _), explained_before] at hsome₃
  · refine ⟨target, p₃.noted _, htarget, ?_, hnone₃, hsome₃⟩
    simp only [Progress.noted, hp₃, hp₂, hp₁]
  · intro verdict p
    split <;> rfl

theorem evaluateRecord_explains {left : Nat} (hp : Audit.Publishes replies d r) (hnone : p.explanation = none)
    (hbelow : ∀ left', left = left' + 1 → ∀ target path p, p.explanation = none →
      (outcome replies (checkHost s left' target path explains) p).2.explanation = some e →
      IsExplained s replies left' target path p.tally e)
    (hsome : (outcome replies (evaluateRecord s (below s left) r d path explains) p).2.explanation = some e) :
    IsExplained s replies left d path p.tally e := by
  obtain ⟨found, p₁, htried, hnone₁, hsome₁⟩ := explained_behind (tried_silent s left r d path) hnone hsome
  match found with
  | some (t, o) =>
    cases o with
    | permerror => cases hnone₁.symm.trans hsome₁
    | temperror => cases hnone₁.symm.trans hsome₁
    | unmatched => exact absurd rfl (firstDecisive_ne_unmatched htried)
    | matched =>
      dsimp only at hsome₁
      rw [outcome_bind_of_ok (Step.outcome_note replies p₁ _)] at hsome₁
      split at hsome₁
      · rename_i hfail
        rw [explained_before fun _ _ => rfl] at hsome₁
        exact ⟨d, r, t, .here hp htried, eq_fail_of_verdict hfail.1, explain_explains (p := p₁.noted _) hnone₁ hsome₁⟩
      · cases hnone₁.symm.trans hsome₁
  | none =>
    dsimp only at hsome₁
    split at hsome₁
    · rename_i value hvalue
      obtain ⟨target, p₂, htarget, htally, hnone₂, hsome₂⟩ := redirect_explains hnone₁ hsome₁
      cases left with
      | zero => cases hnone₂.symm.trans hsome₂
      | succ left =>
        obtain ⟨last, r', t, hmatches, hrest⟩ := hbelow left rfl target _ p₂ hnone₂ hsome₂
        exact ⟨last, r', t, .redirected hp htried hvalue htarget (htally ▸ hmatches), hrest⟩
    · cases hnone₁.symm.trans hsome₁

theorem visit_explains {left : Nat} (hnone : p.explanation = none)
    (hbelow : ∀ left', left = left' + 1 → ∀ target path p, p.explanation = none →
      (outcome replies (checkHost s left' target path explains) p).2.explanation = some e →
      IsExplained s replies left' target path p.tally e)
    (hsome : (outcome replies (visit s (below s left) d path explains) p).2.explanation = some e) :
    IsExplained s replies left d path p.tally e := by
  by_cases hp : ∃ r, Audit.Publishes replies d r
  · obtain ⟨r, hp⟩ := hp
    obtain ⟨line, hrun⟩ := outcome_visit_of_publishes (s := s) hp (below s left) path explains p
    rw [hrun] at hsome
    exact evaluateRecord_explains (p := p.noted line) hp hnone hbelow hsome
  · obtain ⟨o, ho⟩ := visit_of_not_publishes (not_exists.mp hp)
    obtain ⟨trail, hrun⟩ := ho replies rfl s (below s left) path explains p
    rw [hrun] at hsome
    cases hnone.symm.trans hsome

theorem checkHost_explains {left : Nat} (hnone : p.explanation = none)
    (hsome : (outcome replies (checkHost s left d path explains) p).2.explanation = some e) :
    IsExplained s replies left d path p.tally e := by
  induction left generalizing d path p with
  | zero =>
    rw [checkHost_eq_visit] at hsome
    exact visit_explains hnone (fun _ hleft => nomatch hleft) hsome
  | succ left ih =>
    rw [checkHost_eq_visit] at hsome
    refine visit_explains hnone (fun left' hleft target path p hnone hsome => ?_) hsome
    cases hleft
    exact ih hnone hsome

end

/-- A result that explains is a failure, and it explains what the matching term's record names. -/
theorem evaluateDomain_explains {d e : Text} {result : Result} (h : (evaluateDomain s d).value replies = .ok result)
    (he : result.explanation = some e) :
    result.verdict = .fail ∧ IsExplained s replies s.limits.lookups.toNat d [d] {} e := by
  have htells := evaluateDomain_tells s replies d
  rw [h] at htells
  dsimp only at htells
  cases hverdict : endVerdict (outcome replies (checkHost s s.limits.lookups.toNat d [d] true) {}).1 with
  | error f =>
    rw [hverdict] at htells
    cases htells
  | ok verdict =>
    rw [hverdict] at htells
    obtain ⟨hsame, hrest⟩ := Prod.mk.inj (Except.ok.inj htells)
    have hexplained := (Prod.mk.inj hrest).2
    rw [he] at hexplained
    split at hexplained
    · rename_i hfail
      exact ⟨hsame.trans hfail, checkHost_explains (p := {}) rfl hexplained.symm⟩
    · cases hexplained

/-- What explains a failure is inert. For a message from an address without a zone, and under all limits: if the replies
differ in what is explained alone, then the verdict and the counts are the same, or the fault is, as long as no
explanation has more digits than are read. And a result explains nothing unless it is a failure, of a term that stands
in the record of the domain or of one that redirects alone have led to. -/
theorem evaluate_of_other_explanations (limits : Limits) (now : Int) (request : Request) (address : Address)
    (replies replies' : Query → Reply) (hip : Address.parse? request.ip = some address) (hscoped : ¬ address.IsScoped) :
    let s := Setting.ofRequest request address limits now
    let domain := Domain.normalized request.domain
    (SameButExplanations s domain replies replies' → HasShortExplanations s replies domain →
      HasShortExplanations s replies' domain →
      ((evaluate limits now request).value replies').map (fun r => (r.verdict, r.tally)) =
        ((evaluate limits now request).value replies).map fun r => (r.verdict, r.tally)) ∧
      ∀ result e, (evaluate limits now request).value replies = .ok result → result.explanation = some e →
        result.verdict = .fail ∧ IsExplained s replies limits.lookups.toNat domain [domain] {} e := by
  intro s domain
  by_cases hname : domain = []
  · have hnone : evaluate limits now request = return .ok { verdict := .none, trail := ["No domain to evaluate"] } := by
      unfold evaluate
      rw [show Domain.normalized request.domain = [] from hname]
      rfl
    rw [hnone]
    refine ⟨fun _ _ _ => rfl, fun result e hresult he => ?_⟩
    cases hresult
    cases he
  · rw [evaluate_eq_evaluateDomain hname hip]
    exact ⟨fun h hshort hshort' => evaluateDomain_inStep h hscoped hshort hshort',
      fun result e => evaluateDomain_explains⟩

def refusingZone (policy why : Text) : Zone := [
  (⟨.texts, "d.example"⟩, .records [.text "v=spf1 redirect=b.example"]),
  (⟨.texts, "b.example"⟩, .records [.text policy]),
  (⟨.texts, "e.example"⟩, .records [.text why])]

def handingRecord : Record := ⟨some Record.versionTag, [{ kind := .redirect, value := some "b.example" }]⟩

def refusingRecord : Record := ⟨some Record.versionTag, [{ kind := .all, qualifier := .fail }]⟩

def explainingRecord : Record :=
  ⟨some Record.versionTag, [{ kind := .all, qualifier := .fail }, { kind := .exp, value := some "e.example" }]⟩

theorem refusingZone_names :
    Domain.normalized "d.example" = "d.example" ∧ Domain.normalized "b.example" = "b.example" := by
  decide +kernel

theorem refusingZone_same {policy policy' why why' : Text}
    (hd : Audit.Publishes (refusingZone policy why).reply "d.example" handingRecord)
    (hb : Audit.Publishes (refusingZone policy why).reply "b.example" r)
    (hb' : Audit.Publishes (refusingZone policy' why').reply "b.example" r')
    (hr : unexplained r = refusingRecord) (hr' : unexplained r' = refusingRecord) :
    SameButExplanations s "d.example" (refusingZone policy why).reply (refusingZone policy' why').reply := by
  have hplace {d : Text} (hreached : ReflTransGen (Refers s (refusingZone policy why).reply) "d.example" d) :
      d = "d.example" ∨ d = "b.example" := by
    induction hreached with
    | refl => exact .inl rfl
    | tail _ hstep ih =>
      obtain rfl | rfl := ih
      · obtain ⟨r₁, hp, t, ht, hk, -⟩ | ⟨r₁, value, hp, hvalue, htarget⟩ := hstep
        · obtain rfl := hp.unique hd
          rw [List.mem_singleton.mp ht] at hk
          cases hk
        · obtain rfl := hp.unique hd
          cases hvalue
          rw [expandName_of_plain (by decide), refusingZone_names.2] at htarget
          exact .inr (Except.ok.inj htarget).symm
      · obtain ⟨r₁, hp, t, ht, hk, -⟩ | ⟨r₁, value, hp, hvalue, -⟩ := hstep
        · obtain rfl := hp.unique hb
          have hmem : t ∈ (unexplained r₁).terms := List.mem_filter.mpr ⟨ht, by rw [hk]; rfl⟩
          rw [hr] at hmem
          rw [List.mem_singleton.mp hmem] at hk
          cases hk
        · obtain rfl := hp.unique hb
          rw [← redirect_unexplained, hr] at hvalue
          cases hvalue
  constructor
  · intro q hq
    have hne (name : Text) : (⟨.texts, name⟩ : Query) ≠ q := fun heq => hq (heq ▸ rfl)
    simp [Zone.reply, refusingZone, hne]
  · intro d hreached
    obtain rfl | rfl := hplace hreached
    · rw [refusingZone_names.1]
      exact .inl rfl
    · exact .inr ⟨r, r', hb, hb', hr'.trans hr.symm⟩

theorem refusingZone_short {policy why : Text} (hpolicy : Macro.IsShort policy) (hwhy : Macro.IsShort why) :
    HasShortExplanations s (refusingZone policy why).reply "d.example" := by
  rintro d r text - - ⟨value, target, _, -, -, rfl, hsole⟩
  obtain ⟨entry, hentry, hreply⟩ | hmissing := reply_of_zone (refusingZone policy why) ⟨.texts, target⟩
  · rw [hreply] at hsole
    simp only [refusingZone, List.mem_cons, List.not_mem_nil, or_false] at hentry
    obtain rfl | rfl | rfl := hentry
    · cases hsole
      decide +kernel
    · cases hsole
      exact hpolicy
    · cases hsole
      exact hwhy
  · rw [hmissing] at hsole
    cases hsole

theorem refusingZone_told_alike :
    let request : Request := { domain := "d.example", ip := "192.0.2.1" }
    let s := Setting.ofRequest request (.v4 0xC0000201#32) {} 0
    let replies := (refusingZone "v=spf1 -all exp=e.example" "%{i} is refused by %{d}").reply
    let replies' := (refusingZone "v=spf1 -all" "%{i} is refused by %{d}").reply
    let told : Text := "192.0.2.1 is refused by b.example"
    ((evaluate {} 0 request).value replies').map (fun r => (r.verdict, r.tally)) =
        ((evaluate {} 0 request).value replies).map (fun r => (r.verdict, r.tally)) ∧
      ∃ result, (evaluate {} 0 request).value replies = .ok result ∧ result.tally = (⟨1, 0⟩ : Tally) ∧
        result.explanation = some told ∧ result.verdict = .fail ∧
        IsExplained s replies 10 "d.example" ["d.example"] {} told := by
  intro request s replies replies' told
  obtain ⟨hsame, hexplains⟩ := evaluate_of_other_explanations {} 0 request (.v4 0xC0000201#32) replies replies'
    (by decide +kernel) (by decide)
  have hname : Domain.normalized request.domain = "d.example" := refusingZone_names.1
  rw [hname] at hsame hexplains
  have hd : Audit.Publishes replies "d.example" handingRecord :=
    Audit.publishes_of_checks (by decide +kernel) (by decide +kernel)
  have hb : Audit.Publishes replies "b.example" explainingRecord :=
    Audit.publishes_of_checks (by decide +kernel) (by decide +kernel)
  have hb' : Audit.Publishes replies' "b.example" refusingRecord :=
    Audit.publishes_of_checks (by decide +kernel) (by decide +kernel)
  have hrun : ((evaluate {} 0 request).value replies).toOption.map (fun r => (r.tally, r.explanation)) =
      some ((⟨1, 0⟩ : Tally), some told) := by decide +kernel
  refine ⟨hsame (refusingZone_same hd hb hb' rfl rfl) (refusingZone_short (by decide +kernel) (by decide +kernel))
    (refusingZone_short (by decide +kernel) (by decide +kernel)), ?_⟩
  obtain ⟨result, hresult, htold⟩ := Option.map_eq_some_iff.mp hrun
  obtain ⟨htally, he⟩ := Prod.mk.inj htold
  have hvalue := eq_ok_of_toOption hresult
  obtain ⟨hverdict, hexplained⟩ := hexplains result _ hvalue he
  exact ⟨result, hvalue, htally, he, hverdict, hexplained⟩

/-- An explanation with too many digits ends the evaluation in a fault. -/
theorem long_explanation_has_no_result :
    ¬ ∀ (limits : Limits) (now : Int) (request : Request) (address : Address) (replies replies' : Query → Reply),
      Address.parse? request.ip = some address → ¬ address.IsScoped →
      SameButExplanations (.ofRequest request address limits now) (Domain.normalized request.domain) replies replies' →
      ((evaluate limits now request).value replies').map (fun r => (r.verdict, r.tally)) =
        ((evaluate limits now request).value replies).map fun r => (r.verdict, r.tally) := by
  intro h
  let request : Request := { domain := "d.example", ip := "192.0.2.1" }
  let replies := (refusingZone "v=spf1 -all" "").reply
  let replies' := (refusingZone "v=spf1 -all exp=e.example" (Macro.onesMacro 4301)).reply
  have hd : Audit.Publishes replies "d.example" handingRecord :=
    Audit.publishes_of_checks (by decide +kernel) (by decide +kernel)
  have hb : Audit.Publishes replies "b.example" refusingRecord :=
    Audit.publishes_of_checks (by decide +kernel) (by decide +kernel)
  have hb' : Audit.Publishes replies' "b.example" explainingRecord :=
    Audit.publishes_of_checks (by decide +kernel) (by decide +kernel)
  have hsame := h {} 0 request (.v4 0xC0000201#32) replies replies' (by decide +kernel) (by decide)
    (refusingZone_names.1 ▸ refusingZone_same hd hb hb' rfl rfl)
  have hfails : ((evaluate {} 0 request).value replies).toOption.isSome = true := by decide +kernel
  have hfaults : ((evaluate {} 0 request).value replies').toOption = none := by decide +kernel
  cases hresult : (evaluate {} 0 request).value replies with
  | error f =>
    rw [hresult] at hfails
    cases hfails
  | ok result =>
    cases hresult' : (evaluate {} 0 request).value replies' with
    | ok result' =>
      rw [hresult'] at hfaults
      cases hfaults
    | error f =>
      rw [hresult, hresult'] at hsame
      cases hsame

end SenderPolicy.Evaluation
