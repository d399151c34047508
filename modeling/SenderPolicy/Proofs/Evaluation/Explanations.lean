import Mathlib.Logic.Relation
import SenderPolicy.Proofs.Evaluation.Returning
import SenderPolicy.Proofs.Evaluation.Settling

/-!
What explains a failure decides nothing. Where the records that an evaluation may come to differ in their explanations
alone, it ends alike and counts the same.
-/
namespace SenderPolicy.Evaluation
open Dns Dns.Work Relation
variable {α β : Type} {s : Setting} {replies replies' : Query → Reply} {domain target text : Text} {path : List Text}
  {r r' : Record} {explains : Bool} {follow follow' : Follow}

/-! Records that differ in their explanations alone -/

/-- The valid record of the domain has a redirect to the target. -/
def HandsOver (s : Setting) (replies : Query → Reply) (domain target : Text) : Prop :=
  ∃ r value, Audit.Publishes replies domain r ∧ r.redirect = some value ∧ s.expandName value domain = .ok target

/-- The valid record of the domain has an include of the target. -/
def Includes (s : Setting) (replies : Query → Reply) (domain target : Text) : Prop :=
  ∃ r, Audit.Publishes replies domain r ∧ ∃ t ∈ r.terms, t.kind = .inclusion ∧ s.target t domain = .ok target

/-- An evaluation that has come to the domain may go on to the target, whatever matches. -/
def Refers (s : Setting) (replies : Query → Reply) (domain target : Text) : Prop :=
  Includes s replies domain target ∨ HandsOver s replies domain target

theorem not_refers (hp : Audit.Publishes replies domain r) (hincludes : ∀ t ∈ r.terms, t.kind ≠ .inclusion)
    (hredirect : r.redirect = none) (target : Text) : ¬ Refers s replies domain target := by
  rintro (⟨r', hp', t, ht, hk, -⟩ | ⟨r', value, hp', hvalue, -⟩)
  · rw [hp'.unique hp] at ht
    exact hincludes t ht hk
  · rw [hp'.unique hp, hredirect] at hvalue
    cases hvalue

/-- The record without the modifiers that name an explanation. -/
def unexplained (r : Record) : Record := r.withTerms (r.terms.filter fun t => t.kind != .exp)

/-- The replies are the same but for what is explained. The texts of a domain that the evaluation may come to are the
same, or they are valid records that differ in their explanations; at names that it never comes to, where explanations
are fetched, the texts are left open. -/
structure SameButExplanations (s : Setting) (domain : Text) (replies replies' : Query → Reply) : Prop where
  others : ∀ q, q.topic ≠ .texts → replies' q = replies q
  records : ∀ d, ReflTransGen (Refers s replies) domain d →
    replies' ⟨.texts, Domain.normalized d⟩ = replies ⟨.texts, Domain.normalized d⟩ ∨
      ∃ r r', Audit.Publishes replies d r ∧ Audit.Publishes replies' d r' ∧ unexplained r' = unexplained r

/-- No explanation that can be fetched for the domain, or for one that it hands over to, has a macro with more digits
than are read. -/
def HasShortExplanations (s : Setting) (replies : Query → Reply) (domain : Text) : Prop :=
  ∀ d r text, ReflTransGen (HandsOver s replies) domain d → Audit.Publishes replies d r →
    ServesExplanation (fun q reply => reply = replies q) s r d text → Macro.IsShort text

theorem mechanismsOf_unexplained (r : Record) : mechanismsOf (unexplained r).terms = mechanismsOf r.terms := by
  simp only [unexplained, Record.withTerms, mechanismsOf, List.filter_filter]
  refine List.filter_congr fun t _ => ?_
  cases hk : t.kind <;> simp [Term.isModifier, Kind.isModifier, hk]

theorem redirect_unexplained (r : Record) : (unexplained r).redirect = r.redirect := by
  simp only [unexplained, Record.redirect, Record.valueOf, Record.withTerms, List.find?_filter]
  congr 2
  funext t
  cases hk : t.kind <;> simp

/-! Explanations without a fault -/

theorem expand_returns_of_short (hscoped : ¬ s.address.IsScoped) (h : Macro.IsShort text) (domain : Text) :
    ∃ t, s.expand text domain = .ok t := by
  unfold Setting.expand
  split
  · refine (Macro.expand_returns_iff _ _).mpr ⟨h, ?_⟩
    rintro ⟨a, hparse, ha⟩
    exact absurd (Address.percent_mem_of_parse? hparse ha) (Address.percent_notin_text hscoped)
  · exact ⟨text, rfl⟩

theorem isExpandable_of_exp {value : Text} (hvalid : Audit.IsValid r) (hscoped : ¬ s.address.IsScoped)
    (hexp : r.exp = some value) : IsExpandable s.address value := by
  obtain ⟨t, ht, hk, hvalue⟩ := exists_term_of_valueOf hexp
  obtain ⟨-, -, -, hmacros⟩ := Audit.checkTerm_eq_ok (hvalid.checkTerm t ht)
  refine ⟨?_, fun h => absurd h hscoped⟩
  have hname : Audit.takesName t.kind = true := by rw [hk]; rfl
  simp only [Audit.checkMacros, hvalue, hname, if_true] at hmacros
  split at hmacros
  · assumption
  · cases hmacros
  · cases hmacros

theorem explanation_returns (hvalid : Audit.IsValid r) (hscoped : ¬ s.address.IsScoped)
    (hshort : ∀ text, ServesExplanation (fun q reply => reply = replies q) s r domain text → Macro.IsShort text) :
    ∃ e, explanationOf s replies r domain = .ok e := by
  unfold explanationOf
  split
  · exact ⟨none, rfl⟩
  · exact ⟨none, rfl⟩
  · rename_i value _ hexp
    obtain ⟨target, htarget⟩ := expandName_returns (isExpandable_of_exp hvalid hscoped hexp) domain
    simp only [htarget]
    cases hsole : soleText? (answerOf replies .texts target) with
    | none => exact ⟨none, rfl⟩
    | some text =>
      obtain ⟨t, ht⟩ := expand_returns_of_short hscoped (hshort text ⟨value, target, _, hexp, htarget, rfl, hsole⟩) domain
      exact ⟨some t, by rw [expandedText, ht]; rfl⟩

/-! Two evaluations -/

def InStep (replies replies' : Query → Reply) (x y : Step α) : Prop :=
  ∀ p q : Progress, q.tally = p.tally → EndAlike Eq (outcome replies x p) (outcome replies' y q)

namespace InStep
variable {x y : Step α} {f g : α → Step β}

theorem pure (a : α) : InStep replies replies' (pure a) (Pure.pure a : Step α) := fun _ _ htally => ⟨rfl, htally⟩

theorem throw (e : Stop) : InStep replies replies' (throw e : Step α) (throw e) := fun _ _ htally => ⟨rfl, htally⟩

theorem bind (h : InStep replies replies' x y) (hf : ∀ a, InStep replies replies' (f a) (g a)) :
    InStep replies replies' (x >>= f) (y >>= g) := by
  intro p q htally
  have hend := h p q htally
  cases hx : outcome replies x p with
  | mk o p' =>
    cases hy : outcome replies' y q with
    | mk o' q' =>
      rw [hx, hy] at hend
      cases o with
      | ok a =>
        cases o' with
        | ok b =>
          obtain ⟨rfl, htally'⟩ := hend
          rw [outcome_bind_of_ok hx, outcome_bind_of_ok hy]
          exact hf a p' q' htally'
        | error e' => exact hend.elim
      | error e =>
        cases o' with
        | ok b => exact hend.elim
        | error e' =>
          rw [outcome_bind_of_error hx, outcome_bind_of_error hy]
          exact hend

theorem note (parts : List Text) : InStep replies replies' (Step.note parts) (Step.note parts) :=
  fun _ _ htally => ⟨rfl, htally⟩

theorem ofPlan {x y : Plan α} (h : y.value replies' = x.value replies) :
    InStep replies replies' (Step.ofPlan x) (Step.ofPlan y) := by
  intro p q htally
  rw [Step.ofPlan_eq, Step.ofPlan_eq, outcome_ofPlan, outcome_ofPlan]
  exact ⟨h.symm, htally⟩

theorem count (limits : Limits) (label : Text) :
    InStep replies replies' (Step.count limits label) (Step.count limits label) := by
  intro p q htally
  have hcounted : q.counted.tally = p.counted.tally := by simp only [Progress.counted, htally]
  rw [Step.outcome_count, Step.outcome_count, htally]
  split
  · exact ⟨rfl, hcounted⟩
  · exact ⟨rfl, hcounted⟩

theorem countVoid (limits : Limits) (label : Text) :
    InStep replies replies' (Step.countVoid limits label) (Step.countVoid limits label) := by
  intro p q htally
  have hvoided : q.voided.tally = p.voided.tally := by simp only [Progress.voided, htally]
  rw [Step.outcome_countVoid, Step.outcome_countVoid, htally]
  split
  · exact ⟨rfl, hvoided⟩
  · exact ⟨rfl, hvoided⟩

end InStep

def inStep (h : ∀ q, q.topic ≠ .texts → replies' q = replies q) (s : Setting) : Congruence s s.limits where
  Rel := InStep replies replies'
  pure := .pure
  bind := .bind
  note := .note
  query name htopic := .ofPlan (congrArg Answer.ofReply (h ⟨_, name⟩ htopic))
  queryAll names htopic := .ofPlan <| by
    simp only [Step.value_queryAll, h ⟨_, _⟩ htopic]
  count := .count s.limits
  countVoid := .countVoid s.limits
  includeLoop _ := .throw _
  redirectLoop _ := .throw _

/-- Explanations that can be read count nothing, whatever they are. -/
theorem explain_inStep {e e' : Option Text} (h : explanationOf s replies r domain = .ok e)
    (h' : explanationOf s replies' r' domain = .ok e') :
    InStep replies replies' (explain s r domain) (explain s r' domain) := by
  intro p q htally
  obtain ⟨p', hrun, hp, -⟩ := explain_of_ok h p
  obtain ⟨q', hrun', hq, -⟩ := explain_of_ok h' q
  rw [hrun, hrun']
  exact ⟨rfl, hq.trans (htally.trans hp.symm)⟩

/-! Visits -/

theorem visit_of_not_publishes (h : ∀ r, ¬ Audit.Publishes replies domain r) :
    ∃ o, ∀ replies', (published domain).value replies' = (published domain).value replies →
      ∀ s follow path explains p, ∃ trail,
        outcome replies' (visit s follow domain path explains) p = (o, { p with trail }) := by
  cases hpub : (published domain).value replies with
  | error u =>
    refine ⟨.ok u.verdict, fun replies' hsame s follow path explains p => ?_⟩
    have hfetch : outcome replies' (Step.ofPlan (published domain)) p = (.ok (.error u), p) :=
      hsame ▸ outcome_ofPlan replies' _ p
    unfold visit
    rw [outcome_bind_of_ok hfetch]
    exact ⟨_, rfl⟩
  | ok publication =>
    have hfetch (replies' : Query → Reply) (hsame : (published domain).value replies' = .ok publication)
        (p : Progress) : outcome replies' (Step.ofPlan (published domain)) p = (.ok (.ok publication), p) :=
      hsame ▸ outcome_ofPlan replies' _ p
    cases ha : Audit.auditText publication.record with
    | error f =>
      refine ⟨.error (.fault f), fun replies' hsame s follow path explains p => ?_⟩
      unfold visit
      rw [outcome_bind_of_ok (hfetch replies' hsame p)]
      dsimp only
      rw [outcome_bind_of_ok (Step.outcome_note replies' p _), ha]
      exact ⟨_, rfl⟩
    | ok a =>
      refine ⟨.ok .permerror, fun replies' hsame s follow path explains p => ?_⟩
      unfold visit
      rw [outcome_bind_of_ok (hfetch replies' hsame p)]
      dsimp only
      have hread (q : Progress) :
          outcome replies' (Step.ofExcept (Audit.auditText publication.record)) q = (.ok a, q) := by
        rw [Step.outcome_ofExcept, ha]
        rfl
      rw [outcome_bind_of_ok (Step.outcome_note replies' p _), outcome_bind_of_ok (hread _)]
      split
      · rename_i record hparse hvalid
        exact absurd ⟨publication, hpub, hparse, .of_auditText hparse ha hvalid⟩ (h record)
      · have hend : Comparison.Steady replies' (do
            noteAll domain (a.problems Audit.defaultMarker)
            return Verdict.permerror) Verdict.permerror := (Comparison.Steady.noteAll domain _).bind (.pure _)
        exact hend _

theorem published_congr
    (h : replies' ⟨.texts, Domain.normalized domain⟩ = replies ⟨.texts, Domain.normalized domain⟩) :
    (published domain).value replies' = (published domain).value replies := by
  simp only [published, Plan.value_bind, Plan.query, Plan.value, h]
  rfl

/-- The evaluation from the start may come to the domain; it explains a failure there only if redirects alone have
led to it. -/
structure IsReached (s : Setting) (replies replies' : Query → Reply) (start d : Text) (explains : Bool) : Prop where
  referred : ReflTransGen (Refers s replies) start d
  handed : explains = true → ReflTransGen (HandsOver s replies) start d
  handed' : explains = true → ReflTransGen (HandsOver s replies') start d

def FollowsInStep (s : Setting) (replies replies' : Query → Reply) (start : Text) (follow : Follow) : Prop :=
  ∀ d path explains, IsReached s replies replies' start d explains →
    InStep replies replies' (follow d path explains) (follow d path explains)

section
variable {start d : Text} (h : SameButExplanations s start replies replies') (hscoped : ¬ s.address.IsScoped)
  (hshort : HasShortExplanations s replies start) (hshort' : HasShortExplanations s replies' start)
include h hscoped hshort hshort'

theorem evaluateRecord_inStep (hf : FollowsInStep s replies replies' start follow)
    (hreached : IsReached s replies replies' start d explains) (hp : Audit.Publishes replies d r)
    (hp' : Audit.Publishes replies' d r') (hsame : unexplained r' = unexplained r) :
    InStep replies replies' (evaluateRecord s follow r d path explains)
      (evaluateRecord s follow r' d path explains) := by
  have hterms : mechanismsOf r'.terms = mechanismsOf r.terms := by
    rw [← mechanismsOf_unexplained, hsame, mechanismsOf_unexplained]
  have hredirect : r'.redirect = r.redirect := by
    rw [← redirect_unexplained, hsame, redirect_unexplained]
  have hreads {α : Type} (x : Except Fault α) : (inStep h.others s).Reads x :=
    (inStep h.others s).reads_of_fault (fun _ => .throw _) x
  refine (inStep h.others s).evaluateRecord 
    ⟨fun _ _ _ _ _ _ => hreads _, ?_, fun _ _ => hreads _, ?_⟩ hterms hredirect fun hexplains => ?_
  · intro t ht hk target htarget path
    refine hf target path false ⟨hreached.referred.tail (.inl ⟨r, hp, t, ht, hk, htarget⟩), ?_, ?_⟩
    · exact fun hfalse => nomatch hfalse
    · exact fun hfalse => nomatch hfalse
  · intro value hvalue target htarget path
    have hhands : HandsOver s replies d target := ⟨r, value, hp, hvalue, htarget⟩
    have hhands' : HandsOver s replies' d target := ⟨r', value, hp', hredirect.trans hvalue, htarget⟩
    exact hf target path explains ⟨hreached.referred.tail (.inr hhands),
      fun he => (hreached.handed he).tail hhands, fun he => (hreached.handed' he).tail hhands'⟩
  · obtain ⟨_, _, _, hvalid⟩ := id hp
    obtain ⟨_, _, _, hvalid'⟩ := id hp'
    obtain ⟨e, he⟩ := explanation_returns hvalid hscoped fun text => hshort d r text (hreached.handed hexplains) hp
    obtain ⟨e', he'⟩ := explanation_returns hvalid' hscoped fun text =>
      hshort' d r' text (hreached.handed' hexplains) hp'
    exact explain_inStep he he'

theorem visit_inStep (hf : FollowsInStep s replies replies' start follow) :
    FollowsInStep s replies replies' start (visit s follow) := by
  intro d path explains hreached
  have published {r r' : Record} (hp : Audit.Publishes replies d r) (hp' : Audit.Publishes replies' d r')
      (hsame : unexplained r' = unexplained r) :
      InStep replies replies' (visit s follow d path explains) (visit s follow d path explains) := by
    intro p q htally
    obtain ⟨line, hrun⟩ := outcome_visit_of_publishes hp follow path explains p
    obtain ⟨line', hrun'⟩ := outcome_visit_of_publishes hp' follow path explains q
    rw [hrun, hrun']
    exact evaluateRecord_inStep h hscoped hshort hshort' hf hreached hp hp' hsame _ _ htally
  obtain heq | ⟨r, r', hp, hp', hsame⟩ := h.records d hreached.referred
  · have hpub := published_congr heq
    by_cases hp : ∃ r, Audit.Publishes replies d r
    · obtain ⟨r, hp⟩ := hp
      have hp' : Audit.Publishes replies' d r := by
        obtain ⟨publication, hvalue, hrest⟩ := hp
        exact ⟨publication, hpub.trans hvalue, hrest⟩
      exact published hp hp' rfl
    · obtain ⟨o, ho⟩ := visit_of_not_publishes (not_exists.mp hp)
      intro p q htally
      obtain ⟨trail, hrun⟩ := ho replies rfl s follow path explains p
      obtain ⟨trail', hrun'⟩ := ho replies' hpub s follow path explains q
      rw [hrun, hrun']
      cases o with
      | ok verdict => exact ⟨rfl, htally⟩
      | error stop => exact ⟨rfl, htally⟩
  · exact published hp hp' hsame

theorem checkHost_inStep (left : Nat) : FollowsInStep s replies replies' start (checkHost s left) := by
  induction left with
  | zero => exact visit_inStep h hscoped hshort hshort' fun _ _ _ _ => .pure _
  | succ left ih => exact visit_inStep h hscoped hshort hshort' ih

/-- Under both replies the evaluation comes to one verdict and one tally, or to one fault. -/
theorem evaluateDomain_inStep :
    ((evaluateDomain s start).value replies').map (fun r => (r.verdict, r.tally)) =
      ((evaluateDomain s start).value replies).map fun r => (r.verdict, r.tally) := by
  have hend := checkHost_inStep h hscoped hshort hshort' s.limits.lookups.toNat start [start] true
    ⟨.refl, fun _ => .refl, fun _ => .refl⟩ {} {} rfl
  rw [evaluateDomain_judges, evaluateDomain_judges]
  dsimp only
  rw [hend.endVerdict_eq, hend.tally_eq]

end

end SenderPolicy.Evaluation
