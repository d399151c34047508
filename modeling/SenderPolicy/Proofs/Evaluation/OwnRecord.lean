import SenderPolicy.Proofs.Evaluation.Explanations

/-!
How often an evaluation asks for the record that it starts from. Loops are told by names, and a name that is normalized
once more can be another one. Where each name that is met is its own normal form, no way leads back to the start, so that
its record is asked for once; only an explanation can ask for it again.
-/
namespace SenderPolicy.Evaluation
open Dns Dns.Work Relation
variable {α β : Type} {s : Setting} {replies : Query → Reply} {start domain target label : Text} {path : List Text}
  {r : Record} {explains : Bool} {follow follow' : Follow}

/-! Steps that do not ask for a text -/

def Avoids (replies : Query → Reply) (name : Text) (x : Step α) : Prop :=
  ∀ p, ⟨.texts, name⟩ ∉ asks replies x p

namespace Avoids
variable {name : Text} {x : Step α} {f : α → Step β}

theorem of_asks_nil (h : ∀ p, asks replies x p = []) : Avoids replies name x := fun p => by simp [h p]

theorem pure (a : α) : Avoids replies name (Pure.pure a : Step α) := of_asks_nil fun _ => rfl

theorem throw (stop : Stop) : Avoids replies name (throw stop : Step α) := of_asks_nil fun _ => rfl

theorem bind (h : Avoids replies name x)
    (hf : ∀ a p p', outcome replies x p = (.ok a, p') → Avoids replies name (f a)) :
    Avoids replies name (x >>= f) := by
  intro p hmem
  cases hx : outcome replies x p with
  | mk o p' =>
    cases o with
    | error stop =>
      rw [asks_bind_of_error hx] at hmem
      exact h p hmem
    | ok a =>
      rw [asks_bind_of_ok hx] at hmem
      obtain hmem | hmem := List.mem_append.mp hmem
      · exact h p hmem
      · exact hf a p p' hx p' hmem

theorem ofPlan {x : Plan α} (h : ⟨.texts, name⟩ ∉ x.queries replies) : Avoids replies name (Step.ofPlan x) := by
  intro p hmem
  rw [Step.ofPlan_eq, asks, run_ofPlan, Plan.queries_bind] at hmem
  obtain hmem | hmem := List.mem_append.mp hmem
  · exact h hmem
  · cases hmem

theorem ofExcept (x : Except Fault α) : Avoids replies name (Step.ofExcept x) := by
  cases x with
  | ok a => exact .pure a
  | error f => exact .throw _

theorem count (limits : Limits) (term : Text) : Avoids replies name (Step.count limits term) := by
  refine of_asks_nil fun p => ?_
  rw [asks, Step.run_count]
  rfl

theorem countVoid (limits : Limits) (term : Text) : Avoids replies name (Step.countVoid limits term) := by
  refine of_asks_nil fun p => ?_
  rw [asks, Step.run_countVoid]
  rfl

end Avoids

def avoiding (replies : Query → Reply) (name : Text) (s : Setting) : Congruence s s.limits where
  Rel x _ := Avoids replies name x
  pure := .pure
  bind h hf := h.bind fun a _ _ _ => hf a
  note _ := .of_asks_nil fun _ => rfl
  query n htopic := .ofPlan fun hmem => htopic (congrArg Query.topic (List.mem_singleton.mp hmem)).symm
  queryAll names htopic := .ofPlan fun hmem => by
    rw [Step.queries_queryAll] at hmem
    obtain ⟨n, -, hn⟩ := List.mem_map.mp hmem
    exact htopic (congrArg Query.topic hn)
  count := .count s.limits
  countVoid := .countVoid s.limits
  includeLoop _ := .throw _
  redirectLoop _ := .throw _

/-! Not coming back -/

/-- Follows as before, but to the start, or on a path without it. -/
def sparing (start : Text) (follow : Follow) : Follow := fun target path explains =>
  if target = start ∨ start ∉ path then return .permerror else follow target path explains

theorem guardLoop_congr {stop : List Text → Stop} {x y : Step α}
    (h : ¬ (s.endsLoops ∧ path.contains target) → x = y) :
    (guardLoop s stop path target >>= fun _ => x) = guardLoop s stop path target >>= fun _ => y := by
  unfold guardLoop
  split
  · rfl
  · rename_i hnew
    rw [h hnew]

section
variable (hends : s.endsLoops = true) (hstart : start ∈ path)
include hends hstart

theorem sparing_eq (hnew : ¬ (s.endsLoops ∧ path.contains target)) :
    sparing start follow target (path ++ [target]) = follow target (path ++ [target]) := by
  have hne : ¬ (target = start ∨ start ∉ path ++ [target]) := by
    rintro (rfl | hnot)
    · exact hnew ⟨hends, List.contains_iff_mem.mpr hstart⟩
    · exact hnot (List.mem_append_left _ hstart)
  funext explains
  exact if_neg hne

theorem matchInclude_sparing :
    matchInclude s (sparing start follow) label target path = matchInclude s follow label target path :=
  guardLoop_congr fun hnew => by rw [sparing_eq hends hstart hnew]

theorem matchTerm_sparing (t : Term) :
    matchTerm s (sparing start follow) domain path t = matchTerm s follow domain path t := by
  unfold matchTerm
  simp only [matchInclude_sparing hends hstart]

theorem redirect_sparing (value : Text) (explains : Bool) :
    redirect s (sparing start follow) value domain path explains = redirect s follow value domain path explains :=
  bind_congr fun _ => bind_congr fun _ => guardLoop_congr fun hnew => by rw [sparing_eq hends hstart hnew]

/-- Where the start is on the path, loops are ended before they lead back to it. -/
theorem evaluateRecord_sparing (r : Record) (explains : Bool) :
    evaluateRecord s (sparing start follow) r domain path explains =
      evaluateRecord s follow r domain path explains := by
  unfold evaluateRecord
  simp only [funext (matchTerm_sparing hends hstart), redirect_sparing hends hstart]

end

/-- Wherever the evaluation may come to from the start, on a path with the start, following does not ask for the start's
texts. -/
def FollowsAway (s : Setting) (replies : Query → Reply) (start : Text) (follow : Follow) : Prop :=
  ∀ d path, ReflTransGen (Refers s replies) start d → d ≠ start → start ∈ path →
    Avoids replies start (follow d path false)

section
variable (hends : s.endsLoops = true)
  (hnormal : ∀ d, ReflTransGen (Refers s replies) start d → Domain.normalized d = d)
include hends

theorem evaluateRecord_avoids (hf : FollowsAway s replies start follow)
    (hreached : ReflTransGen (Refers s replies) start domain) (hp : Audit.Publishes replies domain r)
    (hstart : start ∈ path) : Avoids replies start (evaluateRecord s follow r domain path false) := by
  rw [← evaluateRecord_sparing hends hstart]
  have hreads {α : Type} (x : Except Fault α) : (avoiding replies start s).Reads x :=
    (avoiding replies start s).reads_of_fault (fun _ => .throw _) x
  have hfollows (d : Text) (hd : Refers s replies domain d) :
      (avoiding replies start s).FollowsTo (sparing start follow) (sparing start follow) false d := by
    intro path
    unfold sparing
    split
    · exact Avoids.pure _
    · rename_i hne
      obtain ⟨hne, hmem⟩ := not_or.mp hne
      exact hf d path (hreached.tail hd) hne (not_not.mp hmem)
  exact (avoiding replies start s).evaluateRecord
    ⟨fun _ _ _ _ _ _ => hreads _, fun t ht hk d hd => hfollows d (.inl ⟨r, hp, t, ht, hk, hd⟩), fun _ _ => hreads _,
      fun value hvalue d hd => hfollows d (.inr ⟨r, value, hp, hvalue, hd⟩)⟩
    rfl rfl fun hfalse => nomatch hfalse

include hnormal

theorem visit_away (hf : FollowsAway s replies start follow) : FollowsAway s replies start (visit s follow) := by
  intro d path hreached hne hstart
  have hother : ⟨.texts, start⟩ ∉ (published d).queries replies := by
    intro hmem
    have heq : start = Domain.normalized d := congrArg Query.name (List.mem_singleton.mp hmem)
    exact hne ((heq.trans (hnormal d hreached)).symm)
  refine Avoids.bind (.ofPlan hother) fun fetched p p' hfetched => ?_
  rw [Step.ofPlan_eq, outcome_ofPlan] at hfetched
  cases fetched with
  | error u => exact .bind (.of_asks_nil fun _ => rfl) fun _ _ _ _ => .pure _
  | ok publication =>
    refine .bind (.of_asks_nil fun _ => rfl) fun _ _ _ _ => .bind (.ofExcept _) fun a q q' ha => ?_
    split
    · rename_i record hparse hvalid
      have hpub : (published d).value replies = .ok publication := Except.ok.inj (Prod.mk.inj hfetched).1
      have hp : Audit.Publishes replies d record :=
        ⟨publication, hpub, hparse, .of_auditText hparse (Step.ofExcept_eq_ok ha).1 hvalid⟩
      exact evaluateRecord_avoids hends hf hreached hp hstart
    · exact ((avoiding replies start s).noteAll d _).bind fun _ _ _ _ => .pure _

theorem below_away (left : Nat) : FollowsAway s replies start (below s left) := by
  induction left with
  | zero => exact fun _ _ _ _ _ => .pure _
  | succ left ih =>
    rw [below_succ]
    exact visit_away hends hnormal ih

end

/-! Verdicts that are not explained -/

/-- Where the first step comes to a verdict that is no failure, the second asks the same and comes to the same. -/
def AlikeUnlessFailing (replies : Query → Reply) (x y : Step Verdict) : Prop :=
  ∀ p v p', outcome replies x p = (.ok v, p') → v ≠ .fail →
    outcome replies y p = (.ok v, p') ∧ asks replies y p = asks replies x p

namespace AlikeUnlessFailing
variable {x y : Step Verdict}

theorem refl (x : Step Verdict) : AlikeUnlessFailing replies x x := fun _ _ _ h _ => ⟨h, rfl⟩

theorem behind {x : Step α} {f g : α → Step Verdict} (h : ∀ a, AlikeUnlessFailing replies (f a) (g a)) :
    AlikeUnlessFailing replies (x >>= f) (x >>= g) := by
  intro p v p' hrun hv
  obtain ⟨a, p₁, hx, hf⟩ := bind_eq_ok hrun
  obtain ⟨hg, hasks⟩ := h a p₁ v p' hf hv
  rw [outcome_bind_of_ok hx, asks_bind_of_ok hx, asks_bind_of_ok hx, hasks]
  exact ⟨hg, rfl⟩

theorem before {f : Verdict → Step Verdict} (h : AlikeUnlessFailing replies x y)
    (hf : ∀ p, outcome replies (f .fail) p = (.ok .fail, p)) :
    AlikeUnlessFailing replies (x >>= f) (y >>= f) := by
  intro p v p' hrun hv
  obtain ⟨w, p₁, hx, hrest⟩ := bind_eq_ok hrun
  have hw : w ≠ .fail := by
    rintro rfl
    rw [hf] at hrest
    cases hrest
    exact hv rfl
  obtain ⟨hy, hasks⟩ := h p w p₁ hx hw
  rw [outcome_bind_of_ok hy, asks_bind_of_ok hy, asks_bind_of_ok hx, hasks]
  exact ⟨hrest, rfl⟩

end AlikeUnlessFailing

def ExplainsFailures (replies : Query → Reply) (follow : Follow) : Prop :=
  ∀ d path, AlikeUnlessFailing replies (follow d path true) (follow d path false)

theorem evaluateRecord_explainsFailures (hf : ExplainsFailures replies follow) (r : Record) (domain : Text)
    (path : List Text) :
    AlikeUnlessFailing replies (evaluateRecord s follow r domain path true)
      (evaluateRecord s follow r domain path false) := by
  refine .behind fun found => ?_
  split
  · exact .refl _
  · exact .refl _
  · rename_i t o hmatched herror
    refine .behind fun _ => ?_
    by_cases hfail : t.qualifier.verdict = .fail
    · intro p v p' hrun hv
      simp only [hfail, true_and, if_true] at hrun
      obtain ⟨_, _, -, hend⟩ := bind_eq_ok hrun
      cases hend
      exact absurd rfl hv
    · simp only [hfail, false_and]
      exact .refl _
  · split
    · exact .behind fun _ => .behind fun target => .behind fun _ => .behind fun _ =>
        (hf target _).before fun _ => rfl
    · exact .refl _

theorem visit_explainsFailures (hf : ExplainsFailures replies follow) : ExplainsFailures replies (visit s follow) := by
  intro d path
  refine .behind fun fetched => ?_
  cases fetched with
  | error u => exact .refl _
  | ok publication =>
    refine .behind fun _ => .behind fun a => ?_
    split
    · exact evaluateRecord_explainsFailures hf _ d path
    · exact .refl _

theorem below_explainsFailures (left : Nat) : ExplainsFailures replies (below s left) := by
  induction left with
  | zero => exact fun _ _ => .refl _
  | succ left ih =>
    rw [below_succ]
    exact visit_explainsFailures ih

/-- Where the names that are met are their own normal forms, the record of a domain is asked for once, unless the
evaluation fails or ends in an error. -/
theorem count_own_record {result : Result} (hends : s.endsLoops = true)
    (hnormal : ∀ d, ReflTransGen (Refers s replies) domain d → Domain.normalized d = d)
    (hp : Audit.Publishes replies domain r) (h : (evaluateDomain s domain).value replies = .ok result)
    (hfail : result.verdict ≠ .fail) (herror : result.verdict ≠ .permerror) :
    ((evaluateDomain s domain).queries replies).count ⟨.texts, Domain.normalized domain⟩ = 1 := by
  let levels := s.limits.lookups.toNat
  have hverdict := evaluateDomain_verdict s replies domain
  rw [h, Except.map, eq_comm, endVerdict_eq_ok_iff herror, checkHost_eq_visit] at hverdict
  obtain ⟨line, hrun, hasks⟩ := visit_of_publishes hp (below s levels) [domain] true {}
  rw [hrun] at hverdict
  obtain ⟨-, hsame⟩ := evaluateRecord_explainsFailures (below_explainsFailures levels) r domain [domain] _ _ _
    (Prod.ext hverdict rfl) hfail
  -- An explanation may be fetched from the domain itself, without a look at the path.
  have haway : ⟨.texts, domain⟩ ∉ asks replies (evaluateRecord s (below s levels) r domain [domain] true)
      (({} : Progress).noted line) := by
    rw [← hsame]
    exact evaluateRecord_avoids hends (below_away hends hnormal levels) .refl hp (List.mem_singleton.mpr rfl) _
  rw [evaluateDomain_queries, checkHost_eq_visit, hasks, hnormal domain .refl, List.count_cons_self,
    List.count_eq_zero.mpr haway]

end SenderPolicy.Evaluation
