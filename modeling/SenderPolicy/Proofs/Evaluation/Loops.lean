import Mathlib.Logic.Relation
import SenderPolicy.Proofs.Evaluation.Adequacy
import SenderPolicy.Proofs.Evaluation.Decision
import SenderPolicy.Proofs.Evaluation.Ending

/-!
Loops. An evaluation that meets a loop has come to a domain that leads back to itself. Such a domain is never
done with: each time round the same mechanisms are no match, until a limit is gone over. To end at a loop thus
changes no verdict.
-/
namespace SenderPolicy.Evaluation
open Dns Dns.Work Relation
variable {α β : Type} {limits : Limits} {s : Setting} {replies : Query → Reply} {follow : Follow}
  {domain target label : Text} {path : List Text} {t : Term} {n : Nat} {cond : Prop}

/-! Domains that lead to each other -/

/-- In the record of the domain nothing is decisive before the target is followed. -/
inductive LeadsTo (s : Setting) (replies : Query → Reply) (domain target : Text) : Prop
  | inclusion {r : Record} {before after : List Term} {t : Term} : Audit.Publishes replies domain r →
      mechanismsOf r.terms = before ++ t :: after → Decides s replies domain before none →
      t.kind = .inclusion → s.target t domain = .ok target → LeadsTo s replies domain target
  | redirect {r : Record} {value : Text} : Audit.Publishes replies domain r →
      Decides s replies domain (mechanismsOf r.terms) none → r.redirect = some value →
      s.expandName value domain = .ok target → LeadsTo s replies domain target

/-- The domain leads to one that leads back to itself. -/
def IsEndless (s : Setting) (replies : Query → Reply) (domain : Text) : Prop :=
  ∃ g, ReflTransGen (LeadsTo s replies) domain g ∧ TransGen (LeadsTo s replies) g g

theorem LeadsTo.publishes (h : LeadsTo s replies domain target) : ∃ r, Audit.Publishes replies domain r := by
  cases h with
  | inclusion hp => exact ⟨_, hp⟩
  | redirect hp => exact ⟨_, hp⟩

theorem IsEndless.of_leadsTo (h : LeadsTo s replies domain target) (ht : IsEndless s replies target) :
    IsEndless s replies domain := by
  obtain ⟨g, hto, hback⟩ := ht
  exact ⟨g, .head h hto, hback⟩

theorem IsEndless.of_back (h : LeadsTo s replies domain target)
    (hback : ReflTransGen (LeadsTo s replies) target domain) : IsEndless s replies domain :=
  ⟨domain, .refl, .head' h hback⟩

theorem IsEndless.exists_next (h : IsEndless s replies domain) :
    ∃ target, LeadsTo s replies domain target ∧ IsEndless s replies target := by
  obtain ⟨g, hto, hback⟩ := h
  obtain rfl | ⟨target, hnext, hrest⟩ := ReflTransGen.cases_head hto
  · obtain ⟨target, hnext, hrest⟩ := TransGen.head'_iff.mp hback
    exact ⟨target, hnext, domain, hrest, hback⟩
  · exact ⟨target, hnext, g, hrest, hback⟩

/-! Where an evaluation meets a loop -/

def Stop.IsLoop : Stop → Prop
  | .includeLoop _ | .redirectLoop _ => True
  | _ => False

theorem Stop.IsLoop.fault? {stop : Stop} (h : stop.IsLoop) : stop.fault? = none := by
  cases stop with
  | fault f => exact h.elim
  | _ => rfl

def LoopsOnlyIf (replies : Query → Reply) (cond : Prop) (x : Step α) : Prop :=
  ∀ p stop p', outcome replies x p = (.error stop, p') → stop.IsLoop → cond

namespace LoopsOnlyIf
variable {x : Step α} {f : α → Step β} {a : α}

theorem mono {cond' : Prop} (h : LoopsOnlyIf replies cond x) (hc : cond → cond') :
    LoopsOnlyIf replies cond' x :=
  fun p stop p' hx hloop => hc (h p stop p' hx hloop)

theorem pure (a : α) : LoopsOnlyIf replies cond (pure a : Step α) :=
  fun _ _ _ hx => nomatch hx

theorem throw {stop : Stop} (h : stop.IsLoop → cond) : LoopsOnlyIf replies cond (throw stop : Step α) := by
  intro p stop' p' hx hloop
  cases hx
  exact h hloop

theorem bind (h : LoopsOnlyIf replies cond x)
    (hf : ∀ a p p', outcome replies x p = (.ok a, p') → LoopsOnlyIf replies cond (f a)) :
    LoopsOnlyIf replies cond (x >>= f) := by
  intro p stop p' hx hloop
  cases hfirst : outcome replies x p with
  | mk o p₁ =>
    cases o with
    | ok a =>
      rw [outcome_bind_of_ok hfirst] at hx
      exact hf a p p₁ hfirst p₁ stop p' hx hloop
    | error e =>
      rw [outcome_bind_of_error hfirst] at hx
      cases hx
      exact h p stop p' hfirst hloop

theorem of_tells (h : Tells limits replies x (some a)) : LoopsOnlyIf replies cond x := by
  intro p stop p' hx hloop
  obtain ⟨-, e, rfl⟩ | hexcused := h p _ p' hx
  · exact hloop.elim
  · exact (hexcused a rfl).elim

theorem behind (h : Tells limits replies x (some a)) (hf : LoopsOnlyIf replies cond (f a)) :
    LoopsOnlyIf replies cond (x >>= f) := by
  refine (of_tells h).bind fun b p p' hx => ?_
  have hb : some a = some b := h p _ p' hx
  cases hb
  exact hf

theorem past (h : Comparison.Steady replies x a) (hf : LoopsOnlyIf replies cond (f a)) :
    LoopsOnlyIf replies cond (x >>= f) := by
  intro p stop p' hx hloop
  obtain ⟨trail, ha⟩ := h p
  rw [outcome_bind_of_ok ha] at hx
  exact hf _ stop p' hx hloop

theorem ofExcept {f : α → Step β} (x : Except Fault α)
    (hf : ∀ a, x = .ok a → LoopsOnlyIf replies cond (f a)) :
    LoopsOnlyIf replies cond (Step.ofExcept x >>= f) := by
  cases x with
  | ok a => exact hf a rfl
  | error e =>
    have hfault : LoopsOnlyIf replies cond (Step.ofExcept (.error e) : Step α) := throw fun hloop => hloop.elim
    exact hfault.bind fun a p p' hx => nomatch hx

end LoopsOnlyIf

theorem guardLoop_loops {stop : List Text → Stop} (h : target ∈ path → cond) :
    LoopsOnlyIf replies cond (guardLoop s stop path target) := by
  unfold guardLoop
  split
  · rename_i hloop
    exact .throw fun _ => h (by simpa using hloop.2)
  · exact .pure ()

theorem matchInclude_loops (hpath : target ∈ path → cond)
    (hf : LoopsOnlyIf replies cond (follow target (path ++ [target]) false)) :
    LoopsOnlyIf replies cond (matchInclude s follow label target path) := by
  refine (guardLoop_loops hpath).bind fun _ _ _ _ => hf.bind fun v _ _ _ => ?_
  refine .past (.note _) ?_
  cases v with
  | none => exact .behind (countVoid_tells label) (.pure _)
  | _ => exact .pure _

theorem matchTerm_loops (t : Term)
    (h : t.kind = .inclusion → ∀ target, s.target t domain = .ok target →
      (target ∈ path → cond) ∧ LoopsOnlyIf replies cond (follow target (path ++ [target]) false)) :
    LoopsOnlyIf replies cond (matchTerm s follow domain path t) := by
  have counted {f : Text → Step Outcome}
      (hf : ∀ target, s.target t domain = .ok target → LoopsOnlyIf replies cond (f target)) :
      LoopsOnlyIf replies cond (do
        Step.count s.limits (Text.phrase [domain, ": ", t.compose])
        f (← Step.ofExcept (s.target t domain))) :=
    .behind (count_tells _) (.ofExcept _ hf)
  cases hk : t.kind with
  | all => simp only [matchTerm, hk]; exact .pure _
  | ip4 => simp only [matchTerm, hk]; exact .pure _
  | ip6 => simp only [matchTerm, hk]; exact .pure _
  | inclusion =>
    simp only [matchTerm, hk]
    exact counted fun target ht => matchInclude_loops (h hk target ht).1 (h hk target ht).2
  | a => simp only [matchTerm, hk]; exact counted fun _ _ => .of_tells (matchAddresses_tells hk)
  | mx => simp only [matchTerm, hk]; exact counted fun _ _ => .of_tells (matchExchanges_tells hk)
  | ptr => simp only [matchTerm, hk]; exact counted fun _ _ => .of_tells (matchNames_tells hk)
  | existence => simp only [matchTerm, hk]; exact counted fun _ _ => .of_tells (matchExistence_tells hk)
  | redirect | exp | unknown | unknownModifier =>
    simp only [matchTerm, hk]
    exact counted fun _ _ => .pure _

theorem firstDecisive_loops {attempt : Term → Step Outcome} {before ts : List Term}
    (hy : ∀ t o p p', outcome replies (attempt t) p = (.ok o, p') → Yields s replies domain t o)
    (h : ∀ past t after, before ++ ts = past ++ t :: after → Decides s replies domain past none →
      LoopsOnlyIf replies cond (attempt t))
    (hb : Decides s replies domain before none) : LoopsOnlyIf replies cond (firstDecisive attempt ts) := by
  induction ts generalizing before with
  | nil => exact .pure _
  | cons t rest ih =>
    refine (h before t rest rfl hb).bind fun o p p' ho => ?_
    split
    · rename_i hu
      have hpast : Decides s replies domain (before ++ [t]) none :=
        hb.append (.past (hu ▸ hy t o p p' ho) .nil)
      refine ih (fun past u after hsplit => h past u after ?_) hpast
      rw [← hsplit, List.append_assoc, List.singleton_append]
    · exact .pure _

theorem explain_loops (r : Record) : LoopsOnlyIf replies cond (explain s r domain) := by
  rw [explain_eq]
  split
  · exact .pure ()
  · exact .pure ()
  · refine .ofExcept _ fun target _ => .past (.query _ _) ?_
    cases soleText? (answerOf replies .texts target) with
    | none => exact fun _ _ _ hx => nomatch hx
    | some text => exact .ofExcept _ fun _ _ p _ _ hx => nomatch hx

theorem redirect_loops {value : Text} {explains : Bool}
    (h : ∀ target, s.expandName value domain = .ok target →
      (target ∈ path → cond) ∧ LoopsOnlyIf replies cond (follow target (path ++ [target]) explains)) :
    LoopsOnlyIf replies cond (redirect s follow value domain path explains) := by
  refine .behind (count_tells _) (.ofExcept _ fun target ht => ?_)
  refine (guardLoop_loops (h target ht).1).bind fun _ _ _ _ => ?_
  refine .past (.note _) ((h target ht).2.bind fun v _ _ _ => ?_)
  split
  · exact .past (.note _) (.pure _)
  · exact .pure v

theorem evaluateRecord_loops {r : Record} {verdict : Text → Option Verdict} {explains : Bool}
    (hp : Audit.Publishes replies domain r) (hf : FollowsMeaning s replies path follow verdict)
    (hj : Extends (judge s replies n) verdict)
    (h : ∀ target explains, LeadsTo s replies domain target →
      (target ∈ path → cond) ∧ LoopsOnlyIf replies cond (follow target (path ++ [target]) explains)) :
    LoopsOnlyIf replies cond (evaluateRecord s follow r domain path explains) := by
  have hmeans : Extends (judge s replies n) (unlooped s path verdict) :=
    fun target v hv => hj target v (extends_unlooped path verdict target v hv)
  have hyields (t : Term) (o : Outcome) (p p' : Progress)
      (ho : outcome replies (matchTerm s follow domain path t) p = (.ok o, p')) :
      Yields s replies domain t o :=
    ⟨n, termOutcome_mono hmeans (matchTerm_tells hf t p _ p' ho)⟩
  refine (firstDecisive_loops hyields (fun past t after hsplit hpast => ?_) .nil).bind
    fun found p p' hfound => ?_
  · exact matchTerm_loops t fun hk target ht => h target false (.inclusion hp hsplit hpast hk ht)
  · split
    · exact .pure _
    · exact .pure _
    · refine .past (.note _) ?_
      split
      · exact (explain_loops r).bind fun _ _ _ _ => .pure _
      · exact .pure _
    · have hnone : Decides s replies domain (mechanismsOf r.terms) none :=
        decides_of_decisive (decisive_mono (fun t o => termOutcome_mono hmeans)
          (firstDecisive_tells (matchTerm_tells hf) _ p _ p' hfound))
      split
      · rename_i value hr
        exact redirect_loops fun target ht => h target explains (.redirect hp hnone hr ht)
      · exact .past (.note _) (.pure _)

theorem visit_loops {verdict : Text → Option Verdict} {explains : Bool}
    (hf : FollowsMeaning s replies path follow verdict) (hj : Extends (judge s replies n) verdict)
    (h : ∀ target explains, LeadsTo s replies domain target →
      (target ∈ path → cond) ∧ LoopsOnlyIf replies cond (follow target (path ++ [target]) explains)) :
    LoopsOnlyIf replies cond (visit s follow domain path explains) := by
  refine .past (.ofPlan (published domain)) ?_
  cases hpub : (published domain).value replies with
  | error u => exact .past (.note _) (.pure _)
  | ok publication =>
    refine .past (.note _) (.ofExcept _ fun assessment ha => ?_)
    split
    · rename_i r hparse hvalid
      exact evaluateRecord_loops ⟨publication, hpub, hparse, .of_auditText hparse ha hvalid⟩ hf hj h
    · exact .past (.noteAll _ _) (.pure _)

/-- Only an endless domain makes an evaluation meet a loop. -/
theorem checkHostAbove_loops (depth : Nat) (domain : Text) (path : List Text) (explains : Bool)
    (hpath : ∀ g ∈ path, ReflTransGen (LeadsTo s replies) g domain) :
    LoopsOnlyIf replies (IsEndless s replies domain)
      (checkHostAbove s halt depth domain path explains) := by
  -- Along the induction every domain on the path leads to the one that is evaluated.
  induction depth generalizing domain path explains with
  | zero =>
    have hmeans : FollowsMeaning s replies path halt fun _ => none := fun _ _ => .throw _
    refine visit_loops (n := 0) hmeans (fun _ _ h => nomatch h) fun target explains hto => ?_
    exact ⟨fun hmem => .of_back hto (hpath target hmem), .throw fun hloop => hloop.elim⟩
  | succ depth ih =>
    have hmeans : FollowsMeaning s replies path (checkHostAbove s halt depth)
        fun target => judgeAlong s replies depth (path ++ [target]) target :=
      fun target explains => checkHostAbove_means depth target _ explains
    refine visit_loops (n := depth) hmeans (fun target => judge_of_judgeAlong depth _ target)
      fun target explains hto => ⟨fun hmem => .of_back hto (hpath target hmem), ?_⟩
    refine (ih target (path ++ [target]) explains fun g hg => ?_).mono (.of_leadsTo hto)
    cases List.mem_append.mp hg with
    | inl hg => exact (hpath g hg).tail hto
    | inr hg => rw [List.mem_singleton.mp hg]

/-! Going round a loop -/

/-- The setting in which loops are not ended. -/
def Setting.heedless (s : Setting) : Setting := { s with endsLoops := false }

def Faultless (replies : Query → Reply) (x : Step α) (post : α → Prop) : Prop :=
  ∀ p, match outcome replies x p with
    | (.ok a, _) => post a
    | (.error stop, _) => stop.fault? = none

abbrev RunsOut (replies : Query → Reply) (x : Step α) : Prop := Faultless replies x fun _ => False

namespace Faultless
variable {x : Step α} {f : α → Step β} {a : α} {post : α → Prop} {post' : β → Prop}

theorem pure (h : post a) : Faultless replies (pure a) post := fun _ => h

theorem bind (h : Faultless replies x post) (hf : ∀ a, post a → Faultless replies (f a) post') :
    Faultless replies (x >>= f) post' := by
  intro p
  have hend := h p
  cases hx : outcome replies x p with
  | mk o p' =>
    rw [hx] at hend
    cases o with
    | ok a => rw [outcome_bind_of_ok hx]; exact hf a hend p'
    | error stop => rw [outcome_bind_of_error hx]; exact hend

theorem of_tells (h : Tells limits replies x (some a)) : Faultless replies x (· = a) := by
  intro p
  cases hx : outcome replies x p with
  | mk o p' =>
    have hend := h p o p' hx
    cases o with
    | ok b => exact (Option.some.inj hend).symm
    | error stop =>
      obtain ⟨-, e, rfl⟩ | hexcused := hend
      · rfl
      · exact (hexcused a rfl).elim

theorem behind (h : Tells limits replies x (some a)) (hf : Faultless replies (f a) post') :
    Faultless replies (x >>= f) post' :=
  (of_tells h).bind fun _ hb => hb ▸ hf

theorem past (h : Comparison.Steady replies x a) (hf : Faultless replies (f a) post') :
    Faultless replies (x >>= f) post' := by
  intro p
  obtain ⟨trail, ha⟩ := h p
  rw [outcome_bind_of_ok ha]
  exact hf _

theorem of_parallel {C : Comparison} {y : Step α} (h : C.Parallel Eq x y) (hy : Faultless C.replies' y post)
    (hforgives : ∀ stop, C.forgives stop → stop.fault? = none) : Faultless C.replies x post := by
  intro p
  let q : Progress := { p with tally := ⟨p.tally.lookups + C.lead, p.tally.voids⟩ }
  obtain ⟨stop, p', hx, hstop⟩ | hend := h p q ⟨rfl, rfl, fun _ => rfl⟩
  · rw [hx]
    exact hforgives stop hstop
  · have hq := hy q
    generalize outcome C.replies x p = reached at hend ⊢
    generalize outcome C.replies' y q = reached' at hend hq
    obtain ⟨o, p'⟩ := reached
    obtain ⟨o', q'⟩ := reached'
    cases o with
    | ok a =>
      cases o' with
      | ok b => exact hend.1 ▸ hq
      | error stop' => exact hend.elim
    | error stop =>
      cases o' with
      | ok b => exact hend.elim
      | error stop' => exact hend.1.symm.trans hq

end Faultless

theorem guardLoop_eq_pure (h : s.endsLoops = false) (stop : List Text → Stop) (path : List Text)
    (target : Text) : guardLoop s stop path target = pure () :=
  if_neg fun hloop => Bool.noConfusion (h.symm.trans hloop.1)

theorem guardLoop_heedless (stop : List Text → Stop) (path : List Text) (target : Text) :
    Comparison.Steady replies (guardLoop s.heedless stop path target) () := by
  rw [guardLoop_eq_pure (s := s.heedless) rfl]
  exact .pure ()

theorem hostsOutcome_heedless (failed : Bool) (answers : List (Text × Answer)) :
    hostsOutcome s.heedless t failed answers = hostsOutcome s t failed answers := by
  rw [hostsOutcome_eq, hostsOutcome_eq]
  rfl

theorem namesOutcome_heedless (answers : List (Text × Answer)) :
    namesOutcome s.heedless answers = namesOutcome s answers := by
  rw [namesOutcome_eq, namesOutcome_eq]
  rfl

theorem lookupOutcome_heedless (target : Text) (t : Term) :
    lookupOutcome s.heedless replies target t = lookupOutcome s replies target t := by
  unfold lookupOutcome
  simp only [hostsOutcome_heedless, namesOutcome_heedless]
  rfl

theorem termOutcome_heedless (verdict : Text → Option Verdict) (domain : Text) :
    termOutcome s.heedless replies verdict domain = termOutcome s replies verdict domain := by
  funext t
  unfold termOutcome
  simp only [lookupOutcome_heedless]
  rfl

theorem domainVerdict_heedless (verdict : Text → Option Verdict) :
    domainVerdict s.heedless replies verdict = domainVerdict s replies verdict := by
  unfold domainVerdict recordVerdict
  simp only [termOutcome_heedless]
  rfl

theorem unlooped_heedless (path : List Text) (verdict : Text → Option Verdict) :
    unlooped s.heedless path verdict = verdict :=
  funext fun _ => if_neg fun h => Bool.noConfusion h.1

theorem judgeAlong_heedless (n : Nat) (path : List Text) :
    judgeAlong s.heedless replies n path = judge s replies n := by
  induction n generalizing path with
  | zero => rw [judgeAlong, unlooped_heedless, judge, domainVerdict_heedless]
  | succ n ih => simp only [judgeAlong, unlooped_heedless, ih, judge, domainVerdict_heedless]

/-- An evaluation with few levels beside one with many: the first may run out before the second. -/
def deepening (s : Setting) (replies : Query → Reply) : Comparison where
  first := s.heedless
  second := s.heedless
  replies := replies
  replies' := replies
  forgives stop := stop.fault? = none
  lookups := (Int.add_zero _).symm
  voids := rfl
  rearranged := rearranged_refl replies

def FollowsDeep (s : Setting) (replies : Query → Reply) (follow : Follow) : Prop :=
  ∀ m, ∃ k, m ≤ k ∧ (deepening s replies).FollowsParallel follow (checkHostAbove s.heedless halt k)

theorem halt_parallel (follow : Follow) : (deepening s replies).FollowsParallel halt follow :=
  fun _ _ _ _ _ _ _ => .forgiven (e := .excess (.lookups 0 0 [])) rfl

theorem halt_followsDeep : FollowsDeep s replies halt :=
  fun m => ⟨m, Nat.le_refl m, halt_parallel _⟩

theorem checkHostAbove_above (s : Setting) (floor : Follow) (depth below : Nat) :
    checkHostAbove s (checkHostAbove s floor below) depth = checkHostAbove s floor (depth + below + 1) := by
  induction depth with
  | zero => rw [Nat.zero_add]; rfl
  | succ depth ih =>
    rw [show depth + 1 + below + 1 = (depth + below + 1) + 1 by omega]
    exact congrArg (visit s) ih

theorem checkHostAbove_followsDeep (depth : Nat) :
    FollowsDeep s replies (checkHostAbove s.heedless halt depth) := by
  intro m
  refine ⟨depth + m + 1, by omega, ?_⟩
  rw [← checkHostAbove_above]
  exact Comparison.checkHostAbove_parallel (C := deepening s replies) (halt_parallel _) depth

theorem matchTerm_deep {k m : Nat} (hm : termOutcome s replies (judge s replies m) domain t = some .unmatched)
    (hk : m ≤ k) (path : List Text) :
    Tells s.limits replies (matchTerm s.heedless (checkHostAbove s.heedless halt k) domain path t)
      (some .unmatched) := by
  have hmeans : FollowsMeaning s.heedless replies path (checkHostAbove s.heedless halt k)
      fun target => judgeAlong s.heedless replies k (path ++ [target]) target :=
    fun target explains => checkHostAbove_means k target _ explains
  have hmeant : termOutcome s.heedless replies (unlooped s.heedless path
      fun target => judgeAlong s.heedless replies k (path ++ [target]) target) domain t = some .unmatched := by
    rw [termOutcome_heedless, unlooped_heedless]
    simp only [judgeAlong_heedless]
    exact termOutcome_mono (judge_mono hk) hm
  exact hmeant ▸ matchTerm_tells hmeans t

theorem matchTerm_past (hf : FollowsDeep s replies follow) (hy : Yields s replies domain t .unmatched)
    (path : List Text) :
    Faultless replies (matchTerm s.heedless follow domain path t) (· = .unmatched) := by
  obtain ⟨m, hm⟩ := hy
  obtain ⟨k, hk, hf⟩ := hf m
  have hdeep := Faultless.of_tells (matchTerm_deep hm hk path)
  have hpaths : (deepening s replies).OnPaths path path := .inl ⟨rfl, rfl⟩
  have hparallel : (deepening s replies).Parallel Eq (matchTerm s.heedless follow domain path t)
      (matchTerm s.heedless (checkHostAbove s.heedless halt k) domain path t) :=
    Comparison.matchTerm_parallel hf hpaths t
  exact .of_parallel hparallel hdeep fun _ h => h

theorem firstDecisive_past {attempt : Term → Step Outcome} {ts : List Term}
    (h : ∀ t ∈ ts, Faultless replies (attempt t) (· = .unmatched)) :
    Faultless replies (firstDecisive attempt ts) (· = none) := by
  induction ts with
  | nil => exact .pure rfl
  | cons t rest ih =>
    refine (h t List.mem_cons_self).bind fun o ho => ?_
    rw [if_pos ho]
    exact ih fun u hu => h u (List.mem_cons_of_mem t hu)

theorem firstDecisive_runsOut {attempt : Term → Step Outcome} {before : List Term}
    (h : ∀ t ∈ before, Faultless replies (attempt t) (· = .unmatched)) (ht : RunsOut replies (attempt t))
    (after : List Term) :
    RunsOut replies (firstDecisive attempt (before ++ t :: after)) := by
  induction before with
  | nil => exact ht.bind fun _ hfalse => hfalse.elim
  | cons u rest ih =>
    refine (h u List.mem_cons_self).bind fun o ho => ?_
    rw [if_pos ho]
    exact ih fun v hv => h v (List.mem_cons_of_mem u hv)

theorem matchInclude_runsOut (h : ∀ path explains, RunsOut replies (follow target path explains)) :
    RunsOut replies (matchInclude s.heedless follow label target path) := by
  exact .past (guardLoop_heedless _ path target) ((h _ _).bind fun _ hfalse => hfalse.elim)

theorem matchTerm_runsOut (hk : t.kind = .inclusion) (ht : s.target t domain = .ok target)
    (h : ∀ path explains, RunsOut replies (follow target path explains)) :
    RunsOut replies (matchTerm s.heedless follow domain path t) := by
  simp only [matchTerm, hk]
  refine .behind (count_tells _) ?_
  rw [show s.heedless.target t domain = .ok target from ht]
  exact matchInclude_runsOut h

theorem redirect_runsOut {value : Text} {explains : Bool} (ht : s.expandName value domain = .ok target)
    (h : ∀ path explains, RunsOut replies (follow target path explains)) :
    RunsOut replies (redirect s.heedless follow value domain path explains) := by
  unfold redirect
  refine .behind (count_tells _) ?_
  rw [show s.heedless.expandName value domain = .ok target from ht]
  refine .past (.pure target) (.past (guardLoop_heedless _ path target) (.past (.note _) ?_))
  exact (h _ _).bind fun _ hfalse => hfalse.elim

theorem evaluateRecord_runsOut {r : Record} {explains : Bool} (hp : Audit.Publishes replies domain r)
    (hto : LeadsTo s replies domain target) (hf : FollowsDeep s replies follow)
    (h : ∀ path explains, RunsOut replies (follow target path explains)) :
    RunsOut replies (evaluateRecord s.heedless follow r domain path explains) := by
  cases hto with
  | @inclusion r' before after t hp' hsplit hpast hk ht =>
    obtain rfl := hp.unique hp'
    have hfirst := firstDecisive_runsOut
      (fun u hu => matchTerm_past hf (hpast.yields_of_mem u hu) path) (matchTerm_runsOut hk ht h) after
    rw [← hsplit] at hfirst
    exact hfirst.bind fun _ hfalse => hfalse.elim
  | redirect hp' hpast hr ht =>
    obtain rfl := hp.unique hp'
    refine (firstDecisive_past fun u hu => matchTerm_past hf (hpast.yields_of_mem u hu) path).bind ?_
    rintro _ rfl
    dsimp only
    rw [hr]
    exact redirect_runsOut ht h

theorem visit_runsOut {explains : Bool} (hto : LeadsTo s replies domain target)
    (hf : FollowsDeep s replies follow)
    (h : ∀ path explains, RunsOut replies (follow target path explains)) :
    RunsOut replies (visit s.heedless follow domain path explains) := by
  obtain ⟨r, hp⟩ := hto.publishes
  intro p
  obtain ⟨line, hvisit⟩ := outcome_visit_of_publishes (s := s.heedless) hp follow path explains p
  rw [hvisit]
  exact evaluateRecord_runsOut hp hto hf h _

/-- An evaluation that goes round never comes to an end by itself, however many levels it has. -/
theorem checkHostAbove_runsOut (depth : Nat) (domain : Text) (path : List Text) (explains : Bool)
    (h : IsEndless s replies domain) :
    RunsOut replies (checkHostAbove s.heedless halt depth domain path explains) := by
  obtain ⟨target, hto, htarget⟩ := h.exists_next
  induction depth generalizing domain path explains target with
  | zero => exact visit_runsOut hto halt_followsDeep fun _ _ _ => rfl
  | succ depth ih =>
    refine visit_runsOut hto (checkHostAbove_followsDeep depth) fun path explains => ?_
    obtain ⟨next, hnext, hrest⟩ := htarget.exists_next
    exact ih target path explains htarget next hnext hrest

/-! Verdicts -/

/-- The evaluation beside itself without an end to loops. -/
def roundLoops (s : Setting) (replies : Query → Reply) : Comparison where
  first := s
  second := s.heedless
  replies := replies
  replies' := replies
  forgives := Stop.IsLoop
  lookups := (Int.add_zero _).symm
  voids := rfl
  rearranged := rearranged_refl replies

theorem checkHost_outcome (s : Setting) (replies : Query → Reply) (domain : Text) :
    outcome replies (checkHost s s.limits.lookups.toNat domain [domain] true) {} =
      outcome replies (checkHostAbove s halt s.limits.lookups.toNat domain [domain] true) {} :=
  congrArg (Plan.value replies) (checkHostAbove_run s halt (Nat.le_refl _) domain [domain] true).symm

/-- Where the evaluation meets a loop, it runs out without an end to loops. -/
theorem checkHost_heedless {stop : Stop} {p : Progress} (hloop : stop.IsLoop)
    (h : outcome replies (checkHost s s.limits.lookups.toNat domain [domain] true) {} = (.error stop, p)) :
    endVerdict (outcome replies (checkHost s.heedless s.limits.lookups.toNat domain [domain] true) {}).1 =
      .ok .permerror := by
  have hendless : IsEndless s replies domain := by
    rw [checkHost_outcome] at h
    refine checkHostAbove_loops _ domain [domain] true (fun g hg => ?_) {} stop p h hloop
    rw [List.mem_singleton.mp hg]
  have hout := checkHostAbove_runsOut s.heedless.limits.lookups.toNat domain [domain] true hendless {}
  rw [show outcome replies (checkHost s.heedless s.limits.lookups.toNat domain [domain] true) {} = _ from
    checkHost_outcome s.heedless replies domain]
  generalize outcome replies (checkHostAbove s.heedless halt _ domain [domain] true) {} = reached at hout ⊢
  obtain ⟨o, q⟩ := reached
  cases o with
  | ok v => exact hout.elim
  | error stop' => exact endVerdict_of_stop hout

theorem evaluateDomain_heedless (s : Setting) (replies : Query → Reply) (domain : Text) :
    ((evaluateDomain s.heedless domain).value replies).map (·.verdict) =
      ((evaluateDomain s domain).value replies).map (·.verdict) := by
  rw [evaluateDomain_verdict, evaluateDomain_verdict]
  have hpaths : (roundLoops s replies).OnPaths [domain] [domain] := .inr ⟨rfl, fun _ _ => ⟨trivial, trivial⟩⟩
  obtain ⟨stop, p, hrun, hloop⟩ | hend :=
    Comparison.checkHost_parallel (C := roundLoops s replies) s.limits.lookups.toNat domain [domain] [domain]
      true true hpaths (.inl rfl) {} {} ⟨rfl, rfl, fun _ => rfl⟩
  · have hpermerror : endVerdict
        (outcome replies (checkHost s s.limits.lookups.toNat domain [domain] true) {}).1 = .ok .permerror := by
      rw [show outcome replies (checkHost s s.limits.lookups.toNat domain [domain] true) {} = _ from hrun]
      exact endVerdict_of_stop hloop.fault?
    exact (checkHost_heedless hloop hrun).trans hpermerror.symm
  · exact hend.endVerdict_eq

/-- The evaluation of a request, with or without an end to loops. -/
def evaluateBy (endsLoops : Bool) (limits : Limits) (now : Int) (request : Request) :
    Plan (Except Fault Result) :=
  let domain := Domain.normalized request.domain
  if domain.isEmpty then return .ok { verdict := .none, trail := ["No domain to evaluate"] }
  else
    match Address.parse? request.ip with
    | none =>
      return .ok { verdict := .permerror,
                   trail := [Text.phrase [request.ip, " is not a valid IP address"]] }
    | some address => evaluateDomain { Setting.ofRequest request address limits now with endsLoops } domain

theorem evaluateBy_true : evaluateBy true = evaluate := rfl

/-- Without an end to loops every request comes to the verdict that it comes to with one. The limits alone
end such an evaluation: nothing that stands below its last level is reached. -/
theorem evaluate_without_end_to_loops (replies : Query → Reply) (limits : Limits) (now : Int)
    (request : Request) :
    ((evaluateBy false limits now request).value replies).map (·.verdict) =
      ((evaluate limits now request).value replies).map (·.verdict) ∧
    ∀ address floor depth, limits.lookups.toNat ≤ depth →
      let s := (Setting.ofRequest request address limits now).heedless
      let domain := Domain.normalized request.domain
      (checkHostAbove s floor depth domain [domain] true).run.run {} =
        (checkHost s s.limits.lookups.toNat domain [domain] true).run.run {} := by
  constructor
  · rw [← evaluateBy_true]
    unfold evaluateBy
    dsimp only
    split
    · rfl
    · cases Address.parse? request.ip with
      | none => rfl
      | some address => exact evaluateDomain_heedless (.ofRequest request address limits now) replies _
  · intro address floor depth hdepth
    exact checkHostAbove_run (Setting.ofRequest request address limits now).heedless floor hdepth _ _ _

def circularZone : Zone := [
  (⟨.texts, "a.example"⟩, .records [.text "v=spf1 ip4:198.51.100.0/24 include:b.example -all"]),
  (⟨.texts, "b.example"⟩, .records [.text "v=spf1 redirect=a.example"])]

theorem circularZone_without_end_to_loops :
    let request : Request := { domain := "a.example", ip := "192.0.2.1" }
    let s := (Setting.ofRequest request (.v4 0xC0000201#32) {} 0).heedless
    let domain := Domain.normalized request.domain
    ((evaluateBy false {} 0 request).value circularZone.reply).map (·.verdict) = .ok .permerror ∧
    (checkHostAbove s (fun _ _ _ => return .pass) 11 domain [domain] true).run.run {} =
      (checkHost s 10 domain [domain] true).run.run {} := by
  intro request s domain
  obtain ⟨hsame, hdepth⟩ := evaluate_without_end_to_loops circularZone.reply {} 0 request
  have hended : (((evaluate {} 0 request).value circularZone.reply).map (·.verdict)).toOption =
      some .permerror := by decide +kernel
  refine ⟨hsame.trans (eq_ok_of_toOption hended), ?_⟩
  exact hdepth (.v4 0xC0000201#32) (fun _ _ _ => return .pass) 11 (by decide)

end SenderPolicy.Evaluation
