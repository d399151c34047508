import SenderPolicy.Proofs.Evaluation.Depth
import SenderPolicy.Proofs.Evaluation.Meaning

/-!
Evaluations against their meaning. An evaluation that comes to a verdict comes to the one that is meant; and
where a verdict is meant, the evaluation comes to it unless it goes over a limit first.
-/
namespace SenderPolicy.Evaluation
open Dns Dns.Work
variable {α β : Type} {limits : Limits} {replies : Query → Reply} {s : Setting} {follow : Follow}
  {verdict : Text → Option Verdict} {domain target label : Text} {path : List Text} {t : Term} {n : Nat}

def Exceeds (limits : Limits) (tally : Tally) : Prop :=
  limits.lookups < tally.lookups ∨ limits.voids < tally.voids

instance (limits : Limits) (tally : Tally) : Decidable (Exceeds limits tally) :=
  inferInstanceAs (Decidable (_ ∨ _))

/-- The step comes to what is meant, if to anything. It stops where nothing is meant, and elsewhere only over
a limit or with an excuse. -/
def Means (limits : Limits) (replies : Query → Reply) (excused : α → Prop) (x : Step α)
    (meant : Option α) : Prop :=
  ∀ p o p', outcome replies x p = (o, p') →
    match o with
    | .ok a => meant = some a
    | .error stop =>
      (Exceeds limits p'.tally ∧ ∃ e, stop = .excess e) ∨ ∀ a, meant = some a → excused a

abbrev Tells (limits : Limits) (replies : Query → Reply) (x : Step α) (meant : Option α) : Prop :=
  Means limits replies (fun _ => False) x meant

namespace Means
variable {excused : α → Prop} {excused' : β → Prop} {x : Step α} {f : α → Step β} {a : α}
  {meant : Option α} {meant' : Option β}

theorem pure (a : α) : Means limits replies excused (pure a) (some a) := by
  intro p o p' hx
  cases hx
  rfl

theorem throw (stop : Stop) : Means limits replies excused (throw stop) none := by
  intro p o p' hx
  cases hx
  exact .inr fun a h => nomatch h

theorem bind_excused {g : α → Option β} (h : Means limits replies excused x meant)
    (he : ∀ a b, excused a → g a = some b → excused' b)
    (hf : ∀ a, meant = some a → Means limits replies excused' (f a) (g a)) :
    Means limits replies excused' (x >>= f) (meant.bind g) := by
  intro p o p' hx
  cases hfirst : outcome replies x p with
  | mk o₁ p₁ =>
    have hend := h p o₁ p₁ hfirst
    cases o₁ with
    | error stop =>
      rw [outcome_bind_of_error hfirst] at hx
      cases hx
      refine hend.imp_right fun hall b hb => ?_
      obtain ⟨a, ha, hg⟩ := Option.bind_eq_some_iff.mp hb
      exact he a b (hall a ha) hg
    | ok a =>
      rw [outcome_bind_of_ok hfirst] at hx
      have hrest := hf a hend p₁ o p' hx
      rw [show meant = some a from hend]
      exact hrest

theorem bind {g : α → Option β} (h : Tells limits replies x meant)
    (hf : ∀ a, meant = some a → Means limits replies excused' (f a) (g a)) :
    Means limits replies excused' (x >>= f) (meant.bind g) :=
  h.bind_excused (fun _ _ hfalse _ => hfalse.elim) hf

theorem behind (h : Tells limits replies x (some a)) (hf : Means limits replies excused' (f a) meant') :
    Means limits replies excused' (x >>= f) meant' := by
  refine h.bind (g := fun _ => meant') fun b hb => ?_
  cases hb
  exact hf

theorem of_ok (h : ∀ p, ∃ p', outcome replies x p = (.ok a, p')) : Tells limits replies x (some a) := by
  intro p o p' hx
  obtain ⟨p₁, hok⟩ := h p
  rw [hok] at hx
  cases hx
  rfl

theorem of_excused (he : excused a) (h : ∀ p b p', outcome replies x p = (.ok b, p') → b = a) :
    Means limits replies excused x (some a) := by
  intro p o p' hx
  cases o with
  | ok b => rw [h p b p' hx]
  | error stop =>
    refine .inr fun b hb => ?_
    cases hb
    exact he

end Means

/-! Elementary steps -/

theorem note_tells (parts : List Text) : Tells limits replies (Step.note parts) (some ()) :=
  .of_ok fun p => ⟨_, Step.outcome_note replies p parts⟩

theorem query_tells (topic : Topic) (name : Text) :
    Tells limits replies (Step.query topic name) (some (answerOf replies topic name)) :=
  .of_ok fun p => ⟨_, Step.outcome_query replies p topic name⟩

theorem queryAll_tells (topic : Topic) (names : List Text) :
    Tells limits replies (Step.queryAll topic names) (some (names.map (answerOf replies topic))) :=
  .of_ok fun p => ⟨_, Step.outcome_queryAll replies p topic names⟩

theorem ofPlan_tells (x : Plan α) : Tells limits replies (Step.ofPlan x) (some (x.value replies)) :=
  .of_ok fun p => ⟨_, outcome_ofPlan replies x p⟩

theorem ofExcept_tells (x : Except Fault α) : Tells limits replies (Step.ofExcept x) x.toOption := by
  cases x with
  | ok a => exact .pure a
  | error f => exact .throw (.fault f)

theorem count_tells (term : Text) : Tells limits replies (Step.count limits term) (some ()) := by
  intro p o p' hx
  rw [Step.outcome_count] at hx
  split at hx
  · rename_i hover
    cases hx
    exact .inl ⟨.inl hover, _, rfl⟩
  · cases hx
    rfl

theorem countVoid_tells (term : Text) : Tells limits replies (Step.countVoid limits term) (some ()) := by
  intro p o p' hx
  rw [Step.outcome_countVoid] at hx
  split at hx
  · rename_i hover
    cases hx
    exact .inl ⟨.inr hover, _, rfl⟩
  · cases hx
    rfl

/-! Mechanisms that follow no record -/

theorem withRecords_tells (answer : Answer) {onRecords : List Datum → Step Outcome}
    {outcomeOf : List Datum → Outcome}
    (h : Tells s.limits replies (onRecords answer.records) (some (outcomeOf answer.records))) :
    Tells s.limits replies (withRecords s label answer onRecords)
      (some (recordsOutcome answer outcomeOf)) := by
  unfold withRecords recordsOutcome
  cases answer.error with
  | some reason => exact .behind (note_tells _) (.pure _)
  | none =>
    dsimp only
    split
    · exact .behind (note_tells _) (.behind (countVoid_tells label) (.pure _))
    · exact h

theorem matchHosts_tells (failed : Bool) (answers : List (Text × Answer)) :
    Tells s.limits replies (matchHosts s label t failed answers) (some (hostsOutcome s t failed answers)) := by
  induction answers generalizing failed with
  | nil => exact .pure _
  | cons a rest ih =>
    obtain ⟨host, answer⟩ := a
    unfold matchHosts hostsOutcome
    cases answer.error with
    | some reason => exact .behind (note_tells _) (ih true)
    | none =>
      dsimp only
      split
      · exact .pure _
      · exact ih failed

theorem confirmNames_tells (answers : List (Text × Answer)) :
    Tells s.limits replies (confirmNames s label answers) (some (namesOutcome s answers)) := by
  induction answers with
  | nil => exact .pure _
  | cons a rest ih =>
    obtain ⟨name, answer⟩ := a
    unfold confirmNames namesOutcome
    split
    · exact .behind (note_tells _) (.pure _)
    · exact .behind (note_tells _) ih

theorem matchAddresses_tells (hk : t.kind = .a) :
    Tells s.limits replies (matchAddresses s label target t) (some (lookupOutcome s replies target t)) := by
  simp only [lookupOutcome, hk]
  exact .behind (query_tells _ _) (withRecords_tells _ (.pure _))

theorem matchExchanges_tells (hk : t.kind = .mx) :
    Tells s.limits replies (matchExchanges s label target t) (some (lookupOutcome s replies target t)) := by
  simp only [lookupOutcome, hk]
  refine .behind (query_tells _ _) (withRecords_tells _ ?_)
  split
  · exact .behind (note_tells _) (.pure _)
  · exact .behind (queryAll_tells _ _) (matchHosts_tells false _)

theorem matchNames_tells (hk : t.kind = .ptr) :
    Tells s.limits replies (matchNames s label target) (some (lookupOutcome s replies target t)) := by
  simp only [lookupOutcome, hk]
  refine .behind (query_tells _ _) ?_
  cases (answerOf replies .names s.address.text).error with
  | some reason => exact .behind (note_tells _) (.pure _)
  | none => exact withRecords_tells _ (.behind (queryAll_tells _ _) (confirmNames_tells _))

theorem matchExistence_tells (hk : t.kind = .existence) :
    Tells s.limits replies (matchExistence s label target) (some (lookupOutcome s replies target t)) := by
  simp only [lookupOutcome, hk]
  exact .behind (query_tells _ _) (withRecords_tells _ (.pure _))

/-! Following records -/

/-- A failure that is to be explained may end in a fault instead. -/
def Unexplained (explains : Bool) (verdict : Verdict) : Prop := explains = true ∧ verdict = .fail

def FollowsMeaning (s : Setting) (replies : Query → Reply) (path : List Text) (follow : Follow)
    (verdict : Text → Option Verdict) : Prop :=
  ∀ target explains, Means s.limits replies (Unexplained explains)
    (follow target (path ++ [target]) explains) (verdict target)

theorem guardLoop_means {excused : α → Prop} {stop : List Text → Stop} {f : Unit → Step α}
    {g : Verdict → Option α}
    (h : Means s.limits replies excused (f ()) ((verdict target).bind g)) :
    Means s.limits replies excused (guardLoop s stop path target >>= f)
      ((unlooped s path verdict target).bind g) := by
  unfold guardLoop unlooped
  split
  · have hstop : Tells s.limits replies (throw (stop (path ++ [target])) : Step Unit) none := .throw _
    exact hstop.bind (g := fun _ => none) fun _ h => nomatch h
  · exact h

theorem matchInclude_tells (hf : FollowsMeaning s replies path follow verdict) :
    Tells s.limits replies (matchInclude s follow label target path)
      ((unlooped s path verdict target).bind fun v => some (includeOutcome v)) := by
  refine guardLoop_means ((hf target false).bind_excused ?_ fun v _ => ?_)
  · exact fun _ _ hexcused _ => Bool.noConfusion hexcused.1
  · refine .behind (note_tells _) ?_
    cases v with
    | none => exact .behind (countVoid_tells label) (.pure _)
    | _ => exact .pure _

theorem matchTerm_tells (hf : FollowsMeaning s replies path follow verdict) (t : Term) :
    Tells s.limits replies (matchTerm s follow domain path t)
      (termOutcome s replies (unlooped s path verdict) domain t) := by
  have counted {f : Text → Step Outcome} {g : Text → Option Outcome}
      (h : ∀ target, Tells s.limits replies (f target) (g target)) :
      Tells s.limits replies (do
          Step.count s.limits (Text.phrase [domain, ": ", t.compose])
          f (← Step.ofExcept (s.target t domain)))
        ((s.target t domain).toOption.bind g) :=
    .behind (count_tells _) ((ofExcept_tells _).bind fun target _ => h target)
  cases hk : t.kind with
  | all => simp only [matchTerm, termOutcome, hk]; exact .pure _
  | ip4 => simp only [matchTerm, termOutcome, hk]; exact .pure _
  | ip6 => simp only [matchTerm, termOutcome, hk]; exact .pure _
  | inclusion =>
    simp only [matchTerm, termOutcome, hk, Option.map_eq_bind]
    exact counted fun target => matchInclude_tells hf
  | a =>
    simp only [matchTerm, termOutcome, hk, Option.map_eq_bind]
    exact counted fun target => matchAddresses_tells hk
  | mx =>
    simp only [matchTerm, termOutcome, hk, Option.map_eq_bind]
    exact counted fun target => matchExchanges_tells hk
  | ptr =>
    simp only [matchTerm, termOutcome, hk, Option.map_eq_bind]
    exact counted fun target => matchNames_tells hk
  | existence =>
    simp only [matchTerm, termOutcome, hk, Option.map_eq_bind]
    exact counted fun target => matchExistence_tells hk
  | redirect | exp | unknown | unknownModifier =>
    have hother (target : Text) : lookupOutcome s replies target t = .unmatched := by
      simp only [lookupOutcome, hk]
    simp only [matchTerm, termOutcome, hk, Option.map_eq_bind, Function.comp_def, hother]
    exact counted fun target => .pure _

theorem firstDecisive_tells {attempt : Term → Step Outcome} {outcomeOf : Term → Option Outcome}
    (h : ∀ t, Tells limits replies (attempt t) (outcomeOf t)) (ts : List Term) :
    Tells limits replies (firstDecisive attempt ts) (decisive outcomeOf ts) := by
  induction ts with
  | nil => exact .pure _
  | cons t rest ih =>
    refine (h t).bind fun o _ => ?_
    split
    · exact ih
    · exact .pure _

theorem redirect_means (hf : FollowsMeaning s replies path follow verdict) {r : Record} {value : Text}
    (hr : r.redirect = some value) (explains : Bool) :
    Means s.limits replies (Unexplained explains) (redirect s follow value domain path explains)
      (endingVerdict s (unlooped s path verdict) r domain) := by
  simp only [endingVerdict, hr, Option.map_eq_bind]
  refine .behind (count_tells _) ((ofExcept_tells _).bind fun target _ => ?_)
  refine guardLoop_means (.behind (note_tells _) ((hf target explains).bind_excused ?_ fun v _ => ?_))
  · rintro v w ⟨hexplains, rfl⟩ hw
    exact ⟨hexplains, (Option.some.inj hw).symm⟩
  · by_cases hv : v = .none
    · simp only [hv, if_true, Function.comp_def]
      exact .behind (note_tells _) (.pure _)
    · simp only [hv, if_false, Function.comp_def]
      exact .pure _

theorem evaluateRecord_means (hf : FollowsMeaning s replies path follow verdict) (r : Record)
    (explains : Bool) :
    Means s.limits replies (Unexplained explains) (evaluateRecord s follow r domain path explains)
      (recordVerdict s replies (unlooped s path verdict) r domain) := by
  refine (firstDecisive_tells (matchTerm_tells hf) _).bind fun found _ => ?_
  cases found with
  | none =>
    cases hr : r.redirect with
    | some value => simpa only [hr] using redirect_means hf hr explains
    | none =>
      simp only [endingVerdict, hr]
      exact .behind (note_tells _) (.pure _)
  | some found =>
    obtain ⟨t, o⟩ := found
    have hmatched : Means s.limits replies (Unexplained explains) (do
        Step.note [domain, ": ", t.compose, " matched (", t.qualifier.verdict.name, ")"]
        if t.qualifier.verdict = .fail ∧ explains then explain s r domain
        return t.qualifier.verdict) (some t.qualifier.verdict) := by
      refine .behind (note_tells _) ?_
      by_cases he : t.qualifier.verdict = .fail ∧ explains = true
      · rw [if_pos he]
        refine .of_excused ⟨he.2, he.1⟩ fun p b p' hb => ?_
        obtain ⟨_, _, -, hend⟩ := bind_eq_ok hb
        cases hend
        rfl
      · rw [if_neg he]
        exact .pure _
    cases o with
    | permerror => exact .pure _
    | temperror => exact .pure _
    | matched => exact hmatched
    | unmatched => exact hmatched

theorem noteAll_tells (problems : List Text) :
    Tells limits replies (noteAll domain problems) (some ()) := by
  induction problems with
  | nil => exact .pure ()
  | cons problem rest ih => exact .behind (note_tells _) ih

theorem visit_means (hf : FollowsMeaning s replies path follow verdict) (explains : Bool) :
    Means s.limits replies (Unexplained explains) (visit s follow domain path explains)
      (domainVerdict s replies (unlooped s path verdict) domain) := by
  refine .behind (ofPlan_tells (published domain)) ?_
  unfold domainVerdict
  cases (published domain).value replies with
  | error u => exact .behind (note_tells _) (.pure _)
  | ok publication =>
    refine .behind (note_tells _) ?_
    dsimp only
    refine (ofExcept_tells _).bind fun assessment _ => ?_
    cases Record.parse? publication.record with
    | none => exact .behind (noteAll_tells _) (.pure _)
    | some record =>
      cases assessment.isValid with
      | true => exact evaluateRecord_means hf record explains
      | false => exact .behind (noteAll_tells _) (.pure _)

/-! Domains -/

/-- Below the last level every evaluation stops, as it does over a limit. -/
def halt : Follow := fun _ _ _ => throw (.excess (.lookups 0 0 []))

theorem checkHostAbove_means (depth : Nat) (domain : Text) (path : List Text) (explains : Bool) :
    Means s.limits replies (Unexplained explains) (checkHostAbove s halt depth domain path explains)
      (judgeAlong s replies depth path domain) := by
  induction depth generalizing domain path explains with
  | zero => exact visit_means (fun target explains => .throw _) explains
  | succ depth ih => exact visit_means (fun target explains => ih target _ explains) explains

theorem evaluateDomain_of_judge {v : Verdict} (h : judge s replies n domain = some v) (hv : v ≠ .fail) :
    ∃ result, (evaluateDomain s domain).value replies = .ok result ∧
      (result.verdict = v ∨ Exceeds s.limits result.tally) := by
  obtain ⟨m, -, hm, hleast⟩ := exists_least h
  have halong : judgeAlong s replies m [domain] domain = some v :=
    judgeAlong_of_judge hm fun g hg k hk => by rw [List.mem_singleton.mp hg]; exact hleast k hk
  have hdeep : judgeAlong s replies (max m s.limits.lookups.toNat) [domain] domain = some v :=
    judgeAlong_mono (Nat.le_max_left _ _) [domain] domain v halong
  have hmeans : Means s.limits replies (Unexplained true)
      (checkHostAbove s halt (max m s.limits.lookups.toNat) domain [domain] true)
      (judgeAlong s replies (max m s.limits.lookups.toNat) [domain] domain) :=
    checkHostAbove_means _ domain [domain] true
  have hsame := checkHostAbove_run s halt (Nat.le_max_right m s.limits.lookups.toNat) domain [domain] true
  unfold evaluateDomain
  rw [Plan.value_bind]
  cases hrun : ((checkHost s s.limits.lookups.toNat domain [domain] true).run.run {}).value replies with
  | mk o p =>
    have hend := hmeans {} o p (by rw [outcome, hsame, hrun])
    cases o with
    | ok w =>
      have hw : w = v := Option.some.inj (hend.symm.trans hdeep)
      exact ⟨.ofProgress w p, rfl, .inl hw⟩
    | error stop =>
      obtain ⟨hover, e, rfl⟩ := hend.resolve_right fun hall => hv (hall v hdeep).2
      exact ⟨_, rfl, .inr hover⟩

end SenderPolicy.Evaluation
