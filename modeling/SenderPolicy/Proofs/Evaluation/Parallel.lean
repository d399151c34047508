import SenderPolicy.Proofs.Evaluation.Comparison

/-!
Two evaluations of a policy side by side, construct by construct. What a mechanism comes to does not depend
on the order of the records that it finds; an include or a redirect comes to the same if following its target
does.
-/
namespace SenderPolicy.Evaluation
open Dns Dns.Work
variable {s : Setting} {t : Term} {replies : Query → Reply}

/-! Outcomes that are told of the answers as a whole -/

theorem hostsOutcome_eq (failed : Bool) (answers : List (Text × Answer)) :
    hostsOutcome s t failed answers =
      if answers.any fun x => x.2.error.isNone && s.matchesAny (x.2.records.map (·.asText)) t then .matched
      else if failed || answers.any fun x => x.2.error.isSome then .temperror else .unmatched := by
  induction answers generalizing failed with
  | nil => simp [hostsOutcome]
  | cons a rest ih =>
    obtain ⟨host, answer⟩ := a
    unfold hostsOutcome
    cases he : answer.error with
    | some reason =>
      simp only [ih, List.any_cons, he, Option.isNone_some, Option.isSome_some, Bool.false_and,
        Bool.false_or, Bool.true_or, Bool.or_true]
    | none =>
      dsimp only
      by_cases hm : s.matchesAny (answer.records.map (·.asText)) t = true
      · simp only [List.any_cons, hm, he, Option.isNone_none, Bool.and_self, Bool.true_or, if_true]
      · rw [if_neg hm, ih]
        simp only [List.any_cons, he, Option.isNone_none, Option.isSome_none, Bool.true_and,
          Bool.eq_false_iff.mpr hm, Bool.false_or]

theorem namesOutcome_eq (answers : List (Text × Answer)) :
    namesOutcome s answers = .ofBool (answers.any fun x =>
      (x.2.records.map fun r => Address.parse? r.asText).contains (some s.address)) := by
  induction answers with
  | nil => rfl
  | cons a rest ih =>
    obtain ⟨name, answer⟩ := a
    unfold namesOutcome
    split
    · rename_i hm
      simp only [List.any_cons, hm, Bool.true_or]
      rfl
    · rename_i hm
      simp only [List.any_cons, ih, Bool.eq_false_iff.mpr hm, Bool.false_or]

def soleText? (a : Answer) : Option Text :=
  match a.error, a.records with
  | none, [text] => some text.asText
  | _, _ => none

def explainFrom (s : Setting) (domain target : Text) : Option Text → Step Unit
  | some text => do
    let explanation ← Step.ofExcept (s.expand text domain)
    modify (fun progress => { progress with explanation := some explanation })
  | none => Step.note [domain, ": no usable explanation at ", target]

theorem explain_eq (s : Setting) (r : Record) (domain : Text) :
    explain s r domain =
      (match r.exp with
      | none | some [] => pure ()
      | some value => do
        let target ← Step.ofExcept (s.expandName value domain)
        let answer ← Step.query .texts target
        explainFrom s domain target (soleText? answer)) := by
  unfold explain soleText?
  match r.exp with
  | none => rfl
  | some [] => rfl
  | some (c :: rest) =>
    refine bind_congr fun target => bind_congr fun answer => ?_
    cases answer.error with
    | some reason => rfl
    | none =>
      match answer.records with
      | [] => rfl
      | [_] => rfl
      | _ :: _ :: _ => rfl

theorem soleText?_of_alike {a b : Answer} (h : a.Alike b) : soleText? b = soleText? a := by
  have hfailed := h.failed
  have hlength := h.length_records
  unfold soleText?
  cases ha : a.error <;> cases hb : b.error <;> rw [ha, hb] at hfailed
  · match hra : a.records with
    | [d] =>
      obtain ⟨e, he, htext⟩ := h.singleton hra
      rw [he]
      exact congrArg some htext
    | [] =>
      rw [hra] at hlength
      rw [List.length_eq_zero_iff.mp hlength.symm]
    | _ :: _ :: rest =>
      rw [hra] at hlength
      match hrb : b.records with
      | [] => rfl
      | [_] => rw [hrb] at hlength; cases hlength
      | _ :: _ :: _ => rfl
  · cases hfailed
  · cases hfailed

theorem matchesAny_of_perm {addresses addresses' : List Text} (h : addresses.Perm addresses') :
    s.matchesAny addresses t = s.matchesAny addresses' t :=
  h.any_eq

theorem candidates_perm {a b : Answer} (target : Text) (h : a.Alike b)
    (hmany : maxReverseNames < a.records.length → b.records = a.records) :
    (candidates target a.records).Perm (candidates target b.records) := by
  by_cases hlength : maxReverseNames < a.records.length
  · rw [hmany hlength]
  · have hfew : a.records.length ≤ maxReverseNames := Nat.le_of_not_lt hlength
    unfold candidates
    rw [List.take_of_length_le (by rwa [List.length_map]),
      List.take_of_length_le (by rwa [List.length_map, ← h.length_records])]
    exact (perm_map_of_whole (fun d => by rw [Datum.asText_whole]) h.records).filter _

namespace Comparison
variable {C : Comparison} {label label' domain target : Text} {path path' : List Text}
  {explains explains' : Bool} {follow follow' : Follow}

/-! What the message is, is the same. -/

theorem addressTopic_eq (C : Comparison) : C.second.addressTopic = C.first.addressTopic := by
  simp only [Setting.addressTopic, C.address]

theorem expand_eq (C : Comparison) (value domain : Text) :
    C.second.expand value domain = C.first.expand value domain := by
  simp only [Setting.expand, Setting.context, C.address, C.sender, C.helo, C.now]

theorem expandName_eq (C : Comparison) (value domain : Text) :
    C.second.expandName value domain = C.first.expandName value domain := by
  simp only [Setting.expandName, C.expand_eq]

theorem target_eq (C : Comparison) (t : Term) (domain : Text) :
    C.second.target t domain = C.first.target t domain := by
  simp only [Setting.target, C.expandName_eq]

theorem matchesAny_eq (C : Comparison) (addresses : List Text) (t : Term) :
    C.second.matchesAny addresses t = C.first.matchesAny addresses t := by
  simp only [Setting.matchesAny, Setting.matchLength, C.address]

theorem answer_alike (C : Comparison) (topic : Topic) (name : Text) :
    (answerOf C.replies topic name).Alike (answerOf C.replies' topic name) :=
  (C.rearranged.reply ⟨topic, name⟩).answer

theorem names_answer (C : Comparison) (name : Text)
    (h : maxReverseNames < (answerOf C.replies .names name).records.length) :
    (answerOf C.replies' .names name).records = (answerOf C.replies .names name).records := by
  unfold answerOf at h ⊢
  cases hr : C.replies ⟨.names, name⟩ with
  | records all =>
    rw [hr] at h
    rw [C.rearranged.names name all hr h]
  | _ => rw [hr] at h; cases h

/-! Mechanisms that follow no record -/

theorem query_parallel (topic : Topic) (name : Text) :
    C.Parallel (fun a b => a = answerOf C.replies topic name ∧ b = answerOf C.replies' topic name)
      (Step.query topic name) (Step.query topic name) :=
  parallel_of_steady (.query topic name) (.query topic name) ⟨rfl, rfl⟩

theorem withRecords_parallel {a b : Answer} {onRecords onRecords' : List Datum → Step Outcome}
    (h : a.Alike b) (hr : C.Parallel Eq (onRecords a.records) (onRecords' b.records)) :
    C.Parallel Eq (withRecords C.first label a onRecords) (withRecords C.second label' b onRecords') := by
  have hfailed := h.failed
  unfold withRecords
  rw [← h.isVoid]
  cases ha : a.error <;> cases hb : b.error <;> rw [ha, hb] at hfailed
  · dsimp only
    split
    · exact .behind (.note _ _) (.behind (.countVoid _ _) (.pure rfl))
    · exact hr
  · cases hfailed
  · cases hfailed
  · exact .behind (.note _ _) (.pure rfl)

theorem matchAddresses_parallel (t : Term) :
    C.Parallel Eq (matchAddresses C.first label target t) (matchAddresses C.second label' target t) := by
  unfold matchAddresses
  rw [C.addressTopic_eq]
  refine (query_parallel _ _).bind fun a b hab => ?_
  obtain ⟨rfl, rfl⟩ := hab
  have halike := C.answer_alike C.first.addressTopic target
  refine withRecords_parallel halike (.pure ?_)
  rw [C.matchesAny_eq, matchesAny_of_perm halike.texts]

theorem hostsOutcome_of_perm {hosts hosts' : List Text} (h : hosts.Perm hosts') :
    hostsOutcome C.first t false (hosts.zip (hosts.map (answerOf C.replies C.first.addressTopic))) =
      hostsOutcome C.second t false
        (hosts'.zip (hosts'.map (answerOf C.replies' C.second.addressTopic))) := by
  have hmatch (host : Text) :
      ((answerOf C.replies C.first.addressTopic host).error.isNone &&
        C.first.matchesAny ((answerOf C.replies C.first.addressTopic host).records.map (·.asText)) t) =
      ((answerOf C.replies' C.second.addressTopic host).error.isNone &&
        C.second.matchesAny ((answerOf C.replies' C.second.addressTopic host).records.map (·.asText)) t) := by
    have halike := C.answer_alike C.first.addressTopic host
    rw [C.addressTopic_eq, C.matchesAny_eq, matchesAny_of_perm halike.texts, ← Option.not_isSome,
      ← Option.not_isSome, halike.failed]
  have hfail (host : Text) : (answerOf C.replies C.first.addressTopic host).error.isSome =
      (answerOf C.replies' C.second.addressTopic host).error.isSome := by
    rw [C.addressTopic_eq]
    exact (C.answer_alike C.first.addressTopic host).failed
  rw [hostsOutcome_eq, hostsOutcome_eq, ← List.map_prod_left_eq_zip, ← List.map_prod_left_eq_zip]
  simp only [List.any_map, Function.comp_def, hmatch, hfail, h.any_eq]

theorem matchExchanges_parallel (t : Term) :
    C.Parallel Eq (matchExchanges C.first label target t) (matchExchanges C.second label' target t) := by
  refine (query_parallel _ _).bind fun a b hab => ?_
  obtain ⟨rfl, rfl⟩ := hab
  have halike := C.answer_alike .exchanges target
  refine withRecords_parallel halike ?_
  rw [← halike.length_records]
  split
  · exact .behind (.note _ _) (.pure rfl)
  · refine parallel_of_steady (.bind (.queryAll _ _) (.matchHosts _ _))
      (.bind (.queryAll _ _) (.matchHosts _ _)) (hostsOutcome_of_perm ?_)
    exact perm_map_of_whole (fun d => by rw [Datum.asText_whole]) halike.records

theorem namesOutcome_of_perm {names names' : List Text} (h : names.Perm names') :
    namesOutcome C.first (names.zip (names.map (answerOf C.replies C.first.addressTopic))) =
      namesOutcome C.second
        (names'.zip (names'.map (answerOf C.replies' C.second.addressTopic))) := by
  have hconfirm (name : Text) :
      ((answerOf C.replies C.first.addressTopic name).records.map
        fun r => Address.parse? r.asText).contains (some C.first.address) =
      ((answerOf C.replies' C.second.addressTopic name).records.map
        fun r => Address.parse? r.asText).contains (some C.second.address) := by
    have halike := C.answer_alike C.first.addressTopic name
    rw [C.addressTopic_eq, C.address]
    exact (perm_map_of_whole (fun d => by rw [Datum.asText_whole]) halike.records).contains_eq
  rw [namesOutcome_eq, namesOutcome_eq, ← List.map_prod_left_eq_zip, ← List.map_prod_left_eq_zip]
  simp only [List.any_map, Function.comp_def, hconfirm, h.any_eq]

theorem matchNames_parallel :
    C.Parallel Eq (matchNames C.first label target) (matchNames C.second label' target) := by
  unfold matchNames
  rw [C.address]
  refine (query_parallel _ _).bind fun a b hab => ?_
  obtain ⟨rfl, rfl⟩ := hab
  have halike := C.answer_alike .names C.first.address.text
  have hmany := C.names_answer C.first.address.text
  generalize answerOf C.replies .names C.first.address.text = a at halike hmany ⊢
  generalize answerOf C.replies' .names C.first.address.text = b at halike hmany ⊢
  have hfailed := halike.failed
  cases ha : a.error <;> cases hb : b.error <;> rw [ha, hb] at hfailed
  · refine withRecords_parallel halike ?_
    exact parallel_of_steady (.bind (.queryAll _ _) (.confirmNames _))
      (.bind (.queryAll _ _) (.confirmNames _)) (namesOutcome_of_perm (candidates_perm target halike hmany))
  · cases hfailed
  · cases hfailed
  · exact .behind (.note _ _) (.pure rfl)

theorem matchExistence_parallel :
    C.Parallel Eq (matchExistence C.first label target) (matchExistence C.second label' target) := by
  refine (query_parallel _ _).bind fun a b hab => ?_
  obtain ⟨rfl, rfl⟩ := hab
  exact withRecords_parallel (C.answer_alike .shortAddresses target) (.pure rfl)

/-! Following records -/

/-- The paths of the two: either both end loops, along one path, or the second goes round them where the
first is forgiven for its end. -/
def OnPaths (C : Comparison) (path path' : List Text) : Prop :=
  C.first.endsLoops = C.second.endsLoops ∧ path = path' ∨
    C.second.endsLoops = false ∧
      (C.first.endsLoops = true → ∀ path, C.forgives (.includeLoop path) ∧ C.forgives (.redirectLoop path))

/-- Both explain a failure, or neither does; or only the first does, whose explanation then does not count. -/
def OnFlags (C : Comparison) (explains explains' : Bool) : Prop :=
  explains = explains' ∨
    explains' = false ∧ C.explained = false ∧ ∀ f, C.forgives (.fault f)

theorem OnPaths.append (h : C.OnPaths path path') (target : Text) :
    C.OnPaths (path ++ [target]) (path' ++ [target]) :=
  h.imp (fun ⟨hends, hpath⟩ => ⟨hends, congrArg (· ++ [target]) hpath⟩) id

def FollowsParallel (C : Comparison) (follow follow' : Follow) : Prop :=
  ∀ target path path' explains explains', C.OnPaths path path' → C.OnFlags explains explains' →
    C.Parallel Eq (follow target path explains) (follow' target path' explains')

theorem guardLoop_parallel {stop : List Text → Stop} (hstop : stop = .includeLoop ∨ stop = .redirectLoop)
    (h : C.OnPaths path path') :
    C.Abreast (guardLoop C.first stop path target) (guardLoop C.second stop path' target) := by
  obtain ⟨hends, rfl⟩ | ⟨hends, hforgives⟩ := h
  · unfold guardLoop
    rw [hends]
    split
    · cases hstop with
      | inl hstop => rw [hstop]; exact .throw rfl
      | inr hstop => rw [hstop]; exact .throw rfl
    · exact .pure trivial
  · have hpass : guardLoop C.second stop path' target = pure () :=
      if_neg fun hloop => Bool.noConfusion (hends.symm.trans hloop.1)
    rw [hpass, guardLoop]
    split
    · rename_i hloop
      obtain ⟨hinclude, hredirect⟩ := hforgives hloop.1 (path ++ [target])
      cases hstop with
      | inl hstop => rw [hstop]; exact .forgiven hinclude
      | inr hstop => rw [hstop]; exact .forgiven hredirect
    · exact .pure trivial

theorem matchInclude_parallel (hf : C.FollowsParallel follow follow') (hp : C.OnPaths path path') :
    C.Parallel Eq (matchInclude C.first follow label target path)
      (matchInclude C.second follow' label' target path') := by
  refine .behind (guardLoop_parallel (.inl rfl) hp) ?_
  refine (hf target _ _ false false (hp.append target) (.inl rfl)).bind fun v v' hv => ?_
  subst hv
  refine .behind (.note _ _) ?_
  cases v with
  | none => exact .behind (.countVoid _ _) (.pure rfl)
  | _ => exact .pure rfl

theorem matchTerm_parallel (hf : C.FollowsParallel follow follow') (hp : C.OnPaths path path') (t : Term) :
    C.Parallel Eq (matchTerm C.first follow domain path t) (matchTerm C.second follow' domain path' t) := by
  have counted {f g : Text → Step Outcome} (h : ∀ target, C.Parallel Eq (f target) (g target)) :
      C.Parallel Eq
        (do
          Step.count C.first.limits (Text.phrase [domain, ": ", t.compose])
          f (← Step.ofExcept (C.first.target t domain)))
        (do
          Step.count C.second.limits (Text.phrase [domain, ": ", t.compose])
          g (← Step.ofExcept (C.second.target t domain))) := by
    rw [C.target_eq]
    exact .behind (.count _ _) ((Parallel.ofExcept _).bind fun target _ heq => heq ▸ h target)
  cases hk : t.kind with
  | all => simp only [matchTerm, hk]; exact .pure rfl
  | ip4 | ip6 =>
    simp only [matchTerm, hk]
    exact .pure (by rw [C.address])
  | a => simp only [matchTerm, hk]; exact counted fun target => matchAddresses_parallel t
  | mx => simp only [matchTerm, hk]; exact counted fun target => matchExchanges_parallel t
  | ptr => simp only [matchTerm, hk]; exact counted fun target => matchNames_parallel
  | inclusion => simp only [matchTerm, hk]; exact counted fun target => matchInclude_parallel hf hp
  | existence => simp only [matchTerm, hk]; exact counted fun target => matchExistence_parallel
  | redirect | exp | unknown | unknownModifier =>
    simp only [matchTerm, hk]
    exact counted fun target => .pure rfl

theorem firstDecisive_parallel {attempt attempt' : Term → Step Outcome}
    (h : ∀ t, C.Parallel Eq (attempt t) (attempt' t)) (ts : List Term) :
    C.Parallel Eq (firstDecisive attempt ts) (firstDecisive attempt' ts) := by
  induction ts with
  | nil => exact .pure rfl
  | cons t rest ih =>
    refine (h t).bind fun o o' ho => ?_
    subst ho
    split
    · exact ih
    · exact .pure rfl

theorem explain_parallel (r : Record) (domain : Text) :
    C.Abreast (explain C.first r domain) (explain C.second r domain) := by
  rw [explain_eq, explain_eq]
  split
  · exact .pure trivial
  · exact .pure trivial
  · rw [C.expandName_eq]
    refine (Parallel.ofExcept _).bind fun target _ heq => ?_
    subst heq
    refine (query_parallel _ _).bind fun a b hab => ?_
    obtain ⟨rfl, rfl⟩ := hab
    rw [soleText?_of_alike (C.answer_alike .texts target)]
    cases soleText? (answerOf C.replies .texts target) with
    | none => exact .note _ _
    | some text =>
      simp only [explainFrom, C.expand_eq]
      refine (Parallel.ofExcept _).bind fun explanation _ heq p q hn => ?_
      subst heq
      exact .inr ⟨trivial, ⟨hn.lookups, hn.voids, fun _ => rfl⟩⟩

theorem explain_alone (hx : C.explained = false) (hfault : ∀ f, C.forgives (.fault f)) (r : Record)
    (domain : Text) : C.Abreast (explain C.first r domain) (pure ()) := by
  have skip {α : Type} {x : Step α} {f : α → Step Unit} {R : α → Unit → Prop}
      (h : C.Parallel R x (pure ())) (hf : ∀ a, C.Abreast (f a) (pure ())) :
      C.Abreast (x >>= f) (pure ()) :=
    h.bind (g := fun _ => pure ()) fun a _ _ => hf a
  have ofExcept {α : Type} (x : Except Fault α) :
      C.Parallel (fun _ _ => True) (Step.ofExcept x) (pure ()) := by
    cases x with
    | ok a => exact .pure trivial
    | error f => exact .forgiven (hfault f)
  rw [explain_eq]
  split
  · exact .pure trivial
  · exact .pure trivial
  · refine skip (ofExcept _) fun target => ?_
    refine skip (R := fun _ _ => True) (parallel_of_steady (.query _ _) (.pure ()) trivial) fun answer => ?_
    cases soleText? answer with
    | none => exact parallel_of_steady (.note _) (.pure ()) trivial
    | some text =>
      refine skip (ofExcept _) fun explanation p q hn => .inr ⟨trivial, ⟨hn.lookups, hn.voids, ?_⟩⟩
      exact fun hexplained => absurd (hx.symm.trans hexplained) (by decide)

theorem redirect_parallel (hf : C.FollowsParallel follow follow') (hp : C.OnPaths path path')
    (he : C.OnFlags explains explains') (value : Text) :
    C.Parallel Eq (redirect C.first follow value domain path explains)
      (redirect C.second follow' value domain path' explains') := by
  unfold redirect
  rw [C.expandName_eq]
  refine .behind (.count _ _) ((Parallel.ofExcept _).bind fun target _ heq => ?_)
  subst heq
  refine .behind (guardLoop_parallel (.inr rfl) hp) (.behind (.note _ _) ?_)
  refine (hf target _ _ explains explains' (hp.append target) he).bind fun v v' hv => ?_
  subst hv
  split
  · exact .behind (.note _ _) (.pure rfl)
  · exact .pure rfl

theorem evaluateRecord_parallel (hf : C.FollowsParallel follow follow') (hp : C.OnPaths path path')
    (he : C.OnFlags explains explains') (r : Record) :
    C.Parallel Eq (evaluateRecord C.first follow r domain path explains)
      (evaluateRecord C.second follow' r domain path' explains') := by
  refine (firstDecisive_parallel (matchTerm_parallel hf hp) _).bind fun found _ heq => ?_
  subst heq
  split
  · exact .pure rfl
  · exact .pure rfl
  · rename_i t o _ _
    refine .behind (.note _ _) ?_
    obtain rfl | ⟨rfl, hx, hfault⟩ := he
    · split
      · exact (explain_parallel r domain).behind (.pure rfl)
      · exact .pure rfl
    · have hsilent : ¬ (t.qualifier.verdict = .fail ∧ false = true) := fun hc => absurd hc.2 (by decide)
      rw [if_neg hsilent]
      split
      · exact (explain_alone hx hfault r domain).behind (g := fun _ => pure t.qualifier.verdict) (.pure rfl)
      · exact .pure rfl
  · split
    · exact redirect_parallel hf hp he _
    · exact .behind (.note _ _) (.pure rfl)

theorem visit_parallel (hf : C.FollowsParallel follow follow') :
    C.FollowsParallel (visit C.first follow) (visit C.second follow') := by
  intro domain path path' explains explains' hp he
  have hsame : SamePublication ((published domain).value C.replies) ((published domain).value C.replies') :=
    (C.answer_alike .texts (Domain.normalized domain)).publication _
  refine (parallel_of_steady (.ofPlan _) (.ofPlan _) hsame).bind fun fetched fetched' hfetched => ?_
  cases fetched with
  | error u =>
    cases fetched' with
    | error u' => exact .behind (.note _ _) (.pure hfetched)
    | ok publication' => exact hfetched.elim
  | ok publication =>
    cases fetched' with
    | error u' => exact hfetched.elim
    | ok publication' =>
      have hrecord : publication.record = publication'.record := hfetched
      refine .behind (.note _ _) ?_
      rw [← hrecord]
      refine (Parallel.ofExcept _).bind fun assessment _ heq => ?_
      subst heq
      split
      · exact evaluateRecord_parallel hf hp he _
      · exact (parallel_of_steady (.noteAll _ _) (.noteAll _ _) trivial).behind (.pure rfl)

/-- Domains evaluated by as many levels, above whatever goes side by side below. -/
theorem checkHostAbove_parallel (hf : C.FollowsParallel follow follow') (depth : Nat) :
    C.FollowsParallel (checkHostAbove C.first follow depth) (checkHostAbove C.second follow' depth) := by
  induction depth with
  | zero => exact visit_parallel hf
  | succ depth ih => exact visit_parallel ih

theorem checkHost_parallel (depth : Nat) :
    C.FollowsParallel (checkHost C.first depth) (checkHost C.second depth) := by
  rw [checkHost_eq_above, checkHost_eq_above]
  exact checkHostAbove_parallel (fun _ _ _ _ _ _ _ => .pure rfl) depth

end Comparison
end SenderPolicy.Evaluation
