import Mathlib.Tactic.Choose
import SenderPolicy.Proofs.Evaluation.Parallel

/-!
When the names of the client's address match. Of the first names of the address those at or below the target are asked
for, and one of them has to lead back to the address. Whatever fails on the way only means that nothing matches.
-/
namespace SenderPolicy.Evaluation
open Dns Dns.Work
variable {s : Setting} {target name : Text} {p : Progress} {r : Reply}

/-- The name is the target, or it ends with a dot and the target. -/
def IsAtOrBelow (target name : Text) : Prop := name = target ∨ ('.' :: target) <:+ name

instance (target name : Text) : Decidable (IsAtOrBelow target name) := inferInstanceAs (Decidable (_ ∨ _))

/-- Of the first ten names of a reply, each brought to its one form, those at or below the target. -/
def namesBelow (target : Text) : Reply → List Text
  | .records all => ((all.take 10).map fun d => Domain.normalized d.asText).filter (IsAtOrBelow target ·)
  | _ => []

/-- The reply has a text that is read as the address. -/
def Confirms (a : Address) (r : Reply) : Prop := ∃ all, r = .records all ∧ ∃ d ∈ all, Address.parse? d.asText = some a

theorem isWithin_iff : Domain.isWithin target name = true ↔ IsAtOrBelow target name := by
  simp [Domain.isWithin, Text.endsWith, IsAtOrBelow, List.isSuffixOf_iff_suffix]

theorem candidates_eq (target : Text) (all : List Datum) :
    candidates target all = namesBelow target (.records all) := by
  rw [candidates, namesBelow, List.map_take]
  exact List.filter_congr fun name _ => by rw [Bool.eq_iff_iff, isWithin_iff, decide_eq_true_iff]

theorem length_namesBelow (target : Text) (r : Reply) : (namesBelow target r).length ≤ 10 := by
  cases r with
  | records all =>
    refine Nat.le_trans (List.length_filter_le _ _) ?_
    rw [List.length_map]
    exact List.length_take_le 10 all
  | _ => exact Nat.zero_le _

theorem confirms_iff {a : Address} :
    ((Answer.ofReply r).records.map fun d => Address.parse? d.asText).contains (some a) = true ↔ Confirms a r := by
  cases r <;> simp [Answer.ofReply, Confirms]

theorem run_confirmNames (s : Setting) (label : Text) (answers : List (Text × Answer)) (p : Progress) :
    ∃ p', (confirmNames s label answers).run.run p = pure (.ok (namesOutcome s answers), p') := by
  induction answers generalizing p with
  | nil => exact ⟨p, rfl⟩
  | cons x rest ih =>
    obtain ⟨name, answer⟩ := x
    unfold confirmNames namesOutcome
    split
    · exact ⟨_, rfl⟩
    · exact ih _

def withNames (s : Setting) (label target : Text) (answer : Answer) : Step Outcome := do
  match answer.error with
  | some reason =>
    Step.note [label, ": ", reason]
    return .unmatched
  | none =>
    withRecords s label answer (fun records => do
      let names := candidates target records
      let answers ← Step.queryAll s.addressTopic names
      confirmNames s label (names.zip answers))

theorem run_matchNames (s : Setting) (label target : Text) (p : Progress) :
    (matchNames s label target).run.run p =
      .ask ⟨.names, s.address.text⟩ fun r => (withNames s label target (.ofReply r)).run.run p := rfl

theorem run_withNames_of_isVoid (label target : Text) {answer : Answer} (hvoid : answer.isVoid = true)
    (hlimit : (p.tally.voids + 1 : Nat) ≤ s.limits.voids) :
    ∃ p', (withNames s label target answer).run.run p = pure (.ok .unmatched, p') := by
  have herror : answer.error = none := by simp_all [Answer.isVoid]
  have hwithin : ¬ s.limits.voids < ((p.noted (Text.phrase [label, ": void lookup"])).tally.voids + 1 : Nat) :=
    Int.not_lt.mpr hlimit
  refine ⟨(p.noted (Text.phrase [label, ": void lookup"])).voided, ?_⟩
  unfold withNames withRecords
  simp only [herror, hvoid, if_true, run_bind, Step.run_note, Step.run_countVoid, pure_bind, if_neg hwithin, run_pure]

theorem run_withNames_of_records (label target : Text) {answer : Answer} (herror : answer.error = none)
    (hvoid : answer.isVoid = false) :
    ∃ reached : List Answer → Progress, (withNames s label target answer).run.run p =
      Plan.queryAll s.addressTopic (candidates target answer.records) >>= fun answers =>
        pure (.ok (namesOutcome s ((candidates target answer.records).zip answers)), reached answers) := by
  choose reached hreached using fun answers =>
    run_confirmNames s label ((candidates target answer.records).zip answers) p
  refine ⟨reached, ?_⟩
  unfold withNames withRecords
  simp only [herror, hvoid, Bool.false_eq_true, if_false]
  rw [run_bind, show Step.queryAll = fun topic names => Work.ofPlan (Plan.queryAll topic names) from rfl, run_ofPlan]
  simp only [bind_assoc, pure_bind, hreached]

/-- The names at or below the target are asked for, and nothing else, if the reply does not go over the limit of lookups
in vain. -/
theorem run_withNames (label target : Text) (r : Reply)
    (hlimit : (Answer.ofReply r).isVoid = true → (p.tally.voids + 1 : Nat) ≤ s.limits.voids) :
    ∃ reached : List Answer → Progress, (withNames s label target (.ofReply r)).run.run p =
      Plan.queryAll s.addressTopic (namesBelow target r) >>= fun answers =>
        pure (.ok (namesOutcome s ((namesBelow target r).zip answers)), reached answers) := by
  have hnone (h : (Answer.ofReply r).isVoid = true) (hnames : namesBelow target r = []) :
      ∃ reached : List Answer → Progress, (withNames s label target (.ofReply r)).run.run p =
        Plan.queryAll s.addressTopic (namesBelow target r) >>= fun answers =>
          pure (.ok (namesOutcome s ((namesBelow target r).zip answers)), reached answers) := by
    obtain ⟨p', hp'⟩ := run_withNames_of_isVoid label target h (hlimit h)
    exact ⟨fun _ => p', by rw [hp', hnames]; rfl⟩
  cases r with
  | records all =>
    cases all with
    | nil => exact hnone rfl rfl
    | cons d rest =>
      rw [← candidates_eq]
      exact run_withNames_of_records label target rfl rfl
  | nothing => exact hnone rfl rfl
  | noSuchDomain name => exact hnone rfl rfl
  | failed trouble reason => exact ⟨fun _ => p.noted _, rfl⟩

theorem namesOutcome_zip {names : List Text} {topic : Topic} {heard : List (Query × Reply)}
    (h : heard.map Prod.fst = names.map (⟨topic, ·⟩)) :
    namesOutcome s (names.zip (heard.map fun x => Answer.ofReply x.2)) =
      .ofBool (heard.any fun x => ((Answer.ofReply x.2).records.map fun d => Address.parse? d.asText).contains
        (some s.address)) := by
  have hlength : heard.length = names.length := by simpa using congrArg List.length h
  have hanswers : (names.zip (heard.map fun x => Answer.ofReply x.2)).map Prod.snd =
      heard.map fun x => Answer.ofReply x.2 := List.map_snd_zip (by simp [hlength])
  rw [namesOutcome_eq]
  congr 1
  calc
    _ = ((names.zip (heard.map fun x => Answer.ofReply x.2)).map Prod.snd).any fun a =>
          (a.records.map fun d => Address.parse? d.asText).contains (some s.address) := by
      rw [List.any_map]
      rfl
    _ = _ := by
      rw [hanswers, List.any_map]
      rfl

theorem matched_iff {names : List Text} {topic : Topic} {heard : List (Query × Reply)}
    (h : heard.map Prod.fst = names.map (⟨topic, ·⟩)) :
    namesOutcome s (names.zip (heard.map fun x => Answer.ofReply x.2)) = .matched ↔
      ∃ name ∈ names, ∃ r, (⟨topic, name⟩, r) ∈ heard ∧ Confirms s.address r := by
  have hmatched (b : Bool) : Outcome.ofBool b = .matched ↔ b = true := by cases b <;> simp [Outcome.ofBool]
  rw [namesOutcome_zip h, hmatched, List.any_eq_true]
  simp only [confirms_iff]
  constructor
  · rintro ⟨⟨q, r⟩, hmem, hconfirms⟩
    have hq : q ∈ names.map (⟨topic, ·⟩) := h ▸ List.mem_map_of_mem hmem
    obtain ⟨name, hname, rfl⟩ := List.mem_map.mp hq
    exact ⟨name, hname, r, hmem, hconfirms⟩
  · rintro ⟨name, -, r, hmem, hconfirms⟩
    exact ⟨_, hmem, hconfirms⟩

theorem namesOutcome_cases (answers : List (Text × Answer)) :
    namesOutcome s answers = .matched ∨ namesOutcome s answers = .unmatched := by
  rw [namesOutcome_eq, Outcome.ofBool]
  split
  · exact .inl rfl
  · exact .inr rfl

/-- The names of the client's address match exactly if, of the first ten of them, one at or below the target leads back
to the address; or else they do not match, whatever fails. After the names themselves nothing is asked for but the
addresses of these names. That is so whatever the resolver replies, if it may have one more lookup in vain where there
are no names. -/
theorem matchNames_confirms {σ : Type} (s : Setting) (label target : Text) (p : Progress)
    (reply : Query → σ → Reply × σ) (w : σ)
    (hlimit : (Answer.ofReply (reply ⟨.names, s.address.text⟩ w).1).isVoid = true →
      (p.tally.voids + 1 : Nat) ≤ s.limits.voids) :
    ∃ first heard o,
      Plan.heard reply ((matchNames s label target).run.run p) w = (⟨.names, s.address.text⟩, first) :: heard ∧
      heard.map Prod.fst = (namesBelow target first).map (⟨s.addressTopic, ·⟩) ∧ heard.length ≤ 10 ∧
      (Plan.run reply ((matchNames s label target).run.run p) w).1.1 = .ok o ∧ (o = .matched ∨ o = .unmatched) ∧
      (o = .matched ↔ ∃ name ∈ namesBelow target first, ∃ r, (⟨s.addressTopic, name⟩, r) ∈ heard ∧
        Confirms s.address r) := by
  obtain ⟨reached, hnames⟩ := run_withNames label target _ hlimit
  generalize hreply : reply ⟨.names, s.address.text⟩ w = replied at hnames
  obtain ⟨first, w'⟩ := replied
  have hheard := Plan.heard_queryAll reply s.addressTopic (namesBelow target first) w'
  refine ⟨first, _, _, ?_, hheard, ?_, ?_, namesOutcome_cases _, matched_iff hheard⟩
  · rw [run_matchNames, Plan.heard, hreply, hnames, Plan.heard_bind]
    exact congrArg _ (List.append_nil _)
  · have hlength : (Plan.heard reply (Plan.queryAll s.addressTopic (namesBelow target first)) w').length =
        (namesBelow target first).length := by simpa using congrArg List.length hheard
    exact hlength ▸ length_namesBelow target first
  · rw [run_matchNames, Plan.run, hreply]
    simp only [hnames, Plan.run_bind, ← Plan.run_queryAll]
    rfl

def knownClient : Setting := ⟨.v4 0xC0000207, none, none, ⟨10, 2⟩, 0, true⟩

def knownHost (q : Query) : Unit → Reply × Unit := fun _ =>
  (if q.topic = .names then .records [.text "MX.Example."] else .records [.text "192.0.2.7"], ())

theorem knownHost_is_confirmed :
    (Plan.run knownHost ((matchNames knownClient "ptr" "example").run.run {}) ()).1.1 = .ok .matched := by
  obtain ⟨first, heard, o, hheard, -, -, hrun, -, hmatched⟩ :=
    matchNames_confirms knownClient "ptr" "example" {} knownHost () (by decide +kernel)
  have hasked : Plan.heard knownHost ((matchNames knownClient "ptr" "example").run.run {}) () =
      [(⟨.names, "192.0.2.7"⟩, .records [.text "MX.Example."]),
        (⟨.shortAddresses, "mx.example"⟩, .records [.text "192.0.2.7"])] := by
    decide +kernel
  rw [hasked] at hheard
  cases hheard
  rw [hrun, hmatched.mpr]
  refine ⟨"mx.example", by decide +kernel, _, List.mem_singleton_self _, _, rfl, _, List.mem_singleton_self _, ?_⟩
  decide +kernel

end SenderPolicy.Evaluation
