import SenderPolicy.Evaluation

/-!
What a policy means for a message where every question has one fixed reply: the evaluation without limits,
without a trail and without a path. A loop has no meaning, and neither has what ends in a fault. Meaning is
told level by level; a level more adds meaning and changes none.
-/
namespace SenderPolicy.Evaluation
open Dns

/-! Mechanisms that follow no record -/

def answerOf (replies : Query → Reply) (topic : Topic) (name : Text) : Answer :=
  .ofReply (replies ⟨topic, name⟩)

def recordsOutcome (answer : Answer) (onRecords : List Datum → Outcome) : Outcome :=
  match answer.error with
  | some _ => .temperror
  | none => if answer.isVoid then .unmatched else onRecords answer.records

def hostsOutcome (s : Setting) (t : Term) (failed : Bool) : List (Text × Answer) → Outcome
  | [] => if failed then .temperror else .unmatched
  | (_, answer) :: rest =>
    match answer.error with
    | some _ => hostsOutcome s t true rest
    | none =>
      if s.matchesAny (answer.records.map (·.asText)) t then .matched else hostsOutcome s t failed rest

def namesOutcome (s : Setting) : List (Text × Answer) → Outcome
  | [] => .unmatched
  | (_, answer) :: rest =>
    if (answer.records.map (fun r => Address.parse? r.asText)).contains (some s.address) then .matched
    else namesOutcome s rest

def lookupOutcome (s : Setting) (replies : Query → Reply) (target : Text) (t : Term) : Outcome :=
  match t.kind with
  | .a =>
    recordsOutcome (answerOf replies s.addressTopic target)
      (fun records => .ofBool (s.matchesAny (records.map (·.asText)) t))
  | .mx =>
    recordsOutcome (answerOf replies .exchanges target) (fun records =>
      if maxExchanges < records.length then .permerror
      else
        let hosts := records.map (fun r => Domain.normalized r.asText)
        hostsOutcome s t false (hosts.zip (hosts.map (answerOf replies s.addressTopic))))
  | .ptr =>
    let answer := answerOf replies .names s.address.text
    match answer.error with
    | some _ => .unmatched
    | none =>
      recordsOutcome answer (fun records =>
        let names := candidates target records
        namesOutcome s (names.zip (names.map (answerOf replies s.addressTopic))))
  | .existence => recordsOutcome (answerOf replies .shortAddresses target) (fun _ => .matched)
  | _ => .unmatched

/-! Terms, records and domains, given the verdicts on the domains that they lead to -/

def includeOutcome : Verdict → Outcome
  | .pass => .matched
  | .permerror => .permerror
  | .temperror => .temperror
  | _ => .unmatched

def termOutcome (s : Setting) (replies : Query → Reply) (verdict : Text → Option Verdict) (domain : Text)
    (t : Term) : Option Outcome :=
  match t.kind with
  | .all => some .matched
  | .ip4 | .ip6 => some (.ofBool (Address.matchesNetwork s.address.text (t.value.getD [])))
  | .inclusion => (s.target t domain).toOption.bind (fun target => (verdict target).map includeOutcome)
  | _ => (s.target t domain).toOption.map (fun target => lookupOutcome s replies target t)

def decisive (outcome : Term → Option Outcome) : List Term → Option (Option (Term × Outcome))
  | [] => some none
  | t :: rest =>
    (outcome t).bind (fun o => if o = .unmatched then decisive outcome rest else some (some (t, o)))

def decidedVerdict (t : Term) : Outcome → Verdict
  | .permerror => .permerror
  | .temperror => .temperror
  | _ => t.qualifier.verdict

def endingVerdict (s : Setting) (verdict : Text → Option Verdict) (r : Record) (domain : Text) :
    Option Verdict :=
  match r.redirect with
  | none => some .neutral
  | some value =>
    (s.expandName value domain).toOption.bind
      (fun target => (verdict target).map (fun v => if v = .none then .permerror else v))

def mechanismsOf (ts : List Term) : List Term := ts.filter (fun t => !t.isModifier)

def recordVerdict (s : Setting) (replies : Query → Reply) (verdict : Text → Option Verdict) (r : Record)
    (domain : Text) : Option Verdict :=
  (decisive (termOutcome s replies verdict domain) (mechanismsOf r.terms)).bind (fun
    | some (t, o) => some (decidedVerdict t o)
    | none => endingVerdict s verdict r domain)

def domainVerdict (s : Setting) (replies : Query → Reply) (verdict : Text → Option Verdict)
    (domain : Text) : Option Verdict :=
  match (published domain).value replies with
  | .error u => some u.verdict
  | .ok publication =>
    (Audit.auditText publication.record).toOption.bind (fun assessment =>
      match Record.parse? publication.record, assessment.isValid with
      | some record, true => recordVerdict s replies verdict record domain
      | _, _ => some .permerror)

/-- The verdict on a domain, told by so many levels below it. -/
def judge (s : Setting) (replies : Query → Reply) : Nat → Text → Option Verdict
  | 0 => domainVerdict s replies (fun _ => none)
  | n + 1 => domainVerdict s replies (judge s replies n)

/-- Verdicts, but for the domains on a path. -/
def unlooped (s : Setting) (path : List Text) (verdict : Text → Option Verdict) (target : Text) :
    Option Verdict :=
  if s.endsLoops ∧ path.contains target then none else verdict target

/-- The verdict on a domain to which a path led, told by so many levels below it. -/
def judgeAlong (s : Setting) (replies : Query → Reply) : Nat → List Text → Text → Option Verdict
  | 0, path => domainVerdict s replies (unlooped s path (fun _ => none))
  | n + 1, path =>
    domainVerdict s replies (unlooped s path (fun target => judgeAlong s replies n (path ++ [target]) target))

/-! More verdicts on other domains add to the meaning, and change nothing of it. -/

variable {s : Setting} {replies : Query → Reply} {verdict verdict' : Text → Option Verdict}
  {domain : Text} {path : List Text} {t : Term} {ts us : List Term} {r : Record} {v : Verdict} {m n : Nat}

def Extends (verdict' verdict : Text → Option Verdict) : Prop :=
  ∀ domain v, verdict domain = some v → verdict' domain = some v

theorem termOutcome_mono (h : Extends verdict' verdict) {o : Outcome}
    (ho : termOutcome s replies verdict domain t = some o) :
    termOutcome s replies verdict' domain t = some o := by
  cases hk : t.kind with
  | inclusion =>
    simp only [termOutcome, hk] at ho ⊢
    obtain ⟨target, htarget, hrest⟩ := Option.bind_eq_some_iff.mp ho
    obtain ⟨v, hv, rfl⟩ := Option.map_eq_some_iff.mp hrest
    rw [htarget, Option.bind_some, h target v hv, Option.map_some]
  | _ => simpa only [termOutcome, hk] using ho

theorem decisive_mono {outcome outcome' : Term → Option Outcome}
    (h : ∀ t o, outcome t = some o → outcome' t = some o) {found : Option (Term × Outcome)}
    (hf : decisive outcome ts = some found) : decisive outcome' ts = some found := by
  induction ts with
  | nil => exact hf
  | cons t rest ih =>
    obtain ⟨o, ho, hrest⟩ := Option.bind_eq_some_iff.mp hf
    rw [decisive, h t o ho, Option.bind_some]
    split
    · rename_i hu
      rw [if_pos hu] at hrest
      exact ih hrest
    · rename_i hu
      rwa [if_neg hu] at hrest

theorem endingVerdict_mono (h : Extends verdict' verdict) (hv : endingVerdict s verdict r domain = some v) :
    endingVerdict s verdict' r domain = some v := by
  unfold endingVerdict at hv ⊢
  split
  · rename_i hr
    simpa only [hr] using hv
  · rename_i value hr
    simp only [hr] at hv
    obtain ⟨target, htarget, hrest⟩ := Option.bind_eq_some_iff.mp hv
    obtain ⟨w, hw, rfl⟩ := Option.map_eq_some_iff.mp hrest
    rw [htarget, Option.bind_some, h target w hw, Option.map_some]

theorem recordVerdict_mono (h : Extends verdict' verdict)
    (hv : recordVerdict s replies verdict r domain = some v) :
    recordVerdict s replies verdict' r domain = some v := by
  obtain ⟨found, hfound, hrest⟩ := Option.bind_eq_some_iff.mp hv
  rw [recordVerdict, decisive_mono (fun t o => termOutcome_mono h) hfound, Option.bind_some]
  cases found with
  | none => exact endingVerdict_mono h hrest
  | some found => exact hrest

theorem domainVerdict_mono (h : Extends verdict' verdict) :
    Extends (domainVerdict s replies verdict') (domainVerdict s replies verdict) := by
  intro domain v hv
  unfold domainVerdict at hv ⊢
  split
  · rename_i u hu
    simpa only [hu] using hv
  · rename_i publication hp
    simp only [hp] at hv
    obtain ⟨assessment, ha, hrest⟩ := Option.bind_eq_some_iff.mp hv
    rw [ha, Option.bind_some]
    split at hrest
    · exact recordVerdict_mono h hrest
    · exact hrest

theorem judge_succ (n : Nat) : Extends (judge s replies (n + 1)) (judge s replies n) := by
  induction n with
  | zero => exact domainVerdict_mono fun _ _ h => nomatch h
  | succ n ih => exact domainVerdict_mono ih

theorem judge_mono (h : m ≤ n) : Extends (judge s replies n) (judge s replies m) := by
  induction h with
  | refl => exact fun _ _ h => h
  | step _ ih => exact fun domain v hv => judge_succ _ domain v (ih domain v hv)

/-! Paths -/

theorem unlooped_mono (h : Extends verdict' verdict) : Extends (unlooped s path verdict') (unlooped s path verdict) := by
  intro target v hv
  unfold unlooped at hv ⊢
  split
  · rename_i hloop
    rw [if_pos hloop] at hv
    cases hv
  · rename_i hloop
    rw [if_neg hloop] at hv
    exact h target v hv

theorem extends_unlooped (path : List Text) (verdict : Text → Option Verdict) :
    Extends verdict (unlooped s path verdict) := by
  intro target v hv
  unfold unlooped at hv
  split at hv
  · cases hv
  · exact hv

theorem judgeAlong_succ (n : Nat) (path : List Text) :
    Extends (judgeAlong s replies (n + 1) path) (judgeAlong s replies n path) := by
  induction n generalizing path with
  | zero => exact domainVerdict_mono (unlooped_mono fun _ _ h => nomatch h)
  | succ n ih => exact domainVerdict_mono (unlooped_mono fun target v hv => ih _ target v hv)

theorem judgeAlong_mono (h : m ≤ n) (path : List Text) :
    Extends (judgeAlong s replies n path) (judgeAlong s replies m path) := by
  induction h with
  | refl => exact fun _ _ h => h
  | step _ ih => exact fun domain v hv => judgeAlong_succ _ path domain v (ih domain v hv)

theorem judge_of_judgeAlong (n : Nat) (path : List Text) :
    Extends (judge s replies n) (judgeAlong s replies n path) := by
  induction n generalizing path with
  | zero => exact domainVerdict_mono (extends_unlooped path _)
  | succ n ih =>
    refine domainVerdict_mono fun target v hv => ih (path ++ [target]) target v ?_
    exact extends_unlooped path (fun target => judgeAlong s replies n (path ++ [target]) target) target v hv

theorem exists_least (h : judge s replies n domain = some v) :
    ∃ m, m ≤ n ∧ judge s replies m domain = some v ∧ ∀ k, k < m → judge s replies k domain = none := by
  induction n with
  | zero => exact ⟨0, Nat.le_refl 0, h, fun k hk => nomatch hk⟩
  | succ n ih =>
    cases hn : judge s replies n domain with
    | none =>
      refine ⟨n + 1, Nat.le_refl _, h, fun k hk => ?_⟩
      cases hk' : judge s replies k domain with
      | none => rfl
      | some w =>
        have hw := judge_mono (Nat.le_of_lt_succ hk) domain w hk'
        rw [hn] at hw
        cases hw
    | some w =>
      have hw := judge_succ n domain w hn
      rw [h] at hw
      cases hw
      obtain ⟨m, hm, hrest⟩ := ih hn
      exact ⟨m, Nat.le_succ_of_le hm, hrest⟩

/-- A path whose domains all need more levels is no hindrance: what has a meaning goes round no loop. -/
theorem judgeAlong_of_judge (h : judge s replies n domain = some v)
    (hpath : ∀ g ∈ path, ∀ k, k < n → judge s replies k g = none) :
    judgeAlong s replies n path domain = some v := by
  induction n using Nat.strongRecOn generalizing path domain v with
  | ind n ih =>
    cases n with
    | zero =>
      have hnone : Extends (unlooped s path fun _ => none) fun _ => none := fun _ _ h => nomatch h
      exact domainVerdict_mono hnone domain v h
    | succ n =>
      refine domainVerdict_mono (fun target w hw => ?_) domain v h
      have hfresh : ¬ (s.endsLoops ∧ path.contains target) := by
        rintro ⟨-, hmem⟩
        have hnone := hpath target (by simpa using hmem) n (Nat.lt_succ_self n)
        rw [hw] at hnone
        cases hnone
      obtain ⟨m, hm, hjudge, hleast⟩ := exists_least hw
      rw [unlooped, if_neg hfresh]
      refine judgeAlong_mono hm _ target w (ih m (Nat.lt_succ_of_le hm) hjudge fun g hg k hk => ?_)
      cases List.mem_append.mp hg with
      | inl hg => exact hpath g hg k (by omega)
      | inr hg => rw [List.mem_singleton.mp hg]; exact hleast k hk

end SenderPolicy.Evaluation
