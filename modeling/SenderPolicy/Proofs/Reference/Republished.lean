import SenderPolicy.Dns.Zone
import SenderPolicy.Proofs.Evaluation.Adequacy
import SenderPolicy.Proofs.Evaluation.Ending
import SenderPolicy.Proofs.Evaluation.OwnRecord
import SenderPolicy.Proofs.Record.Reading
import SenderPolicy.Proofs.Reference.Flattening

/-!
Publishing a flattened record in place of the record of a domain. A message that passes then passed before,
if what flattening dropped can be spared for it; a denial that was dropped cannot be spared for the host that
it denies.
-/
namespace SenderPolicy.Reference
open Dns Dns.Work Evaluation Relation
variable {s : Setting} {replies : Query → Reply} {domain : Text} {r flat : Record} {path : List Text}
  {p : Progress}

/-- The replies once the domain publishes the text and nothing else. -/
def republished (replies : Query → Reply) (domain text : Text) (q : Query) : Reply :=
  if q = ⟨.texts, Domain.normalized domain⟩ then .records [.text text] else replies q

theorem republished_of_ne {q : Query} (h : q ≠ ⟨.texts, Domain.normalized domain⟩) (text : Text) :
    replies q = republished replies domain text q :=
  (if_neg h).symm

theorem published_republished {text : Text} {publication : Publication}
    (h : (published domain).value (republished replies domain text) = .ok publication) :
    publication.record = text := by
  have hanswer : (published domain).value (republished replies domain text) =
      Publication.ofAnswer (Domain.normalized domain) { records := [.text text] } := by
    change Publication.ofAnswer _ (Answer.ofReply (republished replies domain text _)) = _
    rw [republished, if_pos rfl]
    rfl
  rw [hanswer] at h
  by_cases hrecord : Publication.isRecord text = true
  · rw [Publication.ofAnswer_single hrecord] at h
    cases h
    rfl
  · simp [Publication.ofAnswer, Datum.parts, hrecord] at h

theorem publishes_of_visit {follow : Evaluation.Follow} {explains : Bool} {p' : Progress}
    (h : outcome replies (visit s follow domain path explains) p = (.ok .pass, p')) :
    ∃ record, Audit.Publishes replies domain record := by
  obtain ⟨fetched, p₁, hfetch, hrest⟩ := bind_eq_ok h
  rw [Step.ofPlan_eq, outcome_ofPlan] at hfetch
  cases hpub : (published domain).value replies with
  | error u =>
    rw [hpub] at hfetch
    cases hfetch
    cases u <;> cases hrest
  | ok publication =>
    rw [hpub] at hfetch
    cases hfetch
    obtain ⟨-, p₂, -, hrest⟩ := bind_eq_ok hrest
    obtain ⟨a, p₃, haudit, hrest⟩ := bind_eq_ok hrest
    split at hrest
    · rename_i record hparse hvalid
      exact ⟨record, publication, hpub, hparse, .of_auditText hparse (Step.ofExcept_eq_ok haudit).1 hvalid⟩
    · obtain ⟨-, p₄, -, hend⟩ := bind_eq_ok hrest
      cases hend

/-- The levels of an evaluation: the first visits the domain, and those below follow as is meant. -/
theorem exists_follow (s : Setting) (replies : Query → Reply) (path : List Text) (depth : Nat) :
    ∃ follow verdict, checkHostAbove s halt depth = visit s follow ∧
      FollowsMeaning s replies path follow verdict ∧ Extends (judge s replies depth) verdict := by
  cases depth with
  | zero => exact ⟨halt, fun _ => none, rfl, fun target explains => .throw _, fun _ _ h => nomatch h⟩
  | succ depth =>
    refine ⟨checkHostAbove s halt depth, fun target => judgeAlong s replies depth (path ++ [target]) target,
      rfl, fun target explains => checkHostAbove_means depth target _ explains, fun target v hv => ?_⟩
    exact judge_succ depth target v (judge_of_judgeAlong depth _ target v hv)

theorem evaluateDomain_eq_pass {result : Result} (h : (evaluateDomain s domain).value replies = .ok result)
    (hpass : result.verdict = .pass) (depth : Nat) (hdepth : s.limits.lookups.toNat ≤ depth) :
    ∃ p, outcome replies (checkHostAbove s halt depth domain [domain] true) {} = (.ok .pass, p) ∧
      (evaluateDomain s domain).queries replies =
        asks replies (checkHostAbove s halt depth domain [domain] true) {} := by
  have hsame := checkHostAbove_run s halt hdepth domain [domain] true
  have hverdict := evaluateDomain_verdict s replies domain
  rw [h, Except.map, hpass, eq_comm, endVerdict_eq_ok_iff (by decide)] at hverdict
  rw [outcome, ← hsame] at hverdict
  rw [evaluateDomain_queries, asks, ← hsame]
  exact ⟨_, Prod.ext hverdict rfl, rfl⟩

def flattening (replies : Query → Reply) (depth : Int) (domain : Text) (r : Record) : List Term × List Text :=
  ((flattenTerms depth.toNat r.terms).run [Domain.normalized domain]).value replies

theorem flatten_eq_some {depth : Int} {domain text : Text} (hparse : Record.parse? text = some r)
    (h : (flatten depth domain (some text)).value replies = some flat) :
    flat = r.withTerms (flattening replies depth domain r).1 := by
  unfold flatten at h
  rw [Option.bind_some, hparse] at h
  simp only [Plan.value_bind] at h
  exact (Option.some.inj h).symm

/-- The verdict on the flattened record, told against the replies before it was published. -/
theorem recordVerdict_of_republished {result : Result}
    (h : (evaluateDomain s domain).value (republished replies domain flat.compose) = .ok result)
    (hpass : result.verdict = .pass) (hback : Record.parse? flat.compose = some flat)
    (honce : ((evaluateDomain s domain).queries (republished replies domain flat.compose)).count
      ⟨.texts, Domain.normalized domain⟩ ≤ 1) :
    ∃ n, recordVerdict s replies (judge s replies n) flat domain = some .pass := by
  obtain ⟨p, hrun, hqueries⟩ := evaluateDomain_eq_pass h hpass _ (Nat.le_refl _)
  obtain ⟨follow, verdict, hlevel, hfollow, hextends⟩ :=
    exists_follow s replies [domain] s.limits.lookups.toNat
  rw [hqueries, hlevel] at honce
  rw [hlevel] at hrun
  obtain ⟨record, hpublishes⟩ := publishes_of_visit hrun
  obtain ⟨line, hrecord, hasks⟩ := visit_of_publishes hpublishes follow [domain] true {}
  have hread : some flat = some record := by
    obtain ⟨publication, hpub, hparse, -⟩ := hpublishes
    rw [← hparse, published_republished hpub, hback]
  cases hread
  rw [hasks, List.count_cons_self] at honce
  have hsame : outcome replies (evaluateRecord s follow flat domain [domain] true) (({} : Progress).noted line) =
      (.ok .pass, p) := by
    rw [← hrun, hrecord]
    refine outcome_congr fun q hq => republished_of_ne (fun heq => ?_) flat.compose
    have hcount := List.count_pos_iff.mpr (heq ▸ hq)
    omega
  refine ⟨s.limits.lookups.toNat, ?_⟩
  have hmeant : recordVerdict s replies (unlooped s [domain] verdict) flat domain = some .pass :=
    evaluateRecord_means hfollow flat true _ _ _ hsame
  refine recordVerdict_mono (fun target v hv => ?_) hmeant
  exact hextends target v (extends_unlooped [domain] verdict target v hv)

/-! Requests -/

section
variable {limits : Limits} {now : Int} {request : Request} {address : Address} {result : Result}

theorem evaluate_eq_of_pass (hip : Address.parse? request.ip = some address)
    (h : (evaluate limits now request).value replies = .ok result) (hpass : result.verdict = .pass) :
    evaluate limits now request =
      evaluateDomain (.ofRequest request address limits now) (Domain.normalized request.domain) := by
  refine evaluate_eq_evaluateDomain (fun hempty => ?_) hip
  simp only [evaluate, hempty, List.isEmpty_nil, if_true] at h
  cases h
  cases hpass

/-- The request passes, with one question for the record of its domain. -/
structure PassesAtOnce (limits : Limits) (now : Int) (request : Request) (replies : Query → Reply) : Prop where
  passes : ∃ result, (evaluate limits now request).value replies = .ok result ∧ result.verdict = .pass
  once : ((evaluate limits now request).queries replies).count
    ⟨.texts, Domain.normalized (Domain.normalized request.domain)⟩ ≤ 1

/-- One question is enough where the names that are met are their own normal forms. -/
theorem PassesAtOnce.of_normal (hip : Address.parse? request.ip = some address)
    (h : (evaluate limits now request).value replies = .ok result) (hpass : result.verdict = .pass)
    (hnormal : ∀ d, ReflTransGen (Refers (.ofRequest request address limits now) replies)
      (Domain.normalized request.domain) d → Domain.normalized d = d) :
    PassesAtOnce limits now request replies := by
  refine ⟨⟨result, h, hpass⟩, ?_⟩
  have hevaluate := evaluate_eq_of_pass hip h hpass
  rw [hevaluate] at h ⊢
  obtain ⟨p, hrun, -⟩ := evaluateDomain_eq_pass h hpass _ (Nat.le_refl _)
  obtain ⟨follow, -, hlevel, -⟩ := exists_follow (.ofRequest request address limits now) replies
    [Domain.normalized request.domain] limits.lookups.toNat
  obtain ⟨record, hp⟩ := publishes_of_visit (hlevel ▸ hrun)
  exact (count_own_record rfl hnormal hp h (by simp [hpass]) (by simp [hpass])).le

/-- The record that the domain publishes is valid, and it is flattened to one that is read back from its text. -/
structure FlattensReadably (replies : Query → Reply) (depth : Int) (domain : Text) (publication : Publication)
    (r flat : Record) : Prop where
  publishes : (published (Domain.normalized domain)).value replies = .ok publication
  parsed : Record.parse? publication.record = some r
  valid : ∃ a, Audit.auditText publication.record = .ok a ∧ a.isValid = true
  flattened : (flatten depth domain (some publication.record)).value replies = some flat
  readBack : Record.parse? flat.compose = some flat

end

/-- A message that passes once the flattened record is published passed before, if what flattening drops from the
included records can be spared, the domain's record is asked for but once, and neither run goes over a limit. -/
theorem evaluate_of_flattened_pass (replies : Query → Reply) (limits : Limits) (now : Int) (request : Request)
    (address : Address) (depth : Int) (publication : Publication) (r flat : Record)
    (hip : Address.parse? request.ip = some address)
    (hflat : FlattensReadably replies depth request.domain publication r flat)
    (hstand : AllStandIn (.ofRequest request address limits now) replies (Domain.normalized request.domain)
      (flattening replies depth request.domain r).2)
    (hpasses : PassesAtOnce limits now request
      (republished replies (Domain.normalized request.domain) flat.compose))
    (hwithin : ∀ before, (evaluate limits now request).value replies = .ok before →
      ¬ Exceeds limits before.tally) :
    ∃ before, (evaluate limits now request).value replies = .ok before ∧ before.verdict = .pass := by
  let s := Setting.ofRequest request address limits now
  obtain ⟨result, hresult, hpass⟩ := hpasses.passes
  obtain ⟨a, haudit, hvalid⟩ := hflat.valid
  have honce := hpasses.once
  have hevaluate := evaluate_eq_of_pass hip hresult hpass
  rw [hevaluate] at honce hresult hwithin ⊢
  have heq := flatten_eq_some hflat.parsed hflat.flattened
  obtain ⟨n, hn⟩ := recordVerdict_of_republished hresult hpass hflat.readBack honce
  rw [heq] at hn
  have hkeeps : Keeps s replies (Domain.normalized request.domain) _ r.terms :=
    (flattenTerms_well hstand depth.toNat r.terms _ (List.mem_singleton.mpr rfl)).2 fun g hg => hg
  obtain ⟨m, hm⟩ := hkeeps.recordVerdict_pass hn
  have hjudge : judge s replies (m + 1) (Domain.normalized request.domain) = some .pass := by
    simp only [judge, domainVerdict, hflat.publishes, haudit, Except.toOption, Option.bind_some, hflat.parsed, hvalid,
      hm]
  obtain ⟨before, hbefore, hverdict | hover⟩ := evaluateDomain_of_judge hjudge (by decide)
  · exact ⟨before, hbefore, hverdict⟩
  · exact absurd hover (hwithin before hbefore)

/-- A policy that denies one host of a network that another policy lets pass. -/
def denyingZone : Zone := [
  (⟨.texts, "d.example"⟩, .records [.text "v=spf1 include:b.example -all"]),
  (⟨.texts, "b.example"⟩, .records [.text "v=spf1 -ip4:192.0.2.1 ip4:192.0.2.0/24 a -all"]),
  (⟨.shortAddresses, "b.example"⟩, .records [.text "203.0.113.5"])]

def flattenedText : Text := "v=spf1 ip4:192.0.2.0/24 a:b.example -all"

/-- The denied host passes once the flattened record is published. -/
theorem denied_host_passes_flattened :
    let request : Request := { domain := "d.example", ip := "192.0.2.1" }
    let verdictOf (replies : Query → Reply) :=
      ((evaluate {} 0 request).value replies).toOption.map fun result => (result.verdict, result.tally)
    (((Audit.auditDomain {} "d.example").value denyingZone.reply).toOption.map (·.isValid) = some true) ∧
    ((flatten 5 "d.example" (some "v=spf1 include:b.example -all")).value denyingZone.reply).map
      Record.compose = some flattenedText ∧
    verdictOf denyingZone.reply = some (.fail, ⟨1, 0⟩) ∧
    verdictOf (republished denyingZone.reply "d.example" flattenedText) = some (.pass, ⟨0, 0⟩) := by
  decide +kernel

def denyingRecord : Record := ⟨some Record.versionTag,
  [{ kind := .ip4, qualifier := .fail, value := some "192.0.2.1" },
    { kind := .ip4, value := some "192.0.2.0/24" }, { kind := .a }, { kind := .all, qualifier := .fail }]⟩

theorem denyingRecord_standsIn (limits : Limits) (now : Int) :
    StandsIn (.ofRequest { domain := "d.example", ip := "192.0.2.7" } (.v4 0xC0000207#32) limits now)
      denyingZone.reply "b.example" denyingRecord := by
  have hpassing : passing denyingRecord =
      [{ kind := .ip4, value := some "192.0.2.0/24" }, { kind := .a }] := by decide +kernel
  have hname : Domain.normalized "b.example" = "b.example" := by decide +kernel
  constructor
  · have hfindings : (Audit.recordFindings denyingRecord).toOption = some [] := by decide +kernel
    exact ⟨[], eq_ok_of_toOption hfindings, fun f hf => nomatch hf⟩
  · refine .unmatched rfl ⟨0, ?_⟩ (.kept rfl fun _ => .kept rfl fun _ => .final rfl ?_ fun _ => yields_all rfl)
    · have hother : Address.matchesNetwork (Address.v4 0xC0000207#32).text "192.0.2.1" = false := by
        decide +kernel
      exact congrArg (fun b => some (Outcome.ofBool b)) hother
    · rintro ⟨u, -, h⟩
      cases h
  · intro t ht hne elsewhere
    rw [hpassing] at ht
    cases ht with
    | head => exact absurd rfl hne
    | tail _ ht =>
      rw [List.mem_singleton.mp ht]
      exact (target_of_value rfl (by decide) (by decide) elsewhere).trans (congrArg Except.ok hname)

def includingTerm : Term := { kind := .inclusion, value := some "b.example" }

def includingRecord : Record := ⟨some Record.versionTag, [includingTerm, { kind := .all, qualifier := .fail }]⟩

def flattenedRecord : Record := ⟨some Record.versionTag, [{ kind := .ip4, value := some "192.0.2.0/24" },
  { kind := .a, value := some "b.example" }, { kind := .all, qualifier := .fail }]⟩

theorem flattenedRecord_compose : flattenedRecord.compose = flattenedText := by decide +kernel

theorem denyingZone_standsIn (limits : Limits) (now : Int) :
    AllStandIn (.ofRequest { domain := "d.example", ip := "192.0.2.7" } (.v4 0xC0000207#32) limits now)
      denyingZone.reply "d.example" (flattening denyingZone.reply 5 "d.example" includingRecord).2 := by
  have htargets : (flattening denyingZone.reply 5 "d.example" includingRecord).2 =
      (["b.example", "d.example"] : List Text) := by decide +kernel
  rw [htargets]
  intro target hmem hne publication included terms hp hincluded _
  obtain rfl : target = "b.example" := by
    cases hmem with
    | head => rfl
    | tail _ hmem => exact absurd (List.mem_singleton.mp hmem) hne
  have hread : ((published "b.example").value denyingZone.reply).toOption.bind
      (fun p => Record.parse? p.record) = some denyingRecord := by decide +kernel
  rw [hp] at hread
  cases hincluded.symm.trans hread
  exact denyingRecord_standsIn limits now

theorem denyingZone_flattens : FlattensReadably denyingZone.reply 5 "d.example"
    ⟨"v=spf1 include:b.example -all", []⟩ includingRecord flattenedRecord := by
  have hpub : ((published (Domain.normalized "d.example")).value denyingZone.reply).toOption =
      some ⟨"v=spf1 include:b.example -all", []⟩ := by decide +kernel
  have haudit : (Audit.auditText "v=spf1 include:b.example -all").toOption = some { findings := [] } := by
    decide +kernel
  constructor
  case publishes => exact eq_ok_of_toOption hpub
  case parsed => decide +kernel
  case valid => exact ⟨_, eq_ok_of_toOption haudit, rfl⟩
  case flattened => decide +kernel
  case readBack => decide +kernel

/-- The flattened record refers to no other, so that the evaluation stays where it starts. -/
theorem flattenedRecord_stays {target : Text}
    (h : ReflTransGen (Refers s (republished denyingZone.reply "d.example" flattenedText)) "d.example" target) :
    target = "d.example" := by
  have hp : Audit.Publishes (republished denyingZone.reply "d.example" flattenedText) "d.example" flattenedRecord :=
    Audit.publishes_of_checks (by decide +kernel) (by decide +kernel)
  exact (reflTransGen_iff_eq (not_refers hp (by decide) rfl)).mp h

/-- Another host of the network passes as it did. -/
theorem other_host_passes_flattened :
    let request : Request := { domain := "d.example", ip := "192.0.2.7" }
    (∃ after, (evaluate {} 0 request).value (republished denyingZone.reply "d.example" flattenedText) =
      .ok after ∧ after.verdict = .pass) ∧
    ∃ before, (evaluate {} 0 request).value denyingZone.reply = .ok before ∧ before.verdict = .pass := by
  intro request
  have hname : Domain.normalized "d.example" = "d.example" := by decide +kernel
  have hip : Address.parse? request.ip = some (.v4 0xC0000207#32) := by decide +kernel
  have hafter : ((evaluate {} 0 request).value
      (republished denyingZone.reply "d.example" flattenedText)).toOption.map (·.verdict) = some .pass := by
    decide +kernel
  obtain ⟨after, hresult, hpass⟩ := Option.map_eq_some_iff.mp hafter
  replace hresult := eq_ok_of_toOption hresult
  have hpasses : PassesAtOnce {} 0 request (republished denyingZone.reply "d.example" flattenedText) := by
    refine .of_normal hip hresult hpass fun d hd => ?_
    rw [show Domain.normalized request.domain = "d.example" from hname] at hd
    rw [flattenedRecord_stays hd, hname]
  have hbefore : ((evaluate {} 0 request).value denyingZone.reply).toOption.map (·.tally) = some ⟨1, 0⟩ := by
    decide +kernel
  have key := evaluate_of_flattened_pass denyingZone.reply {} 0 request (.v4 0xC0000207#32) 5
    ⟨"v=spf1 include:b.example -all", []⟩ includingRecord flattenedRecord hip denyingZone_flattens
  rw [show Domain.normalized request.domain = "d.example" from hname, flattenedRecord_compose] at key
  refine ⟨⟨after, hresult, hpass⟩, key (denyingZone_standsIn {} 0) hpasses fun before h hover => ?_⟩
  rw [h] at hbefore
  rw [show before.tally = ⟨1, 0⟩ from Option.some.inj hbefore] at hover
  exact absurd hover (by decide)

end SenderPolicy.Reference
