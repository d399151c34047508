import SenderPolicy.Proofs.Audit.Numerals
import SenderPolicy.Proofs.Dns.Paths
import SenderPolicy.Proofs.Evaluation.Congruence
import SenderPolicy.Proofs.Evaluation.Parallel
import SenderPolicy.Proofs.Macro.Expansion

/-!
Evaluations that come to a verdict. The only faults of an evaluation are those of numerals that cannot be read and of an
address whose zone has no place in a name. A resolver that serves none of the texts that ask for them lets each
evaluation end in a result, also if its replies change while it is asked.
-/
namespace SenderPolicy.Evaluation
open Dns
variable {α β : Type} {allowed : Query → Reply → Prop} {s : Setting} {address : Address} {domain text : Text}
  {r : Record}

/-! What may be served -/

/-- The template is in order, and it does not ask for the dotted form of an address that has a zone. -/
structure IsExpandable (address : Address) (template : Text) : Prop where
  inOrder : Macro.check template = .ok ()
  unasked : address.IsScoped → ¬ Macro.AsksAddress template

/-- The record's names can be expanded, and its prefix lengths are not too long to be read. -/
structure IsReadable (address : Address) (r : Record) : Prop where
  names : ∀ t ∈ r.terms, Audit.takesName t.kind = true → ∀ value, t.value = some value → IsExpandable address value
  lengths : ∀ t ∈ r.terms, ¬ Audit.HasLongLength t

/-- The text can be served as the record of the domain. -/
def ServesRecord (allowed : Query → Reply → Prop) (domain text : Text) : Prop :=
  ∃ reply warnings, allowed ⟨.texts, Domain.normalized domain⟩ reply ∧
    Publication.ofAnswer (Domain.normalized domain) (Answer.ofReply reply) = .ok ⟨text, warnings⟩

/-- The text can be served as the explanation that the record of the domain names. -/
def ServesExplanation (allowed : Query → Reply → Prop) (s : Setting) (r : Record) (domain text : Text) : Prop :=
  ∃ value target reply, r.exp = some value ∧ s.expandName value domain = .ok target ∧
    allowed ⟨.texts, target⟩ reply ∧ soleText? (Answer.ofReply reply) = some text

/-- All records that can be served are readable, and all explanations that they name can be expanded. -/
structure ServesReadable (allowed : Query → Reply → Prop) (s : Setting) : Prop where
  records : ∀ domain text r, ServesRecord allowed domain text → Record.parse? text = some r → IsReadable s.address r
  explanations : ∀ domain text r, ServesRecord allowed domain text → Record.parse? text = some r →
    ∀ explanation, ServesExplanation allowed s r domain explanation → IsExpandable s.address explanation

/-! Names -/

theorem expand_returns (h : IsExpandable s.address text) (domain : Text) : ∃ t, s.expand text domain = .ok t := by
  unfold Setting.expand
  split
  · refine (Macro.expand_returns_iff _ _).mpr ⟨Macro.isShort_of_check h.inOrder, ?_⟩
    rintro ⟨a, hparse, hscoped⟩
    by_cases hs : s.address.IsScoped
    · exact h.unasked hs
    · exact absurd (Address.percent_mem_of_parse? hparse hscoped) (Address.percent_notin_text hs)
  · exact ⟨text, rfl⟩

theorem expandName_returns (h : IsExpandable s.address text) (domain : Text) :
    ∃ t, s.expandName text domain = .ok t := by
  obtain ⟨t, ht⟩ := expand_returns h domain
  exact ⟨Domain.normalized t, by rw [Setting.expandName, ht]; rfl⟩

theorem target_returns {t : Term} (h : ∀ value, t.value = some value → IsExpandable s.address value)
    (domain : Text) : ∃ target, s.target t domain = .ok target := by
  unfold Setting.target
  split
  · exact ⟨domain, rfl⟩
  · exact ⟨domain, rfl⟩
  · rename_i value _ hvalue
    exact expandName_returns (h value hvalue) domain

theorem exists_term_of_valueOf {kind : Kind} {value : Text} (h : r.valueOf kind = some value) :
    ∃ t ∈ r.terms, t.kind = kind ∧ t.value = some value := by
  obtain ⟨t, hfind, hvalue⟩ := Option.bind_eq_some_iff.mp h
  have hkind := List.find?_some hfind
  exact ⟨t, List.mem_of_find?_eq_some hfind, eq_of_beq hkind, hvalue⟩

theorem IsReadable.not_stumbles (h : IsReadable address r) : ∀ t ∈ r.terms, ¬ Audit.Stumbles t := by
  intro t ht hstumbles
  obtain hlong | ⟨-, hname, value, hvalue, hbreaks⟩ := hstumbles.numeral
  · exact h.lengths t ht hlong
  · obtain ⟨f, hf⟩ := (Macro.check_eq_integer_iff value).mpr hbreaks
    have hcheck := (h.names t ht hname value hvalue).inOrder
    rw [hf] at hcheck
    cases hcheck

theorem auditText_returns (h : ∀ r, Record.parse? text = some r → IsReadable address r) :
    ∃ a, Audit.auditText text = .ok a := by
  cases hparse : Record.parse? text with
  | none => exact ⟨_, by rw [Audit.auditText, hparse]⟩
  | some r =>
    obtain ⟨findings, hfindings⟩ := Audit.recordFindings_returns_iff.mpr (h r hparse).not_stumbles
    simp only [Audit.auditText, hparse, hfindings]
    exact ⟨_, rfl⟩

/-! Steps without a fault -/

def NeverFaults (allowed : Query → Reply → Prop) (x : Step α) : Prop :=
  ∀ p o p', Plan.ComesTo allowed (x.run.run p) (o, p') → ∀ f, o ≠ .error (.fault f)

namespace NeverFaults
variable {x : Step α} {f : α → Step β}

theorem of_pure (h : ∀ p, ∃ o p', x.run.run p = Pure.pure (o, p') ∧ ∀ f, o ≠ .error (.fault f)) :
    NeverFaults allowed x := by
  intro p o p' hcomes
  obtain ⟨o₁, p₁, hrun, hne⟩ := h p
  rw [hrun] at hcomes
  cases hcomes.eq_of_pure
  exact hne

theorem pure (a : α) : NeverFaults allowed (pure a : Step α) :=
  of_pure fun p => ⟨.ok a, p, rfl, fun _ h => nomatch h⟩

theorem modify (g : Progress → Progress) : NeverFaults allowed (modify g : Step Unit) :=
  of_pure fun p => ⟨.ok (), g p, rfl, fun _ h => nomatch h⟩

theorem note (parts : List Text) : NeverFaults allowed (Step.note parts) := modify _

theorem throw {e : Stop} (h : ∀ f, e ≠ .fault f) : NeverFaults allowed (throw e : Step α) :=
  of_pure fun p => ⟨.error e, p, rfl, fun f hf => h f (Except.error.inj hf)⟩

theorem of_read {x : Except Fault α} {a : α} (hx : x = .ok a) (h : NeverFaults allowed (f a)) :
    NeverFaults allowed (Step.ofExcept x >>= f) := by
  subst hx
  exact h

theorem count (limits : Limits) (label : Text) : NeverFaults allowed (Step.count limits label) := by
  refine of_pure fun p => ⟨_, _, Step.run_count limits label p, fun f hf => ?_⟩
  split at hf <;> cases hf

theorem countVoid (limits : Limits) (label : Text) : NeverFaults allowed (Step.countVoid limits label) := by
  refine of_pure fun p => ⟨_, _, Step.run_countVoid limits label p, fun f hf => ?_⟩
  split at hf <;> cases hf

theorem bind_of (h : NeverFaults allowed x)
    (hf : ∀ a p p', Plan.ComesTo allowed (x.run.run p) (.ok a, p') → NeverFaults allowed (f a)) :
    NeverFaults allowed (x >>= f) := by
  intro p o p' hcomes
  rw [Work.run_bind] at hcomes
  obtain ⟨⟨o₁, p₁⟩, hx, hrest⟩ := hcomes.of_bind
  cases o₁ with
  | ok a => exact hf a p p₁ hx p₁ o p' hrest
  | error e =>
    obtain ⟨rfl, -⟩ := Prod.mk.inj hrest.eq_of_pure
    intro fault hfault
    cases hfault
    exact h p _ p₁ hx fault rfl

theorem bind (h : NeverFaults allowed x) (hf : ∀ a, NeverFaults allowed (f a)) : NeverFaults allowed (x >>= f) :=
  h.bind_of fun a _ _ _ => hf a

theorem of_ofPlan {q : Plan α} {p p' : Progress} {o : Except Stop α}
    (h : Plan.ComesTo allowed ((Step.ofPlan q).run.run p) (o, p')) : ∃ a, o = .ok a ∧ Plan.ComesTo allowed q a := by
  rw [Step.ofPlan_eq, Work.run_ofPlan] at h
  obtain ⟨a, ha, hrest⟩ := h.of_bind
  cases hrest.eq_of_pure
  exact ⟨a, rfl, ha⟩

theorem ofPlan (q : Plan α) : NeverFaults allowed (Step.ofPlan q) := by
  intro p o p' h
  obtain ⟨a, rfl, -⟩ := of_ofPlan h
  exact fun f hf => nomatch hf

theorem ofExcept {x : Except Fault α} (h : ∃ a, x = .ok a) : NeverFaults allowed (Step.ofExcept x) := by
  obtain ⟨a, rfl⟩ := h
  exact pure a

end NeverFaults

def neverFaulting (allowed : Query → Reply → Prop) (s : Setting) : Congruence s s.limits where
  Rel x _ := NeverFaults allowed x
  pure := .pure
  bind := .bind
  note := .note
  query _ _ := .ofPlan _
  queryAll _ _ := .ofPlan _
  count := .count s.limits
  countVoid := .countVoid s.limits
  includeLoop _ := .throw fun _ h => nomatch h
  redirectLoop _ := .throw fun _ h => nomatch h

/-! Records -/

theorem comesTo_query {topic : Topic} {name : Text} {a : Answer} (h : Plan.ComesTo allowed (Plan.query topic name) a) :
    ∃ reply, allowed ⟨topic, name⟩ reply ∧ a = Answer.ofReply reply := by
  cases h with
  | ask hr hnext =>
    cases hnext
    exact ⟨_, hr, rfl⟩

theorem comesTo_published {publication : Publication}
    (h : Plan.ComesTo allowed (published domain) (.ok publication)) :
    ServesRecord allowed domain publication.record := by
  obtain ⟨answer, hquery, hrest⟩ := h.of_bind
  obtain ⟨reply, hreply, rfl⟩ := comesTo_query hquery
  exact ⟨reply, publication.warnings, hreply, hrest.eq_of_pure.symm⟩

theorem IsReadable.of_valueOf {kind : Kind} {value : Text} (h : IsReadable address r)
    (hk : Audit.takesName kind = true) (hv : r.valueOf kind = some value) : IsExpandable address value := by
  obtain ⟨t, ht, rfl, hvalue⟩ := exists_term_of_valueOf hv
  exact h.names t ht hk value hvalue

theorem explain_neverFaults (h : IsReadable s.address r)
    (hserves : ∀ text, ServesExplanation allowed s r domain text → IsExpandable s.address text) :
    NeverFaults allowed (explain s r domain) := by
  rw [explain_eq]
  split
  · exact .pure ()
  · exact .pure ()
  · rename_i value _ hexp
    obtain ⟨target, htarget⟩ := expandName_returns (h.of_valueOf rfl hexp) domain
    refine .of_read htarget (.bind_of (.ofPlan _) fun answer p p' hanswer => ?_)
    obtain ⟨_, heq, hquery⟩ := NeverFaults.of_ofPlan hanswer
    cases heq
    obtain ⟨reply, hreply, rfl⟩ := comesTo_query hquery
    cases hsole : soleText? (Answer.ofReply reply) with
    | none => exact .note _
    | some text =>
      have htext := hserves text ⟨value, target, reply, hexp, htarget, hreply, hsole⟩
      exact .bind (.ofExcept (expand_returns htext domain)) fun explanation => .modify _

theorem evaluateRecord_neverFaults {follow : Follow} (hf : (neverFaulting allowed s).Follows follow follow)
    (hvalid : Audit.IsValid r) (h : IsReadable s.address r)
    (hserves : ∀ text, ServesExplanation allowed s r domain text → IsExpandable s.address text)
    (path : List Text) (explains : Bool) : NeverFaults allowed (evaluateRecord s follow r domain path explains) := by
  refine (neverFaulting allowed s).evaluateRecord
    ⟨fun t ht hm hall hip4 hip6 => Congruence.reads_of_ok _ ?_, fun _ _ _ target _ path => hf target path false,
      fun value hvalue => Congruence.reads_of_ok _ ?_, fun _ _ target _ path => hf target path explains⟩
    rfl rfl fun _ => explain_neverFaults h hserves
  · refine target_returns (h.names t ht ?_) domain
    have hknown := Audit.kind_ne_unknown (hvalid.checkTerm t ht)
    cases hk : t.kind <;> simp_all [Term.isModifier, Kind.isModifier, Audit.takesName]
  · exact expandName_returns (h.of_valueOf rfl hvalue) domain

theorem visit_neverFaults {follow : Follow} (h : ServesReadable allowed s)
    (hf : (neverFaulting allowed s).Follows follow follow) :
    (neverFaulting allowed s).Follows (visit s follow) (visit s follow) := by
  intro domain path explains
  refine NeverFaults.bind_of (.ofPlan _) fun fetched p p' hfetched => ?_
  obtain ⟨_, heq, hpublished⟩ := NeverFaults.of_ofPlan hfetched
  cases heq
  cases fetched with
  | error u => exact .bind (.note _) fun _ => .pure _
  | ok publication =>
    have hserved := comesTo_published hpublished
    obtain ⟨assessment, hassessment⟩ := auditText_returns (h.records domain _ · hserved)
    refine .bind (.note _) fun _ => .of_read hassessment ?_
    split
    · rename_i record hparse hvalid
      exact evaluateRecord_neverFaults hf (.of_auditText hparse hassessment hvalid)
        (h.records domain _ record hserved hparse) (h.explanations domain _ record hserved hparse) path explains
    · exact .bind ((neverFaulting allowed s).noteAll _ _) fun _ => .pure _

theorem checkHost_neverFaults (h : ServesReadable allowed s) (depth : Nat) :
    (neverFaulting allowed s).Follows (checkHost s depth) (checkHost s depth) := by
  induction depth with
  | zero => exact visit_neverFaults h fun _ _ _ => .pure _
  | succ depth ih => exact visit_neverFaults h ih

/-! Runs -/

theorem evaluateDomain_returns (h : ServesReadable allowed s) {o : Except Fault Result}
    (hcomes : Plan.ComesTo allowed (evaluateDomain s domain) o) : ∃ result, o = .ok result := by
  obtain ⟨⟨o₁, p⟩, hrun, hrest⟩ := hcomes.of_bind
  have hne := checkHost_neverFaults h s.limits.lookups.toNat domain [domain] true {} o₁ p hrun
  cases o₁ with
  | ok verdict => exact ⟨_, hrest.eq_of_pure⟩
  | error stop =>
    cases stop with
    | fault f => exact absurd rfl (hne f)
    | excess e => exact ⟨_, hrest.eq_of_pure⟩
    | includeLoop path => exact ⟨_, hrest.eq_of_pure⟩
    | redirectLoop path => exact ⟨_, hrest.eq_of_pure⟩

theorem evaluate_returns {limits : Limits} {now : Int} {request : Request}
    (h : ∀ a, Address.parse? request.ip = some a → ServesReadable allowed (.ofRequest request a limits now))
    {o : Except Fault Result} (hcomes : Plan.ComesTo allowed (evaluate limits now request) o) :
    ∃ result, o = .ok result := by
  unfold evaluate at hcomes
  dsimp only at hcomes
  split at hcomes
  · exact ⟨_, hcomes.eq_of_pure⟩
  · split at hcomes
    · exact ⟨_, hcomes.eq_of_pure⟩
    · rename_i a hparse
      exact evaluateDomain_returns (h a hparse) hcomes

/-- For an address, a template in order is expanded, unless it asks for the dotted form and the address has a zone; and a
request from the address is judged, whatever the limits are, by every resolver that serves no record and no explanation
that asks so, and none with a macro out of order or a prefix length too long to be read. -/
theorem expansion_and_evaluation_return (ip : Text) (address : Address) (hip : Address.parse? ip = some address) :
    (∀ (c : Macro.Context) (template : Text), c.ip = ip → Macro.check template = .ok () →
      ((∃ t, Macro.expand c template = .ok t) ↔ (address.IsScoped → ¬ Macro.AsksAddress template))) ∧
    ∀ (σ : Type) (reply : Query → σ → Reply × σ) (start : σ) (limits : Limits) (now : Int) (request : Request),
      request.ip = ip → ServesReadable (Plan.Gives reply) (.ofRequest request address limits now) →
      ∃ result, ((evaluate limits now request).run reply start).1 = .ok result := by
  constructor
  · rintro c template rfl hcheck
    have hscoped : Macro.IsScopedText c.ip ↔ address.IsScoped := by simp [Macro.IsScopedText, hip]
    rw [Macro.expand_returns_iff, hscoped]
    exact and_iff_right (Macro.isShort_of_check hcheck)
  · rintro σ reply start limits now request rfl hserves
    refine evaluate_returns (fun a ha => ?_) (Plan.comesTo_run_gives reply _ start)
    cases hip.symm.trans ha
    exact hserves

def greetedRecord : Text := "v=spf1 exists:%{h}.x.example -all exp=e.example"

def greetedExplanation : Text := "%{h} may not send for %{d}"

def greetedZone : Zone := [
  (⟨.texts, "d.example"⟩, .records [.text greetedRecord]),
  (⟨.texts, "e.example"⟩, .records [.text greetedExplanation])]

theorem reply_of_zone (z : Zone) (q : Query) : (∃ e ∈ z, z.reply q = e.2) ∨ z.reply q = .noSuchDomain q.name := by
  unfold Zone.reply
  cases hfind : z.find? fun e => e.1 = q with
  | none => exact .inr rfl
  | some e => exact .inl ⟨e, List.mem_of_find?_eq_some hfind, rfl⟩

theorem greetedZone_servesReadable (σ : Type) (next : Query → σ → σ) {s : Setting} :
    ServesReadable (Plan.Gives fun q state => (greetedZone.reply q, next q state)) s := by
  let host : Term := { kind := .existence, value := some "%{h}.x.example" }
  let others : Term := { kind := .all, qualifier := .fail }
  let why : Term := { kind := .exp, value := some "e.example" }
  have hexpandable : ∀ template ∈ [greetedRecord, greetedExplanation, "%{h}.x.example", "e.example"],
      IsExpandable s.address template := by
    have hchecks : ∀ template ∈ [greetedRecord, greetedExplanation, "%{h}.x.example", "e.example"],
        Macro.check template = .ok () ∧ ¬ Macro.AsksAddress template := by decide +kernel
    exact fun template h => ⟨(hchecks template h).1, fun _ => (hchecks template h).2⟩
  have hparse : Record.parse? greetedRecord = some ⟨some Record.versionTag, [host, others, why]⟩ := by decide +kernel
  constructor
  · rintro domain text r ⟨_, warnings, ⟨state, rfl⟩, hanswer⟩ hr
    have htext : text = greetedRecord := by
      obtain ⟨e, he, hreply⟩ | hmissing := reply_of_zone greetedZone ⟨.texts, Domain.normalized domain⟩
      · simp only [greetedZone, List.mem_cons, List.not_mem_nil, or_false] at he
        dsimp only at hanswer
        rw [hreply] at hanswer
        obtain rfl | rfl := he
        · exact (congrArg Publication.record (Except.ok.inj hanswer)).symm
        · cases hanswer
      · dsimp only at hanswer
        rw [hmissing] at hanswer
        cases hanswer
    rw [htext, hparse] at hr
    cases hr
    constructor
    · intro t ht hname value hvalue
      simp only [List.mem_cons, List.not_mem_nil, or_false] at ht
      obtain rfl | rfl | rfl := ht
      · cases hvalue
        exact hexpandable _ (by simp)
      · cases hvalue
      · cases hvalue
        exact hexpandable _ (by simp)
    · rintro t ht ⟨hlengths, -⟩
      simp only [List.mem_cons, List.not_mem_nil, or_false] at ht
      obtain rfl | rfl | rfl := ht <;> cases hlengths
  · rintro domain text r - - explanation ⟨value, target, _, -, -, ⟨state, rfl⟩, hsole⟩
    obtain ⟨e, he, hreply⟩ | hmissing := reply_of_zone greetedZone ⟨.texts, target⟩
    · simp only [greetedZone, List.mem_cons, List.not_mem_nil, or_false] at he
      dsimp only at hsole
      rw [hreply] at hsole
      obtain rfl | rfl := he
      · cases hsole
        exact hexpandable greetedRecord (by simp)
      · cases hsole
        exact hexpandable greetedExplanation (by simp)
    · dsimp only at hsole
      rw [hmissing] at hsole
      cases hsole

theorem greetedZone_returns :
    let request : Request := { domain := "d.example", ip := "fe80::1%eth0", helo := some "mail.example" }
    let reply (q : Query) (asked : Nat) : Reply × Nat := (greetedZone.reply q, asked + 1)
    (∃ t, Macro.expand { domain := "d.example", ip := "fe80::1%eth0", now := 0 } "%{d}.%{c}" = .ok t) ∧
      ∃ result, ((evaluate {} 0 request).run reply 0).1 = .ok result := by
  intro request reply
  let address : Address := .v6 0xFE800000000000000000000000000001#128 (some "eth0")
  have hparse : Address.parse? "fe80::1%eth0" = some address := by decide +kernel
  obtain ⟨hexpand, hreturn⟩ := expansion_and_evaluation_return "fe80::1%eth0" address hparse
  refine ⟨(hexpand _ _ rfl (by decide +kernel)).mpr fun _ => by decide +kernel, ?_⟩
  exact hreturn Nat reply 0 {} 0 request rfl (greetedZone_servesReadable Nat fun _ asked => asked + 1)

/-- The dotted form of an address with a zone is asked for by a template in order. -/
theorem scoped_address_is_not_expanded :
    Macro.check "%{i}.example" = .ok () ∧ Address.parse? "fe80::1%eth0" ≠ none ∧
      ¬ ∃ t, Macro.expand { domain := "d.example", ip := "fe80::1%eth0", now := 0 } "%{i}.example" = .ok t := by
  refine ⟨by decide +kernel, by decide +kernel, ?_⟩
  rintro ⟨t, ht⟩
  have hnone : (Macro.expand { domain := "d.example", ip := "fe80::1%eth0", now := 0 } "%{i}.example").toOption =
      none := by decide +kernel
  rw [ht] at hnone
  cases hnone

end SenderPolicy.Evaluation
