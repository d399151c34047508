import SenderPolicy.Proofs.Evaluation.Step

/-!
What an evaluation may cost. Each counted term pays for eleven questions and for one lookup in vain; all
else that is asked is the text of the first domain and at most one explanation. The bounds hold on every
path, whatever the resolver replies.
-/
namespace SenderPolicy.Evaluation
open Dns
variable {α β σ : Type} {limits : Limits} {q r v w : Nat}

structure Fits (limits : Limits) (t : Tally) : Prop where
  lookups : t.lookups ≤ limits.lookups.toNat
  voids : t.voids ≤ limits.voids.toNat

/-- Between two tallies, so many questions more than eleven for each lookup and so many lookups in vain
more than one for each lookup are asked at most. A lookup over the limit pays for nothing. -/
structure Affordable (limits : Limits) (q v n : Nat) (before after : Tally) : Prop where
  questions : n + 11 * before.lookups ≤ q + 11 * min after.lookups limits.lookups.toNat
  voids : after.voids + before.lookups ≤ v + after.lookups + before.voids
  increasing : before.lookups ≤ after.lookups
  lookups_le : after.lookups ≤ limits.lookups.toNat + 1
  voids_le : after.voids ≤ limits.voids.toNat + 1

/-- From a tally within the limits a step asks no more than is affordable, and it ends within the limits
unless it stops. -/
def Frugal (limits : Limits) (q v : Nat) (x : Step α) : Prop :=
  ∀ p, Fits limits p.tally → x.Ensures p fun n o p' =>
    Affordable limits q v n p.tally p'.tally ∧ ∀ a, o = .ok a → Fits limits p'.tally

theorem Affordable.same {t : Tally} (h : Fits limits t) : Affordable limits 0 0 0 t t := by
  have hl := h.lookups
  have hv := h.voids
  constructor <;> omega

theorem Affordable.trans {n m : Nat} {a b c : Tally} (h : Affordable limits q v n a b)
    (hb : Fits limits b) (h' : Affordable limits r w m b c) :
    Affordable limits (q + r) (v + w) (n + m) a c := by
  obtain ⟨hq, hv, hi, -, -⟩ := h
  obtain ⟨hr, hw, hj, hl, hk⟩ := h'
  have hl' := hb.lookups
  constructor <;> omega

theorem Affordable.mono {n : Nat} {a b : Tally} (h : Affordable limits q v n a b) (hq : q ≤ r)
    (hv : v ≤ w) : Affordable limits r w n a b := by
  obtain ⟨h₁, h₂, h₃, h₄, h₅⟩ := h
  constructor <;> omega

namespace Frugal

theorem mono {x : Step α} (h : Frugal limits q v x) (hq : q ≤ r) (hv : v ≤ w) :
    Frugal limits r w x :=
  fun p hp => (h p hp).mono fun _ _ _ ⟨ha, hf⟩ => ⟨ha.mono hq hv, hf⟩

theorem pure (a : α) : Frugal limits q v (pure a : Step α) :=
  fun _ hp => ⟨(Affordable.same hp).mono (Nat.zero_le q) (Nat.zero_le v), fun _ _ => hp⟩

theorem throw (e : Stop) : Frugal limits q v (throw e : Step α) :=
  fun _ hp => ⟨(Affordable.same hp).mono (Nat.zero_le q) (Nat.zero_le v), fun _ h => nomatch h⟩

theorem bind {x : Step α} {f : α → Step β} (hx : Frugal limits q v x)
    (hf : ∀ a, Frugal limits r w (f a)) : Frugal limits (q + r) (v + w) (x >>= f) := by
  intro p hp
  refine Step.ensures_bind ((hx p hp).mono ?_)
  rintro n o p' ⟨ha, hfit⟩
  cases o with
  | error e => exact ⟨ha.mono (by omega) (by omega), fun _ h => nomatch h⟩
  | ok a =>
    refine (hf a p' (hfit a rfl)).mono ?_
    rintro n' o p'' ⟨ha', hfit'⟩
    exact ⟨ha.trans (hfit a rfl) ha', hfit'⟩

theorem behind {x : Step α} {f : α → Step β} (hx : Frugal limits 0 0 x)
    (hf : ∀ a, Frugal limits q v (f a)) : Frugal limits q v (x >>= f) := by
  have hbind := hx.bind hf
  rwa [Nat.zero_add, Nat.zero_add] at hbind

theorem before {x : Step α} {f : α → Step β} (hx : Frugal limits q v x)
    (hf : ∀ a, Frugal limits 0 0 (f a)) : Frugal limits q v (x >>= f) :=
  hx.bind hf

theorem note (parts : List Text) : Frugal limits 0 0 (Step.note parts) :=
  fun _ hp => ⟨.same hp, fun _ _ => hp⟩

theorem ofExcept (x : Except Fault α) : Frugal limits 0 0 (Step.ofExcept x) := by
  cases x with
  | ok a => exact pure a
  | error f => exact throw (.fault f)

theorem ofPlan {x : Plan α} (h : x.Ensures fun n _ => n ≤ q) : Frugal limits q 0 (Step.ofPlan x) := by
  intro p hp
  refine Step.ensures_ofPlan (h.mono fun n a hn => ⟨?_, fun _ _ => hp⟩)
  have hl := hp.lookups
  have hv := hp.voids
  constructor <;> omega

theorem query (topic : Topic) (name : Text) : Frugal limits 1 0 (Step.query topic name) :=
  ofPlan (Plan.ensures_query topic name fun _ => Nat.le_refl 1)

theorem query_bind {topic : Topic} {name : Text} {f : Answer → Step α}
    (hf : ∀ answer, Frugal limits q v (f answer)) :
    Frugal limits (q + 1) v (Step.query topic name >>= f) := by
  have hbind := (query topic name).bind hf
  rwa [Nat.add_comm, Nat.zero_add] at hbind

theorem queryAll (topic : Topic) {names : List Text} {k : Nat} (h : names.length ≤ k) :
    Frugal limits k 0 (Step.queryAll topic names) :=
  ofPlan ((Plan.ensures_queryAll topic names).mono fun n _ hn => by omega)

theorem countVoid (term : Text) : Frugal limits 0 1 (Step.countVoid limits term) := by
  intro p hp
  have hl := hp.lookups
  have hv := hp.voids
  refine Step.ensures_countVoid (fun h => ⟨?_, fun _ h => nomatch h⟩) (fun h => ⟨?_, fun _ _ => ⟨hl, ?_⟩⟩)
  · constructor <;> simp only [Progress.voided_lookups, Progress.voided_voids] <;> omega
  · constructor <;> simp only [Progress.voided_lookups, Progress.voided_voids] <;> omega
  · rw [Progress.voided_voids]
    omega

theorem countVoid_bind {term : Text} {f : Unit → Step α} (hf : Frugal limits q v (f ())) :
    Frugal limits q (v + 1) (Step.countVoid limits term >>= f) := by
  have hbind := (countVoid term).bind fun _ => hf
  rwa [Nat.zero_add, Nat.add_comm] at hbind

theorem counted {x : Unit → Step α} {term : Text} (h : Frugal limits 11 1 (x ())) :
    Frugal limits 0 0 (Step.count limits term >>= x) := by
  intro p hp
  have hl := hp.lookups
  have hv := hp.voids
  refine Step.ensures_bind (Step.ensures_count (fun h => ⟨?_, fun _ h => nomatch h⟩) fun hw => ?_)
  · constructor <;> simp only [Progress.counted_lookups, Progress.counted_voids] <;> omega
  · refine (h p.counted ⟨by rw [Progress.counted_lookups]; omega, hv⟩).mono ?_
    rintro n o p' ⟨⟨h₁, h₂, h₃, h₄, h₅⟩, hfit⟩
    refine ⟨?_, hfit⟩
    rw [Progress.counted_lookups] at h₁ h₂ h₃
    rw [Progress.counted_voids] at h₂
    constructor <;> omega

end Frugal

/-! The cost of each mechanism -/

variable {s : Setting}

theorem withRecords_frugal (label : Text) (answer : Answer) {onRecords : List Datum → Step Outcome}
    (h : Frugal s.limits q 1 (onRecords answer.records)) :
    Frugal s.limits q 1 (withRecords s label answer onRecords) := by
  unfold withRecords
  split
  · exact (Frugal.note _).behind fun _ => Frugal.pure _
  · split
    · refine (Frugal.note _).behind fun _ => ?_
      exact Frugal.countVoid_bind (Frugal.pure _)
    · exact h

theorem matchAddresses_frugal (label target : Text) (t : Term) :
    Frugal s.limits 11 1 (matchAddresses s label target t) :=
  Frugal.query_bind fun answer =>
    withRecords_frugal label answer (Frugal.pure _)

theorem matchHosts_frugal (label : Text) (t : Term) (failed : Bool) (answers : List (Text × Answer)) :
    Frugal s.limits 0 0 (matchHosts s label t failed answers) := by
  induction answers generalizing failed with
  | nil => exact Frugal.pure _
  | cons a rest ih =>
    obtain ⟨host, answer⟩ := a
    unfold matchHosts
    split
    · exact (Frugal.note _).behind fun _ => ih true
    · split
      · exact Frugal.pure _
      · exact ih failed

theorem matchExchanges_frugal (label target : Text) (t : Term) :
    Frugal s.limits 11 1 (matchExchanges s label target t) := by
  refine Frugal.query_bind fun answer => withRecords_frugal label answer ?_
  split
  · exact (Frugal.note _).behind fun _ => Frugal.pure _
  · rename_i hfew
    have hlen : (answer.records.map fun r => Domain.normalized r.asText).length ≤ 10 := by
      simpa [maxExchanges] using hfew
    exact ((Frugal.queryAll _ hlen).mono (Nat.le_refl 10) (Nat.zero_le 1)).before fun answers =>
      matchHosts_frugal label t false _

theorem confirmNames_frugal (label : Text) (answers : List (Text × Answer)) :
    Frugal s.limits 0 0 (confirmNames s label answers) := by
  induction answers with
  | nil => exact Frugal.pure _
  | cons a rest ih =>
    obtain ⟨name, answer⟩ := a
    unfold confirmNames
    split
    · exact (Frugal.note _).behind fun _ => Frugal.pure _
    · exact (Frugal.note _).behind fun _ => ih

theorem candidates_length (target : Text) (records : List Datum) :
    (candidates target records).length ≤ 10 := by
  have h := List.length_filter_le (Domain.isWithin target)
    ((records.map fun r => Domain.normalized r.asText).take maxReverseNames)
  rw [List.length_take] at h
  exact Nat.le_trans h (Nat.min_le_left 10 _)

theorem matchNames_frugal (label target : Text) :
    Frugal s.limits 11 1 (matchNames s label target) := by
  refine Frugal.query_bind fun answer => ?_
  split
  · exact (Frugal.note _).behind fun _ => Frugal.pure _
  · refine withRecords_frugal label answer ?_
    have hnames := candidates_length target answer.records
    exact ((Frugal.queryAll _ hnames).mono (Nat.le_refl 10) (Nat.zero_le 1)).before fun _ =>
      confirmNames_frugal label _

theorem matchExistence_frugal (label target : Text) :
    Frugal s.limits 11 1 (matchExistence s label target) :=
  Frugal.query_bind fun answer =>
    withRecords_frugal label answer (Frugal.pure _)

/-! The cost of a domain -/

/-- What following a domain asks beyond what its terms pay for: its text, and one explanation if a failure
is to be explained. -/
def FrugalFollow (limits : Limits) (follow : Follow) : Prop :=
  ∀ domain path explains, Frugal limits (1 + explains.toNat) 0 (follow domain path explains)

variable {follow : Follow}

theorem guardLoop_frugal (stop : List Text → Stop) (path : List Text) (target : Text) :
    Frugal s.limits 0 0 (guardLoop s stop path target) := by
  unfold guardLoop
  split
  · exact Frugal.throw _
  · exact Frugal.pure _

theorem matchInclude_frugal (hf : FrugalFollow s.limits follow) (label target : Text)
    (path : List Text) : Frugal s.limits 11 1 (matchInclude s follow label target path) := by
  refine (guardLoop_frugal _ _ _).behind fun _ => ?_
  have hfollow : Frugal s.limits 11 0 (follow target (path ++ [target]) false) :=
    (hf _ _ _).mono (by decide) (Nat.le_refl 0)
  refine hfollow.bind (r := 0) (w := 1) fun verdict => (Frugal.note _).behind fun _ => ?_
  cases verdict with
  | none => exact Frugal.countVoid_bind (Frugal.pure _)
  | _ => exact Frugal.pure _

theorem matchTerm_frugal (hf : FrugalFollow s.limits follow) (domain : Text) (path : List Text)
    (t : Term) : Frugal s.limits 0 0 (matchTerm s follow domain path t) := by
  unfold matchTerm
  split
  · exact Frugal.pure _
  · exact Frugal.pure _
  · exact Frugal.pure _
  · refine Frugal.counted ((Frugal.ofExcept _).behind fun target => ?_)
    split
    · exact matchAddresses_frugal _ _ _
    · exact matchExchanges_frugal _ _ _
    · exact matchNames_frugal _ _
    · exact matchInclude_frugal hf _ _ _
    · exact matchExistence_frugal _ _
    · exact Frugal.pure _

theorem firstDecisive_frugal {attempt : Term → Step Outcome}
    (h : ∀ t, Frugal limits 0 0 (attempt t)) (ts : List Term) :
    Frugal limits 0 0 (firstDecisive attempt ts) := by
  induction ts with
  | nil => exact Frugal.pure _
  | cons t rest ih =>
    refine (h t).behind fun outcome => ?_
    split
    · exact ih
    · exact Frugal.pure _

theorem explain_frugal (r : Record) (domain : Text) : Frugal s.limits 1 0 (explain s r domain) := by
  unfold explain
  split
  · exact Frugal.pure _
  · exact Frugal.pure _
  · refine (Frugal.ofExcept _).behind fun target => ?_
    refine Frugal.query_bind fun answer => ?_
    split
    · exact (Frugal.ofExcept _).behind fun _ _ hp => Frugal.pure () _ hp
    · exact Frugal.note _

theorem redirect_frugal (hf : FrugalFollow s.limits follow) (value domain : Text) (path : List Text)
    (explains : Bool) : Frugal s.limits 0 0 (redirect s follow value domain path explains) := by
  refine Frugal.counted ((Frugal.ofExcept _).behind fun target => ?_)
  refine (guardLoop_frugal _ _ _).behind fun _ => ?_
  refine (Frugal.note _).behind fun _ => ?_
  have hb : explains.toNat ≤ 1 := Bool.toNat_le explains
  have hfollow : Frugal s.limits 11 1 (follow target (path ++ [target]) explains) :=
    (hf _ _ _).mono (by omega) (Nat.zero_le 1)
  refine hfollow.before fun verdict => ?_
  split
  · exact (Frugal.note _).behind fun _ => Frugal.pure _
  · exact Frugal.pure _

theorem evaluateRecord_frugal (hf : FrugalFollow s.limits follow) (r : Record) (domain : Text)
    (path : List Text) (explains : Bool) :
    Frugal s.limits explains.toNat 0 (evaluateRecord s follow r domain path explains) := by
  refine (firstDecisive_frugal (matchTerm_frugal hf domain path) _).behind fun found => ?_
  split
  · exact Frugal.pure _
  · exact Frugal.pure _
  · refine (Frugal.note _).behind fun _ => ?_
    split
    · rename_i hfail
      rw [hfail.2]
      exact (explain_frugal r domain).before fun _ => Frugal.pure _
    · exact Frugal.pure _
  · split
    · exact (redirect_frugal hf _ _ _ _).mono (Nat.zero_le _) (Nat.zero_le _)
    · exact (Frugal.note _).behind fun _ => Frugal.pure _

theorem noteAll_frugal (domain : Text) (problems : List Text) :
    Frugal limits 0 0 (noteAll domain problems) := by
  induction problems with
  | nil => exact Frugal.pure _
  | cons problem rest ih => exact (Frugal.note _).behind fun _ => ih

theorem published_questions (domain : Text) : (published domain).Ensures fun n _ => n ≤ 1 :=
  fun _ => Nat.le_refl 1

theorem visit_frugal (hf : FrugalFollow s.limits follow) : FrugalFollow s.limits (visit s follow) := by
  intro domain path explains
  refine (Frugal.ofPlan (published_questions domain)).bind (w := 0) fun fetched => ?_
  cases fetched with
  | error u => exact (Frugal.note _).behind fun _ => Frugal.pure _
  | ok publication =>
    refine (Frugal.note _).behind fun _ => ?_
    refine (Frugal.ofExcept _).behind fun assessment => ?_
    split
    · exact evaluateRecord_frugal hf _ _ _ _
    · exact (noteAll_frugal _ _).behind fun _ => Frugal.pure _

theorem checkHost_frugal (s : Setting) (depth : Nat) : FrugalFollow s.limits (checkHost s depth) := by
  induction depth with
  | zero => exact visit_frugal fun _ _ _ => Frugal.pure _
  | succ depth ih => exact visit_frugal ih

theorem checkHost_bounds (s : Setting) (depth : Nat) (domain : Text) (path : List Text) :
    (checkHost s depth domain path true).Ensures {} fun n o p =>
      n ≤ 2 + 11 * s.limits.lookups.toNat ∧ p.tally.lookups ≤ s.limits.lookups.toNat + 1 ∧
      p.tally.voids ≤ s.limits.voids.toNat + 1 ∧ p.tally.voids ≤ p.tally.lookups ∧
      ∀ verdict, o = .ok verdict → Fits s.limits p.tally := by
  refine (checkHost_frugal s depth domain path true {} ⟨Nat.zero_le _, Nat.zero_le _⟩).mono ?_
  rintro n o p ⟨⟨h₁, h₂, h₃, h₄, h₅⟩, hfit⟩
  simp only [Bool.toNat_true] at h₁ h₂
  exact ⟨by omega, h₄, h₅, by omega, hfit⟩

end SenderPolicy.Evaluation
