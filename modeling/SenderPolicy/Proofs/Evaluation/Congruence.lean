import SenderPolicy.Proofs.Evaluation.Step

/-!
Relations that an evaluation respects. Two evaluations whose settings differ in their limits alone are made of the same
steps. What relates their elementary steps, and goes along with sequences, thus relates all that is made of them. What a
record is to be is left to each use: the names that are read, the records that they lead to, and the explanation. So are
the questions for texts, which stand behind these alone.
-/
namespace SenderPolicy.Evaluation
open Dns

def Setting.withLimits (s : Setting) (limits : Limits) : Setting := { s with limits }

namespace Setting
variable (s : Setting) (limits : Limits)

@[simp] theorem withLimits_limits : (s.withLimits limits).limits = limits := rfl

end Setting

/-- A relation of the steps of two settings that differ in their limits alone: the elementary steps respect it, and so
does a sequence of steps that do. -/
structure Congruence (s : Setting) (limits : Limits) where
  Rel : {α : Type} → Step α → Step α → Prop
  pure {α : Type} (a : α) : Rel (pure a) (pure a)
  bind {α β : Type} {x y : Step α} {f g : α → Step β} :
    Rel x y → (∀ a, Rel (f a) (g a)) → Rel (x >>= f) (y >>= g)
  note (parts : List Text) : Rel (Step.note parts) (Step.note parts)
  query {topic : Topic} (name : Text) : topic ≠ .texts → Rel (Step.query topic name) (Step.query topic name)
  queryAll {topic : Topic} (names : List Text) : topic ≠ .texts →
    Rel (Step.queryAll topic names) (Step.queryAll topic names)
  count (label : Text) : Rel (Step.count s.limits label) (Step.count limits label)
  countVoid (label : Text) : Rel (Step.countVoid s.limits label) (Step.countVoid limits label)
  includeLoop (path : List Text) : Rel (throw (.includeLoop path) : Step Unit) (throw (.includeLoop path))
  redirectLoop (path : List Text) : Rel (throw (.redirectLoop path) : Step Unit) (throw (.redirectLoop path))

namespace Congruence
variable {α : Type} {s : Setting} {limits : Limits} (C : Congruence s limits) {follow follow' : Follow}
  {label target domain : Text} {path : List Text}

def Follows (follow follow' : Follow) : Prop :=
  ∀ domain path explains, C.Rel (follow domain path explains) (follow' domain path explains)

def FollowsTo (follow follow' : Follow) (explains : Bool) (domain : Text) : Prop :=
  ∀ path, C.Rel (follow domain path explains) (follow' domain path explains)

def Reads (x : Except Fault α) : Prop :=
  ∀ {β : Type} {f g : α → Step β}, (∀ a, x = .ok a → C.Rel (f a) (g a)) →
    C.Rel (Step.ofExcept x >>= f) (Step.ofExcept x >>= g)

theorem reads_of_ok {x : Except Fault α} (h : ∃ a, x = .ok a) : C.Reads x := by
  obtain ⟨a, rfl⟩ := h
  exact fun hfg => hfg a rfl

theorem reads_of_fault (h : ∀ {β : Type} (f : Fault), C.Rel (throw (.fault f) : Step β) (throw (.fault f)))
    (x : Except Fault α) : C.Reads x := by
  cases x with
  | ok a => exact C.reads_of_ok ⟨a, rfl⟩
  | error f => exact fun _ => h f

theorem addressTopic_ne (s : Setting) : s.addressTopic ≠ .texts := by
  unfold Setting.addressTopic
  cases s.address <;> exact fun h => nomatch h

theorem noted {x y : Step α} (parts : List Text) (h : C.Rel x y) :
    C.Rel (Step.note parts >>= fun _ => x) (Step.note parts >>= fun _ => y) :=
  C.bind (C.note parts) fun _ => h

theorem choice {c c' : Prop} [Decidable c] [Decidable c'] {x x' y y' : Step α} (hc : c ↔ c') (hx : C.Rel x x')
    (hy : C.Rel y y') : C.Rel (if c then x else y) (if c' then x' else y') := by
  by_cases h : c
  · rwa [if_pos h, if_pos (hc.mp h)]
  · rwa [if_neg h, if_neg (mt hc.mpr h)]

/-! Mechanisms that follow no record -/

theorem withRecords (answer : Answer) {onRecords onRecords' : List Datum → Step Outcome}
    (h : C.Rel (onRecords answer.records) (onRecords' answer.records)) :
    C.Rel (withRecords s label answer onRecords) (withRecords (s.withLimits limits) label answer onRecords') := by
  unfold Evaluation.withRecords
  split
  · exact C.noted _ (C.pure _)
  · split
    · exact C.noted _ (C.bind (C.countVoid label) fun _ => C.pure _)
    · exact h

theorem matchAddresses (t : Term) :
    C.Rel (matchAddresses s label target t) (matchAddresses (s.withLimits limits) label target t) :=
  C.bind (C.query target (addressTopic_ne s)) fun answer => C.withRecords answer (C.pure _)

theorem matchHosts (t : Term) (failed : Bool) (answers : List (Text × Answer)) :
    C.Rel (matchHosts s label t failed answers) (matchHosts (s.withLimits limits) label t failed answers) := by
  induction answers generalizing failed with
  | nil => exact C.pure _
  | cons a rest ih =>
    obtain ⟨host, answer⟩ := a
    unfold Evaluation.matchHosts
    split
    · exact C.noted _ (ih true)
    · exact C.choice Iff.rfl (C.pure _) (ih failed)

theorem matchExchanges (t : Term) :
    C.Rel (matchExchanges s label target t) (matchExchanges (s.withLimits limits) label target t) := by
  refine C.bind (C.query target fun h => nomatch h) fun answer => C.withRecords answer ?_
  split
  · exact C.noted _ (C.pure _)
  · exact C.bind (C.queryAll _ (addressTopic_ne s)) fun answers => C.matchHosts t false _

theorem confirmNames (answers : List (Text × Answer)) :
    C.Rel (confirmNames s label answers) (confirmNames (s.withLimits limits) label answers) := by
  induction answers with
  | nil => exact C.pure _
  | cons a rest ih =>
    obtain ⟨name, answer⟩ := a
    unfold Evaluation.confirmNames
    exact C.choice Iff.rfl (C.noted _ (C.pure _)) (C.noted _ ih)

theorem matchNames : C.Rel (matchNames s label target) (matchNames (s.withLimits limits) label target) := by
  refine C.bind (C.query s.address.text fun h => nomatch h) fun answer => ?_
  split
  · exact C.noted _ (C.pure _)
  · exact C.withRecords answer (C.bind (C.queryAll _ (addressTopic_ne s)) fun answers => C.confirmNames _)

theorem matchExistence :
    C.Rel (matchExistence s label target) (matchExistence (s.withLimits limits) label target) :=
  C.bind (C.query target fun h => nomatch h) fun answer => C.withRecords answer (C.pure _)

/-! Following records -/

theorem guardLoop {stop : List Text → Stop} (path : List Text) (target : Text)
    (h : ∀ path, C.Rel (throw (stop path) : Step Unit) (throw (stop path))) :
    C.Rel (guardLoop s stop path target) (guardLoop (s.withLimits limits) stop path target) := by
  unfold Evaluation.guardLoop
  exact C.choice Iff.rfl (h _) (C.pure _)

theorem matchInclude (hf : C.FollowsTo follow follow' false target) :
    C.Rel (matchInclude s follow label target path)
      (matchInclude (s.withLimits limits) follow' label target path) := by
  refine C.bind (C.guardLoop path target C.includeLoop) fun _ => C.bind (hf _) fun verdict => C.noted _ ?_
  cases verdict with
  | none => exact C.bind (C.countVoid label) fun _ => C.pure _
  | _ => exact C.pure _

theorem matchTerm (t : Term)
    (hx : t.kind ≠ .all → t.kind ≠ .ip4 → t.kind ≠ .ip6 → C.Reads (s.target t domain))
    (hf : t.kind = .inclusion → ∀ target, s.target t domain = .ok target →
      C.FollowsTo follow follow' false target) :
    C.Rel (matchTerm s follow domain path t) (matchTerm (s.withLimits limits) follow' domain path t) := by
  unfold Evaluation.matchTerm
  split
  · exact C.pure _
  · exact C.pure _
  · exact C.pure _
  · rename_i hall hip4 hip6
    refine C.bind (C.count _) fun _ => hx hall hip4 hip6 fun target htarget => ?_
    split
    · exact C.matchAddresses t
    · exact C.matchExchanges t
    · exact C.matchNames
    · rename_i hk
      exact C.matchInclude (hf hk target htarget)
    · exact C.matchExistence
    · exact C.pure _

theorem firstDecisive {attempt attempt' : Term → Step Outcome} {ts : List Term}
    (h : ∀ t ∈ ts, C.Rel (attempt t) (attempt' t)) :
    C.Rel (firstDecisive attempt ts) (firstDecisive attempt' ts) := by
  induction ts with
  | nil => exact C.pure _
  | cons t rest ih =>
    refine C.bind (h t List.mem_cons_self) fun outcome => ?_
    split
    · exact ih fun u hu => h u (List.mem_cons_of_mem t hu)
    · exact C.pure _

theorem redirect {value : Text} {explains : Bool} (hx : C.Reads (s.expandName value domain))
    (hf : ∀ target, s.expandName value domain = .ok target → C.FollowsTo follow follow' explains target) :
    C.Rel (redirect s follow value domain path explains)
      (redirect (s.withLimits limits) follow' value domain path explains) := by
  refine C.bind (C.count _) fun _ => hx fun target htarget => ?_
  refine C.bind (C.guardLoop path target C.redirectLoop) fun _ => ?_
  refine C.noted _ (C.bind (hf target htarget _) fun verdict => ?_)
  split
  · exact C.noted _ (C.pure _)
  · exact C.pure _

structure Leads (follow follow' : Follow) (r : Record) (domain : Text) (explains : Bool) : Prop where
  terms : ∀ t ∈ r.terms, t.isModifier = false → t.kind ≠ .all → t.kind ≠ .ip4 → t.kind ≠ .ip6 →
    C.Reads (s.target t domain)
  inclusions : ∀ t ∈ r.terms, t.kind = .inclusion → ∀ target, s.target t domain = .ok target →
    C.FollowsTo follow follow' false target
  redirect : ∀ value, r.redirect = some value → C.Reads (s.expandName value domain)
  redirected : ∀ value, r.redirect = some value → ∀ target, s.expandName value domain = .ok target →
    C.FollowsTo follow follow' explains target

theorem evaluateRecord {r r' : Record} {explains : Bool} (h : C.Leads follow follow' r domain explains)
    (hterms : r'.terms.filter (fun t => !t.isModifier) = r.terms.filter fun t => !t.isModifier)
    (hredirect : r'.redirect = r.redirect)
    (hexplain : explains = true → C.Rel (explain s r domain) (explain s r' domain)) :
    C.Rel (evaluateRecord s follow r domain path explains)
      (evaluateRecord (s.withLimits limits) follow' r' domain path explains) := by
  have hattempt (t : Term) (ht : t ∈ r.terms.filter fun t => !t.isModifier) :
      C.Rel (Evaluation.matchTerm s follow domain path t)
        (Evaluation.matchTerm (s.withLimits limits) follow' domain path t) := by
    obtain ⟨hmem, hm⟩ := List.mem_filter.mp ht
    exact C.matchTerm t (h.terms t hmem (by simpa using hm)) (h.inclusions t hmem)
  unfold Evaluation.evaluateRecord
  rw [hterms, hredirect]
  refine C.bind (C.firstDecisive hattempt) fun found => ?_
  split
  · exact C.pure _
  · exact C.pure _
  · refine C.noted _ ?_
    split
    · rename_i hfail
      exact C.bind (hexplain hfail.2) fun _ => C.pure _
    · exact C.pure _
  · split
    · rename_i value hvalue
      exact C.redirect (h.redirect value hvalue) (h.redirected value hvalue)
    · exact C.noted _ (C.pure _)

theorem noteAll (domain : Text) (problems : List Text) :
    C.Rel (noteAll domain problems) (noteAll domain problems) := by
  induction problems with
  | nil => exact C.pure _
  | cons problem rest ih => exact C.noted _ ih

end Congruence
end SenderPolicy.Evaluation
