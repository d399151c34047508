import SenderPolicy.Proofs.Audit.History

/-!
Bounds on an audit. Each step of a walk leaves its history in order: a question stands right behind the count
of the term that leads to its target, no path holds a name twice, and there are as many counts as the tally
tells. A history in order has no more questions than lookups are allowed.
-/
namespace SenderPolicy.Audit
open Dns Dns.Work
variable {α β : Type}

/-- A history in order, the latest event first, with so many counts. -/
inductive Orderly (limits : Limits) : Nat → List Event → Prop
  | nil : Orderly limits 0 []
  | counted {n history} (t : Term) : Orderly limits n history →
      Orderly limits (n + 1) (.counted t :: history)
  | asked {n history t target} : Orderly limits n (.counted t :: history) → n ≤ limits.lookups.toNat →
      Leads t target → Orderly limits n (.asked target :: .counted t :: history)
  | entered {n history path} : Orderly limits n history → path.Nodup →
      Orderly limits n (.entered path :: history)

variable {limits : Limits} {n : Nat} {history : List Event}

namespace Orderly

theorem count_eq (h : Orderly limits n history) : history.countP Event.isCount = n := by
  induction h with
  | nil => rfl
  | counted t _ ih => simp [List.countP_cons, Event.isCount, ih]
  | asked _ _ _ ih => simpa [List.countP_cons, Event.isCount] using ih
  | entered _ _ ih => simpa [List.countP_cons, Event.isCount] using ih

theorem nodup_of_entered (h : Orderly limits n history) {path : List Text}
    (hm : Event.entered path ∈ history) : path.Nodup := by
  induction h with
  | nil => cases hm
  | counted t _ ih => exact ih (by simpa using hm)
  | asked _ _ _ ih => exact ih (by simpa using hm)
  | entered _ hp ih =>
    cases hm with
    | head => exact hp
    | tail _ hm => exact ih hm

theorem counted_before_asked (h : Orderly limits n history) {later earlier : List Event} {target : Text}
    (heq : history = later ++ .asked target :: earlier) :
    ∃ t earliest, earlier = .counted t :: earliest ∧ Leads t target := by
  induction h generalizing later with
  | nil => simp at heq
  | counted t _ ih =>
    cases later with
    | nil => cases heq
    | cons e later => exact ih (List.cons.inj heq).2
  | @asked n history t target' _ _ hl ih =>
    cases later with
    | nil =>
      cases heq
      exact ⟨t, history, rfl, hl⟩
    | cons e later => exact ih (List.cons.inj heq).2
  | entered _ _ ih =>
    cases later with
    | nil => cases heq
    | cons e later => exact ih (List.cons.inj heq).2

/-- There is a question for each count at most, and for none that went over the limit. -/
theorem asked_le (h : Orderly limits n history) :
    (questions history).length ≤ limits.lookups.toNat ∧ (questions history).length ≤ n ∧
      ∀ t earlier, history = .counted t :: earlier → (questions history).length + 1 ≤ n := by
  -- That there is room for one question more behind a count is what carries the induction.
  induction h with
  | nil => simp [questions]
  | counted t _ ih =>
    obtain ⟨hlimit, hn, -⟩ := ih
    simp only [questions_cons, Event.query?, Option.toList_none, List.append_nil]
    exact ⟨hlimit, Nat.le_succ_of_le hn, fun _ _ _ => Nat.succ_le_succ hn⟩
  | @asked n history t target _ hle _ ih =>
    have hroom := ih.2.2 t history rfl
    simp only [questions_cons, Event.query?, Option.toList_none, List.append_nil, Option.toList_some,
      List.length_append, List.length_singleton] at hroom ⊢
    exact ⟨by omega, hroom, by simp⟩
  | entered _ _ ih =>
    simp only [questions_cons, Event.query?, Option.toList_none, List.append_nil]
    exact ⟨ih.1, ih.2.1, by simp⟩

end Orderly

theorem topic_of_mem_questions {q : Query} (h : q ∈ questions history) : q.topic = .texts := by
  obtain ⟨e, -, he⟩ := List.mem_filterMap.mp h
  cases e with
  | asked target =>
    cases he
    rfl
  | _ => cases he

/-- Where a step has come from a history: the questions are those that it has added, and all is in order. The
tally is within the limit, unless the step has stopped at the count that goes over it. -/
structure Kept (limits : Limits) (history : List Event) (asked : List Query)
    (r : Except WalkStop α × WalkState × List Event) : Prop where
  grown : ∃ later, r.2.2 = later ++ history ∧ asked = questions later
  orderly : Orderly limits r.2.1.tally.lookups r.2.2
  within : (∀ e, r.1 ≠ .error (.excess e)) → r.2.1.tally.lookups ≤ limits.lookups.toNat
  excess : ∀ e, r.1 = .error (.excess e) → r.2.1.tally.lookups = limits.lookups.toNat + 1 ∧
    ∃ term, e = .lookups r.2.1.tally.lookups limits.lookups term

/-- From a history in order, and within the limit, the step keeps this, whatever the resolver replies. Of the
history it needs the one condition, and leaves the other. -/
def Sound (limits : Limits) (pre : List Event → Prop) (x : Recorded α) (post : List Event → Prop) : Prop :=
  ∀ s history, Orderly limits s.tally.lookups history → s.tally.lookups ≤ limits.lookups.toNat →
    pre history → (x.run.run (s, history)).Tells fun asked r =>
      Kept limits history asked r ∧ ∀ a, r.1 = .ok a → post r.2.2

namespace Sound
variable {pre post mid : List Event → Prop}

theorem still {x : Walk α} (h : ∀ s, ∃ o s', x.run.run s = Pure.pure (o, s') ∧ s'.tally = s.tally ∧
    ∀ e, o ≠ .error (.excess e)) : Sound limits pre (Work.still x) pre := by
  intro s history hh hl hp
  obtain ⟨o, s', hx, ht, hno⟩ := h s
  rw [run_still, hx]
  have hgo : Kept limits history [] (o, s', history) :=
    ⟨⟨[], rfl, rfl⟩, by simpa only [ht] using hh, fun _ => by simpa only [ht] using hl, fun e he => absurd he (hno e)⟩
  exact ⟨hgo, fun _ _ => hp⟩

theorem find (f : Finding) : Sound limits pre (Work.still (Walk.find f)) pre :=
  still fun _ => ⟨_, _, rfl, rfl, fun _ h => nomatch h⟩

theorem findAll (fs : List Finding) : Sound limits pre (Work.still (Walk.findAll fs)) pre :=
  still fun _ => ⟨_, _, rfl, rfl, fun _ h => nomatch h⟩

theorem pure (a : α) : Sound limits pre (Pure.pure a) pre :=
  fun _ _ hh hl hp => ⟨⟨⟨[], rfl, rfl⟩, hh, fun _ => hl, fun _ h => nomatch h⟩, fun _ _ => hp⟩

theorem fault (f : Fault) : Sound limits pre (throw (.fault f) : Recorded α) post :=
  fun _ _ hh hl _ => ⟨⟨⟨[], rfl, rfl⟩, hh, fun _ => hl, fun _ h => nomatch h⟩, fun _ h => nomatch h⟩

theorem weaken {x : Recorded α} (h : Sound limits pre x post) : Sound limits pre x fun _ => True :=
  fun s history hh hl hp => (h s history hh hl hp).mono fun _ _ hr => ⟨hr.1, fun _ _ => trivial⟩

theorem bind {x : Recorded α} {f : α → Recorded β} (h : Sound limits pre x mid)
    (hf : ∀ a, Sound limits mid (f a) post) : Sound limits pre (x >>= f) post := by
  intro s history hh hl hp
  rw [run_bind]
  apply Plan.tells_bind
  refine (h s history hh hl hp).mono fun asked r hr => ?_
  obtain ⟨o, s', history'⟩ := r
  obtain ⟨hkept, hmid⟩ := hr
  cases o with
  | error e =>
    have hstop : Kept (α := β) limits history (asked ++ []) (.error e, s', history') := by
      rw [List.append_nil]
      refine ⟨hkept.grown, hkept.orderly, fun hno => hkept.within fun e' he => hno e' ?_,
        fun e' he => hkept.excess e' ?_⟩
      · cases he; rfl
      · cases he; rfl
    exact ⟨hstop, fun _ h => nomatch h⟩
  | ok a =>
    have hwithin : s'.tally.lookups ≤ limits.lookups.toNat := hkept.within fun _ h => nomatch h
    refine (hf a s' history' hkept.orderly hwithin (hmid a rfl)).mono fun asked' r' hr' => ⟨?_, hr'.2⟩
    obtain ⟨later, hlater, rfl⟩ := hkept.grown
    obtain ⟨later', hlater', rfl⟩ := hr'.1.grown
    refine ⟨⟨later' ++ later, ?_, ?_⟩, hr'.1.orderly, hr'.1.within, hr'.1.excess⟩
    · rw [hlater', List.append_assoc]
      exact congrArg (later' ++ ·) hlater
    · rw [questions_append]

theorem count (t : Term) (domain : Text) :
    Sound limits pre (Recorded.count limits t domain) fun history => ∃ earlier, history = .counted t :: earlier := by
  intro s history hh hl _
  rw [Recorded.count, run_marked, run_still, Walk.run_count, pure_bind]
  have horderly : Orderly limits s.counted.tally.lookups (.counted t :: history) := hh.counted t
  have hgrown : ∃ later, Event.counted t :: history = later ++ history ∧ ([] : List Query) = questions later :=
    ⟨[.counted t], rfl, rfl⟩
  by_cases hover : limits.lookups < (s.tally.lookups + 1 : Nat)
  · simp only [if_pos hover]
    refine ⟨⟨hgrown, horderly, fun hno => absurd rfl (hno _), fun e he => ?_⟩, fun _ h => nomatch h⟩
    cases he
    simp only [WalkState.counted_lookups]
    exact ⟨by omega, _, rfl⟩
  · simp only [if_neg hover]
    refine ⟨⟨hgrown, horderly, fun _ => ?_, fun _ h => nomatch h⟩, fun _ _ => ⟨history, rfl⟩⟩
    simp only [WalkState.counted_lookups]
    omega

theorem fetch {t : Term} {target : Text} (hl : Leads t target) :
    Sound limits (fun history => ∃ earlier, history = .counted t :: earlier) (Recorded.fetch target)
      fun _ => True := by
  rintro s history hh hle ⟨earlier, rfl⟩
  have hrun : (Walk.fetch target).run.run s = published target >>= fun a => Pure.pure (.ok a, s) :=
    run_ofPlan (published target) s
  rw [Recorded.fetch, run_marked, run_still, hrun, published]
  intro r
  have hgrown : ∃ later, Event.asked target :: .counted t :: earlier = later ++ .counted t :: earlier ∧
      [(⟨.texts, Domain.normalized target⟩ : Query)] = questions later := ⟨[.asked target], rfl, rfl⟩
  exact ⟨⟨hgrown, hh.asked hle hl, fun _ => hle, by simp⟩, fun _ _ => trivial⟩

theorem entered {path : List Text} (h : path.Nodup) :
    Sound limits pre (mark (.entered path)) fun _ => True :=
  fun _ _ hh hl _ =>
    ⟨⟨⟨[.entered path], rfl, rfl⟩, hh.entered h, fun _ => hl, fun _ h => nomatch h⟩, fun _ _ => trivial⟩

/-- Following a record is sound along every path that holds no name twice. -/
def Follows (limits : Limits) (follow : Recorded.Follow) : Prop :=
  ∀ record domain path, path.Nodup → Sound limits (fun _ => True) (follow record domain path) fun _ => True

variable {follow : Recorded.Follow} {path : List Text} {domain target : Text} {t : Term}

theorem enter (hf : Follows limits follow) (hl : Leads t target) (kind : Kind)
    (hp : (path ++ [target]).Nodup) :
    Sound limits (fun history => ∃ earlier, history = .counted t :: earlier)
      (Recorded.enter follow kind target path) fun _ => True := by
  refine (fetch hl).bind fun fetched => ?_
  cases fetched with
  | error u => exact find _
  | ok publication =>
    refine (findAll _).bind fun _ => ?_
    split
    · exact pure ()
    · split
      · exact fault _
      · dsimp only
        split
        · exact (find _).bind fun _ => (findAll _).bind fun _ => (entered hp).bind fun _ => hf _ _ _ hp
        · exact (entered hp).bind fun _ => hf _ _ _ hp

theorem walkTarget (hf : Follows limits follow) (hk : t.kind = .inclusion ∨ t.kind = .redirect)
    (hp : path.Nodup) :
    Sound limits (fun history => ∃ earlier, history = .counted t :: earlier)
      (Recorded.walkTarget follow t domain path) fun _ => True := by
  unfold Recorded.walkTarget
  split
  · exact (pure ()).weaken
  · exact (pure ()).weaken
  · rename_i value hne hv
    split
    · exact (find _).weaken
    · rename_i hpercent
      have hl : Leads t (Domain.normalized value) := ⟨hk, value, hv, hne, by simpa using hpercent, rfl⟩
      dsimp only
      split
      · exact (find _).weaken
      · rename_i hnew
        have hpath : (path ++ [Domain.normalized value]).Nodup := by
          simp only [List.contains_iff_mem] at hnew
          rw [List.nodup_append]
          refine ⟨hp, by simp, fun a ha b hb heq => hnew ?_⟩
          rw [← List.mem_singleton.mp hb, ← heq]
          exact ha
        have hrest := (still fun _ => ⟨_, _, rfl, rfl, fun _ h => nomatch h⟩ :
          Sound limits (fun history => ∃ earlier, history = .counted t :: earlier) (Work.still
            (modify fun s => { s with seen := Domain.normalized value :: s.seen })) _).bind
          fun _ => enter hf hl t.kind hpath
        have hread : Sound limits (fun history => ∃ earlier, history = .counted t :: earlier)
            (Work.still get) _ := still fun s => ⟨.ok s, s, rfl, rfl, fun _ h => nomatch h⟩
        refine hread.bind fun s => ?_
        split
        · exact (find _).bind fun _ => hrest
        · exact hrest

theorem walkTerm (hf : Follows limits follow) (hp : path.Nodup) :
    Sound limits (fun _ => True) (Recorded.walkTerm limits follow t domain path) fun _ => True := by
  unfold Recorded.walkTerm
  split
  · refine (count t domain).bind fun _ => ?_
    split
    · rename_i hk
      exact walkTarget hf hk hp
    · exact (pure ()).weaken
  · exact pure ()

theorem walkTerms (hf : Follows limits follow) (hp : path.Nodup) (ts : List Term) :
    Sound limits (fun _ => True) (Recorded.walkTerms limits follow domain path ts) fun _ => True := by
  induction ts with
  | nil => exact pure ()
  | cons t rest ih => exact (walkTerm hf hp).bind fun _ => ih

theorem walk (limits : Limits) (left : Nat) : Follows limits (Recorded.walk limits left) := by
  induction left with
  | zero => exact fun record domain path hp => walkTerms (fun _ _ _ _ => pure ()) hp _
  | succ left ih => exact fun record domain path hp => walkTerms ih hp _

end Sound

structure Told (limits : Limits) (parsed : Option Record) (asked : List Query)
    (r : Except Fault Assessment × List Event) : Prop where
  asked : asked = questions r.2
  orderly : ∃ n, Orderly limits n r.2
  bounded : ∀ record a, parsed = some record → r.1 = .ok a → ∃ n, Orderly limits n r.2 ∧
    a.lookups = some n ∧ n ≤ limits.lookups.toNat + 1 ∧ (limits.lookups.toNat < n → a.isValid = false ∧
      ∃ term, .fatal (.excess (.lookups n limits.lookups term)) ∈ a.findings)

theorem auditRecorded_tells (limits : Limits) (text domain : Text) :
    (auditRecorded limits text domain).Tells (Told limits (Record.parse? text)) := by
  unfold auditRecorded
  cases Record.parse? text with
  | none => exact ⟨rfl, ⟨0, .nil⟩, fun _ _ h => nomatch h⟩
  | some record =>
    dsimp only
    cases recordFindings record with
    | error f => exact ⟨rfl, ⟨0, .nil⟩, fun _ _ _ h => nomatch h⟩
    | ok findings =>
      dsimp only
      apply Plan.tells_bind
      have hstart : Orderly limits 0 [.entered [Domain.normalized domain]] := .entered .nil (by simp)
      have hwalk := Sound.walk limits limits.lookups.toNat record (Domain.normalized domain)
        [Domain.normalized domain] (by simp) { findings } _ hstart (Nat.zero_le _) trivial
      refine hwalk.mono fun asked r ⟨⟨⟨later, hlater, hasked⟩, horderly, hwithin, hexcess⟩, _⟩ => ?_
      obtain ⟨o, s, history⟩ := r
      dsimp only at hlater horderly hwithin hexcess ⊢
      have hasked : asked ++ [] = questions history := by
        rw [hlater, questions_append, hasked, List.append_nil]
        rfl
      cases o with
      | ok u =>
        refine ⟨hasked, ⟨_, horderly⟩, fun _ a _ ha => ⟨_, horderly, ?_⟩⟩
        have hwithin := hwithin fun _ h => nomatch h
        cases ha
        exact ⟨rfl, by omega, fun h => by omega⟩
      | error stop =>
        cases stop with
        | fault f => exact ⟨hasked, ⟨_, horderly⟩, fun _ _ _ h => nomatch h⟩
        | excess e =>
          refine ⟨hasked, ⟨_, horderly⟩, fun _ a _ ha => ⟨_, horderly, ?_⟩⟩
          obtain ⟨hover, term, he⟩ := hexcess e rfl
          cases ha
          refine ⟨rfl, by omega, fun _ => ⟨?_, term, ?_⟩⟩
          · simp [Assessment.isValid, Finding.fatal]
          · simp [he]

/-- An audit ends by itself and within its budget, against every resolver, also one that changes with each
question. It ends by itself: with as many levels as there are lookups allowed, or any greater number, nothing
that stands below the last level is reached. All that it asks for are texts, each for the target of a term that
has just been counted, and no more of them than lookups are allowed; no path holds a name twice. The lookups
that it tells are those that it counted, and if they are more than allowed, it tells so. -/
theorem auditContent_bounded (limits : Limits) (text domain : Text) :
    (∀ floor depth record findings, limits.lookups.toNat ≤ depth →
      let d := Domain.normalized domain
      (walkAbove limits floor depth record d [d]).run.run { findings } =
        (walk limits limits.lookups.toNat record d [d]).run.run { findings }) ∧
    Prod.fst <$> auditRecorded limits text domain = auditContent limits text domain ∧
    ∀ (σ : Type) (reply : Query → σ → Reply × σ) (start : σ),
      let asked := (auditContent limits text domain).asked reply start
      let history := ((auditRecorded limits text domain).run reply start).1.2
      asked = questions history ∧ (∀ q ∈ asked, q.topic = .texts) ∧ asked.length ≤ limits.lookups.toNat ∧
      (∀ later target earlier, history = later ++ .asked target :: earlier →
        ∃ t earliest, earlier = .counted t :: earliest ∧ Leads t target) ∧
      (∀ path, .entered path ∈ history → path.Nodup) ∧
      ∀ record a, Record.parse? text = some record →
        ((auditContent limits text domain).run reply start).1 = .ok a →
        ∃ n, a.lookups = some n ∧ n = history.countP Event.isCount ∧ n ≤ limits.lookups.toNat + 1 ∧
          (limits.lookups.toNat < n → a.isValid = false ∧
            ∃ term, .fatal (.excess (.lookups n limits.lookups term)) ∈ a.findings) := by
  refine ⟨fun floor depth record findings h => walkAbove_run limits floor h _ _ _ _,
    auditRecorded_fst limits text domain, fun σ reply start => ?_⟩
  obtain ⟨hasked, ⟨n, horderly⟩, hbounded⟩ := (auditRecorded_tells limits text domain).of_run reply start
  rw [← auditRecorded_fst, Plan.asked_map, Plan.run_map, hasked]
  refine ⟨rfl, fun q => topic_of_mem_questions, horderly.asked_le.1,
    fun _ _ _ => horderly.counted_before_asked, fun _ => horderly.nodup_of_entered, fun record a hparse ha => ?_⟩
  obtain ⟨n, horderly, hlookups, hwithin, hexcess⟩ := hbounded record a hparse ha
  exact ⟨n, hlookups, horderly.count_eq.symm, hwithin, hexcess⟩

def endlessIncludes (_ : Query) (asked : Nat) : Reply × Nat :=
  (.records [.text (Text.phrase ["v=spf1 include:", Text.decimal asked, ".example"])], asked + 1)

theorem endlessIncludes_are_cut_off :
    let limits : Limits := ⟨2, 0⟩
    let text : Text := "v=spf1 include:a.example"
    (∃ record, Record.parse? text = some record ∧
      (walkAbove limits (fun _ _ _ => Walk.fetch "floor.example" >>= fun _ => pure ()) 3 record "d.example"
          ["d.example"]).run.run {} =
        (walk limits 2 record "d.example" ["d.example"]).run.run {}) ∧
    ((auditContent limits text "d.example").asked endlessIncludes 0).length ≤ 2 ∧
    ∃ a, ((auditContent limits text "d.example").run endlessIncludes 0).1 = .ok a ∧ a.lookups = some 3 ∧
      a.isValid = false := by
  intro limits text
  obtain ⟨hdepth, -, hrun⟩ := auditContent_bounded limits text "d.example"
  obtain ⟨-, -, hasked, -, -, hresult⟩ := hrun Nat endlessIncludes 0
  have hparse : (Record.parse? text).isSome := by decide +kernel
  have hkept : (((auditContent limits text "d.example").run endlessIncludes 0).1.toOption.map
      fun a => a.lookups) = some (some 3) := by decide +kernel
  obtain ⟨record, hrecord⟩ := Option.isSome_iff_exists.mp hparse
  have hnormal : Domain.normalized "d.example" = ("d.example" : Text) := by decide +kernel
  refine ⟨⟨record, hrecord, ?_⟩, hasked, ?_⟩
  · have hfloor := hdepth (fun _ _ _ => Walk.fetch "floor.example" >>= fun _ => pure ()) 3 record [] (by decide)
    rw [hnormal] at hfloor
    exact hfloor
  · cases ha : ((auditContent limits text "d.example").run endlessIncludes 0).1 with
    | error f => rw [ha] at hkept; cases hkept
    | ok a =>
      rw [ha] at hkept
      have hthree : a.lookups = some 3 := Option.some.inj hkept
      obtain ⟨n, hn, -, -, hover⟩ := hresult record a hrecord ha
      have hn3 : n = 3 := Option.some.inj (hn.symm.trans hthree)
      exact ⟨a, rfl, hthree, (hover (by rw [hn3]; decide)).1⟩

/-- A limit below zero is not exceeded where nothing is counted. -/
theorem negative_limit_is_kept :
    ¬ ∀ (limits : Limits) (replies : Query → Reply) (text domain : Text) (record : Record) (a : Assessment)
        (n : Nat), Record.parse? text = some record →
      (auditContent limits text domain).value replies = .ok a → a.lookups = some n →
      limits.lookups < n → a.isValid = false := by
  intro h
  have hparse : (Record.parse? "v=spf1 -all").isSome := by decide +kernel
  have hkept : ((auditContent ⟨-1, 2⟩ "v=spf1 -all" "d.example").value fun _ => .nothing).toOption.map
      (fun a => (a.lookups, a.isValid)) = some (some 0, true) := by decide +kernel
  obtain ⟨record, hrecord⟩ := Option.isSome_iff_exists.mp hparse
  cases ha : (auditContent ⟨-1, 2⟩ "v=spf1 -all" "d.example").value fun _ => .nothing with
  | error f => rw [ha] at hkept; cases hkept
  | ok a =>
    rw [ha] at hkept
    obtain ⟨hlookups, hvalid⟩ := Prod.mk.inj (Option.some.inj hkept)
    have hnot := h _ _ _ _ record a 0 hrecord ha hlookups (by decide)
    rw [hvalid] at hnot
    cases hnot

end SenderPolicy.Audit
