import SenderPolicy.Proofs.Dns.Questions

/-!
Timeouts. Where the next questions for a name time out and all later ones have one outcome, a call asks once and once
more for each timeout, as long as retries are left. It ends with the outcome if it comes that far, and then a list of
records is kept, so that the same call asks nothing while the list is young; otherwise nothing is kept.
-/
namespace SenderPolicy.Dns

namespace Cache
variable {κ ν : Type} [DecidableEq κ] {c : Cache κ ν} {now later : Int} {key : κ} {value : ν}

theorem entry?_store (c : Cache κ ν) (now : Int) (key : κ) (value : ν) :
    Cache.entry? (c.store now key value) key = some ⟨key, value, now⟩ := by
  unfold store
  dsimp only
  generalize (if c.entries.length = c.capacity then _ else c) = room
  split
  · rename_i hthere
    obtain ⟨e, he⟩ := Option.isSome_iff_exists.mp hthere
    have hkey := List.find?_some (show room.entries.find? (fun e => e.key = key) = some e from he)
    have hsame : (fun d : CacheEntry κ ν => decide ((if d.key = key then ⟨key, value, now⟩ else d).key = key)) =
        fun d => decide (d.key = key) := by
      funext d
      split <;> simp_all
    unfold entry? at he ⊢
    rw [List.find?_map, Function.comp_def, hsame, he, Option.map_some, if_pos (of_decide_eq_true hkey)]
  · rename_i hnone
    have hmissed : room.entries.find? (fun e => e.key = key) = none := Option.not_isSome_iff_eq_none.mp hnone
    unfold entry?
    rw [List.find?_append, hmissed]
    simp

theorem read_store (h : later - now < c.age) :
    (c.store now key value).read later key = (some value, c.store now key value) := by
  unfold read
  rw [entry?_store]
  simp only [age_store, if_pos h]

theorem entry?_of_missed (h : (c.read now key).1 = none) : Cache.entry? (c.read now key).2 key = none := by
  unfold read at h ⊢
  cases hentry : c.entry? key with
  | none => exact hentry
  | some e =>
    simp only [hentry] at h ⊢
    split at h
    · cases h
    · rename_i hold
      rw [if_neg hold]
      exact List.find?_eq_none.mpr fun d hd => by simpa using (List.mem_filter.mp hd).2

theorem read_of_none (h : c.entry? key = none) : c.read now key = (none, c) := by
  unfold read
  rw [h]

theorem sublist_read (c : Cache κ ν) (now : Int) (key : κ) : (c.read now key).2.entries.Sublist c.entries := by
  unfold read
  split
  · exact List.Sublist.refl _
  · split
    · exact List.Sublist.refl _
    · exact List.filter_sublist

end Cache

variable {σ : Type} {type : RecordType} {name : Text} {wire : Wire σ} {s : σ} {k : Nat} {outcome : WireOutcome}

/-- A list of records, or the answer that there are none. -/
def WireOutcome.IsList : WireOutcome → Prop
  | .data _ | .noAnswer => True
  | _ => False

/-- The state of the wire behind so many questions for the name. -/
def Wire.after (wire : Wire σ) (type : RecordType) (name : Text) : Nat → σ → σ
  | 0, s => s
  | n + 1, s => wire.after type name n (wire type name s).2

/-- The next `k` questions for the name time out, and all later ones have the outcome. -/
structure Delays (wire : Wire σ) (type : RecordType) (name : Text) (k : Nat) (outcome : WireOutcome) (s : σ) : Prop where
  timesOut : ∀ n < k, (wire type name (wire.after type name n s)).1 = .timeout
  answers : ∀ n, k ≤ n → (wire type name (wire.after type name n s)).1 = outcome
  isAnswer : outcome ≠ .timeout

namespace Delays

theorem next (h : Delays wire type name (k + 1) outcome s) :
    (wire type name s).1 = .timeout ∧ Delays wire type name k outcome (wire type name s).2 where
  left := h.timesOut 0 (Nat.succ_pos k)
  right := {
    timesOut := fun n hn => h.timesOut (n + 1) (Nat.succ_lt_succ hn)
    answers := fun n hn => h.answers (n + 1) (Nat.succ_le_succ hn)
    isAnswer := h.isAnswer }

theorem first (h : Delays wire type name 0 outcome s) : (wire type name s).1 = outcome := h.answers 0 (Nat.le_refl 0)

end Delays

theorem Wire.after_recorded (wire : Wire σ) (type : RecordType) (name : Text) (n : Nat) (s : σ) (asked : List Question) :
    wire.recorded.after type name n (s, asked) =
      (wire.after type name n s, asked ++ List.replicate n (type, name)) := by
  induction n generalizing s asked with
  | zero => simp [Wire.after]
  | succ n ih =>
    rw [Wire.after, Wire.after]
    exact (ih _ _).trans (by rw [List.append_assoc, List.singleton_append, ← List.replicate_succ])

/-- Writing the questions down does not change when the wire answers. -/
theorem Delays.recorded (h : Delays wire type name k outcome s) (asked : List Question) :
    Delays wire.recorded type name k outcome (s, asked) where
  timesOut n hn := by rw [Wire.after_recorded]; exact h.timesOut n hn
  answers n hn := by rw [Wire.after_recorded]; exact h.answers n hn
  isAnswer := h.isAnswer

namespace Resolver
variable {now : Int} {r : Resolver} {q : Query}

/-- Of the timeouts to come each uses up a retry, as long as there are any. -/
theorem ask_of_delays (h : Delays wire type name k outcome s) (retries : Nat) :
    ask wire type name retries s =
      (if k ≤ retries then outcome else .timeout, wire.after type name (min k retries + 1) s) := by
  induction retries generalizing k s with
  | zero =>
    cases k with
    | zero => exact Prod.ext h.first rfl
    | succ k => exact Prod.ext h.next.1 (by rw [Nat.min_zero]; rfl)
  | succ left ih =>
    unfold ask
    generalize hfirst : wire type name s = found
    obtain ⟨given, behind⟩ := found
    cases k with
    | zero =>
      obtain rfl : given = outcome := by rw [← h.first, hfirst]
      have hbehind : wire.after type name (min 0 (left + 1) + 1) s = behind := by
        rw [Nat.zero_min, Wire.after, hfirst]
        rfl
      rw [hbehind, if_pos (Nat.zero_le _)]
      split
      · rename_i heq
        cases heq
        exact absurd rfl h.isAnswer
      · rfl
    | succ k =>
      obtain ⟨htimeout, hrest⟩ := h.next
      rw [hfirst] at htimeout hrest
      obtain rfl : given = .timeout := htimeout
      have hbehind : wire.after type name (min (k + 1) (left + 1) + 1) s = wire.after type name (min k left + 1) behind := by
        rw [Nat.succ_min_succ, Wire.after, hfirst]
      rw [hbehind]
      simp only [Nat.succ_le_succ_iff]
      exact ih hrest

theorem exists_recordsOf?_iff : (∃ records, recordsOf? outcome = some records) ↔ outcome.IsList := by
  cases outcome <;> simp [recordsOf?, WireOutcome.IsList]

def cacheBehind (r : Resolver) (now : Int) (type : RecordType) (name : Text) (outcome : WireOutcome) :
    Cache Text (List Datum) :=
  match recordsOf? outcome with
  | some records => (r.cache.read now (cacheKey type name)).2.store now (cacheKey type name) records
  | none => (r.cache.read now (cacheKey type name)).2

theorem lookUp_of_ask {behind : σ} (hmissed : ¬ IsKept now type name r)
    (hask : ask wire type name r.timeoutRetries.toNat s = (outcome, behind)) :
    lookUp wire now type name r s =
      (outcomeReply name outcome, { r with cache := r.cacheBehind now type name outcome }, behind) := by
  have hread : (r.cache.read now (cacheKey type name)).1 = none := Decidable.not_not.mp hmissed
  simp only [lookUp, hread, hask, outcomeReply, cacheBehind]
  cases recordsOf? outcome <;> rfl

theorem reply_of_young {records : List Datum} {later : Int} (hsubject : subject? q = some (type, name))
    (hrecords : recordsOf? outcome = some records) (hyoung : later - now < r.cache.age) (wire : Wire σ) (s : σ) :
    let kept := { r with cache := r.cacheBehind now type name outcome }
    reply wire later q kept s = (concluded q.topic (outcomeReply name outcome), kept, s) := by
  intro kept
  have hcache : kept.cache = (r.cache.read now (cacheKey type name)).2.store now (cacheKey type name) records := by
    simp only [kept, cacheBehind, hrecords]
  have hread : kept.cache.read later (cacheKey type name) = (some records, kept.cache) := by
    rw [hcache]
    exact Cache.read_store (by rwa [Cache.age_read])
  rw [reply_eq, hsubject]
  simp only [lookUp, hread, outcomeReply, hrecords]

theorem cacheBehind_of_failure (hmissed : ¬ IsKept now type name r) (hnone : recordsOf? outcome = none) :
    (r.cacheBehind now type name outcome).entries.Sublist r.cache.entries ∧
      ∀ later, ¬ IsKept later type name { r with cache := r.cacheBehind now type name outcome } := by
  have hread : (r.cache.read now (cacheKey type name)).1 = none := Decidable.not_not.mp hmissed
  have hcache : r.cacheBehind now type name outcome = (r.cache.read now (cacheKey type name)).2 := by
    simp only [cacheBehind, hnone]
  refine ⟨hcache ▸ Cache.sublist_read _ _ _, fun later hkept => hkept ?_⟩
  dsimp only
  rw [hcache, Cache.read_of_none (Cache.entry?_of_missed hread)]

/-- What a call comes to: the outcome if there are retries enough, and else a timeout. -/
def settled (r : Resolver) (k : Nat) (outcome : WireOutcome) : WireOutcome :=
  if (k : Int) ≤ max r.timeoutRetries 0 then outcome else .timeout

theorem ask_settled (h : Delays wire type name k outcome s) (r : Resolver) :
    ask wire type name r.timeoutRetries.toNat s =
      (r.settled k outcome, wire.after type name (min k r.timeoutRetries.toNat + 1) s) := by
  have henough : k ≤ r.timeoutRetries.toNat ↔ (k : Int) ≤ max r.timeoutRetries 0 := by omega
  rw [ask_of_delays h, settled]
  simp only [henough]

theorem reply_of_delays (hsubject : subject? q = some (type, name)) (hmissed : ¬ IsKept now type name r)
    (h : Delays wire type name k outcome s) :
    reply wire now q r s =
      (concluded q.topic (outcomeReply name (r.settled k outcome)),
        { r with cache := r.cacheBehind now type name (r.settled k outcome) },
        wire.after type name (min k r.timeoutRetries.toNat + 1) s) := by
  rw [reply_eq, hsubject]
  simp only [lookUp_of_ask hmissed (ask_settled h r)]

theorem questions_of_delays (hsubject : subject? q = some (type, name)) (hmissed : ¬ IsKept now type name r)
    (h : Delays wire type name k outcome s) :
    questions wire now q r s = List.replicate (min k r.timeoutRetries.toNat + 1) (type, name) := by
  rw [questions, reply_of_delays hsubject hmissed (h.recorded []), Wire.after_recorded, List.nil_append]

/-- Where the records of a name are not kept, and the next `k` questions for them time out, a call asks once and once
more for each timeout, but no more often than there are retries; a negative number of them is none. The call ends with
what the wire tells at last, or with a failure if the retries do not last so long. A list of records, be it an empty
one, is kept: as long as it is young the call gives it again and asks nothing. After any other end nothing is kept. -/
theorem timeouts_are_retried (hsubject : subject? q = some (type, name)) (hmissed : ¬ IsKept now type name r)
    (h : Delays wire type name k outcome s) :
    let given := (reply wire now q r s).1
    let behind := (reply wire now q r s).2.1
    let isAnswered := (k : Int) ≤ max r.timeoutRetries 0
    (∃ n : Nat, (n : Int) = min (k : Int) (max r.timeoutRetries 0) + 1 ∧
        questions wire now q r s = List.replicate n (type, name)) ∧
      (isAnswered → given = concluded q.topic (outcomeReply name outcome)) ∧
      (¬ isAnswered → given = .failed .dns "The resolution lifetime expired.") ∧
      (isAnswered ∧ outcome.IsList → ∀ later, later - now < r.cache.age → ∀ (wire' : Wire σ) (s' : σ),
        questions wire' later q behind s' = [] ∧ (reply wire' later q behind s').1 = given) ∧
      (¬ (isAnswered ∧ outcome.IsList) →
        behind.cache.entries.Sublist r.cache.entries ∧ ∀ later, ¬ IsKept later type name behind) := by
  intro given behind isAnswered
  have hreply := reply_of_delays hsubject hmissed h
  have hgiven : given = concluded q.topic (outcomeReply name (r.settled k outcome)) := congrArg (·.1) hreply
  have hbehind : behind = { r with cache := r.cacheBehind now type name (r.settled k outcome) } :=
    congrArg (·.2.1) hreply
  refine ⟨⟨min k r.timeoutRetries.toNat + 1, by omega, questions_of_delays hsubject hmissed h⟩, fun hanswered => ?_,
    fun hunanswered => ?_, ?_, fun hfailed => ?_⟩
  · rw [hgiven, settled, if_pos hanswered]
  · rw [hgiven, settled, if_neg hunanswered]
    cases q.topic <;> rfl
  · rintro ⟨hanswered, hlist⟩ later hyoung wire' s'
    obtain ⟨records, hrecords⟩ := exists_recordsOf?_iff.mpr hlist
    have hsettled : r.settled k outcome = outcome := if_pos hanswered
    rw [hsettled] at hgiven hbehind
    rw [hbehind, hgiven, questions, reply_of_young hsubject hrecords hyoung wire'.recorded (s', []),
      reply_of_young hsubject hrecords hyoung wire' s']
    exact ⟨rfl, rfl⟩
  · -- what comes too late is no list of records, and neither is a failure
    have hnone : recordsOf? (r.settled k outcome) = none := by
      refine Option.eq_none_iff_forall_ne_some.mpr fun records hrecords => hfailed ?_
      rw [settled] at hrecords
      split at hrecords
      · rename_i hanswered
        exact ⟨hanswered, exists_recordsOf?_iff.mp ⟨records, hrecords⟩⟩
      · cases hrecords
    rw [hbehind]
    exact cacheBehind_of_failure hmissed hnone

def slowWire (outcome : WireOutcome) : Wire Nat := fun _ _ left =>
  match left with
  | 0 => (outcome, 0)
  | left + 1 => (.timeout, left)

theorem after_slowWire (outcome : WireOutcome) (type : RecordType) (name : Text) (n k : Nat) :
    (slowWire outcome).after type name n k = k - n := by
  induction n generalizing k with
  | zero => rfl
  | succ n ih =>
    rw [Wire.after, ih]
    cases k with
    | zero => exact (Nat.zero_sub n).trans (Nat.zero_sub (n + 1)).symm
    | succ k => exact (Nat.add_sub_add_right k 1 n).symm

theorem delays_slowWire (h : outcome ≠ .timeout) (type : RecordType) (name : Text) (k : Nat) :
    Delays (slowWire outcome) type name k outcome k where
  timesOut n hn := by
    obtain ⟨left, hleft⟩ : ∃ left, k - n = left + 1 := ⟨k - n - 1, by omega⟩
    rw [after_slowWire, hleft]
    rfl
  answers n hn := by
    rw [after_slowWire, Nat.sub_eq_zero_of_le hn]
    rfl
  isAnswer := h

/-- An address that comes with the last retry, while one that is kept is too old. It is kept in its place. -/
theorem slow_address_is_kept :
    let r : Resolver := { timeoutRetries := 2, cache := ⟨1, 30, [⟨"h.example_A", [.text "192.0.2.9"], 60⟩]⟩ }
    let q : Query := ⟨.shortAddresses, "H.example."⟩
    let host : Question := (.a, "h.example")
    let outcome : WireOutcome := .data [.text "192.0.2.1"]
    let behind := (reply (slowWire outcome) 100 q r 2).2.1
    subject? q = some host ∧ ¬ IsKept 100 host.1 host.2 r ∧ Delays (slowWire outcome) host.1 host.2 2 outcome 2 ∧
      (∃ n : Nat, (n : Int) = 3 ∧ questions (slowWire outcome) 100 q r 2 = List.replicate n host) ∧
      (reply (slowWire outcome) 100 q r 2).1 = .records [.text "192.0.2.1"] ∧
      ∀ (wire' : Wire Nat) (s' : Nat), questions wire' 129 q behind s' = [] ∧
        (reply wire' 129 q behind s').1 = .records [.text "192.0.2.1"] := by
  intro r q host outcome behind
  have hsubject : subject? q = some host := by decide +kernel
  have hmissed : ¬ IsKept 100 host.1 host.2 r := by decide +kernel
  have hanswer : outcome ≠ .timeout := by simp [outcome]
  have hdelays : Delays (slowWire outcome) host.1 host.2 2 outcome 2 := delays_slowWire hanswer _ _ 2
  obtain ⟨hquestions, hgiven, -, hagain, -⟩ := timeouts_are_retried hsubject hmissed hdelays
  have hrecords : (reply (slowWire outcome) 100 q r 2).1 = .records [.text "192.0.2.1"] := hgiven (by decide)
  refine ⟨hsubject, hmissed, hdelays, hquestions, hrecords, fun wire' s' => ?_⟩
  obtain ⟨hnone, hsame⟩ := hagain ⟨by decide, trivial⟩ 129 (by decide) wire' s'
  exact ⟨hnone, hsame.trans hrecords⟩

end Resolver
end SenderPolicy.Dns
