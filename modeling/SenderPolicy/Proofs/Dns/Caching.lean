import Mathlib.Data.List.Forall2
import SenderPolicy.Dns.Resolver
import SenderPolicy.Proofs.Text.Words

/-!
What a cache leaves to be seen of a wire. Under its key an entry keeps what the wire gave when it was stored, and it is
read while it is young. So each reply of a resolver with a cache is one that it would give without: by the wire as it
stands, or as it stood at a moment that is not as long ago as the age limit.
-/
namespace SenderPolicy.Dns
open Text

/-! Keys -/

theorem RecordType.lowLine_notin_name (type : RecordType) : '_' ∉ type.name := by
  cases type <;> decide

theorem RecordType.name_inj {type type' : RecordType} (h : type.name = type'.name) : type = type' := by
  cases type <;> cases type' <;> first | rfl | exact absurd h (by decide)

/-- A key tells the type and the name: the type stands behind the last low line, for it has none itself. -/
theorem cacheKey_inj {type type' : RecordType} {name name' : Text}
    (h : cacheKey type name = cacheKey type' name') : type = type' ∧ name = name' := by
  have hcut (type : RecordType) (name : Text) : cutAtLast '_' (cacheKey type name) = (some name, type.name) := by
    have hkey : cacheKey type name = name ++ '_' :: type.name := by simp [cacheKey, phrase]
    rw [hkey, cutAtLast_of_mark type.lowLine_notin_name]
  have hparts := (hcut type name).symm.trans ((congrArg (cutAtLast '_') h).trans (hcut type' name'))
  rw [Prod.mk.injEq, Option.some.injEq] at hparts
  exact ⟨RecordType.name_inj hparts.2, hparts.1⟩

namespace Cache
variable {κ ν : Type} [DecidableEq κ] {c : Cache κ ν} {e : CacheEntry κ ν} {now : Int} {key : κ} {value : ν}

theorem exists_of_read (h : (c.read now key).1 = some value) :
    ∃ e ∈ c.entries, e.key = key ∧ e.value = value ∧ now - e.storedAt < c.age := by
  unfold read at h
  cases hentry : c.entry? key with
  | none => rw [hentry] at h; cases h
  | some e =>
    simp only [hentry] at h
    split at h
    · rename_i hyoung
      have hkey := List.find?_some (show c.entries.find? (fun e => e.key = key) = some e from hentry)
      exact ⟨e, List.mem_of_find?_eq_some hentry, of_decide_eq_true hkey, Option.some.inj h, hyoung⟩
    · cases h

theorem mem_of_mem_remove (h : e ∈ (c.remove key).entries) : e ∈ c.entries := (List.mem_filter.mp h).1

theorem mem_of_mem_read (h : e ∈ (c.read now key).2.entries) : e ∈ c.entries := by
  unfold read at h
  split at h
  · exact h
  · split at h
    · exact h
    · exact mem_of_mem_remove h

@[simp] theorem age_read : (c.read now key).2.age = c.age := by
  unfold read
  split
  · rfl
  · split <;> rfl

theorem eq_or_mem_of_mem_store (h : e ∈ (c.store now key value).entries) : e = ⟨key, value, now⟩ ∨ e ∈ c.entries := by
  unfold store at h
  dsimp only at h
  generalize hroom : (if c.entries.length = c.capacity then _ else c) = room at h
  have hkept : ∀ e ∈ room.entries, e ∈ c.entries := by
    subst hroom
    intro e he
    split at he
    · split at he
      · exact mem_of_mem_remove he
      · exact List.mem_of_mem_drop he
    · exact he
  split at h
  · obtain ⟨d, hd, rfl⟩ := List.mem_map.mp h
    split
    · exact .inl rfl
    · exact .inr (hkept d hd)
  · obtain hold | hnew := List.mem_append.mp h
    · exact .inr (hkept e hold)
    · exact .inl (List.mem_singleton.mp hnew)

@[simp] theorem age_store : (c.store now key value).age = c.age := by
  unfold store
  dsimp only
  split
  · split
    · split <;> rfl
    · split <;> rfl
  · split <;> rfl

end Cache

/-! A wire in the course of time -/

/-- What the wire answers to a question at a time. -/
abbrev Course := Int → RecordType → Text → WireOutcome

def Course.wire (w : Course) (time : Int) : Wire Unit := fun type name u => (w time type name, u)

/-- A query, and when it is made. -/
structure Call where
  time : Int
  query : Query

namespace Resolver
variable {w : Course} {now time : Int} {type : RecordType} {name : Text} {r : Resolver}

def replies (w : Course) : List Call → Resolver → List Reply
  | [], _ => []
  | c :: rest, r =>
    let (given, r, _) := reply (w.wire c.time) c.time c.query r ()
    given :: replies w rest r

/-- The reply without a cache, by the wire as it stands at the time. -/
def uncachedReply (w : Course) (time : Int) (q : Query) (r : Resolver) : Reply :=
  (reply (w.wire time) time q { r with cache := { r.cache with entries := [] } } ()).1

def IsRecent (age now moment : Int) : Prop := moment = now ∨ moment ≤ now ∧ now - moment < age

/-- Each entry keeps what the wire gave when it was stored. -/
def IsFaithful (w : Course) (now : Int) (r : Resolver) : Prop :=
  ∀ e ∈ r.cache.entries, e.storedAt ≤ now ∧
    ∃ type name, e.key = cacheKey type name ∧ recordsOf? (w e.storedAt type name) = some e.value

theorem IsFaithful.mono {later : Int} (h : IsFaithful w now r) (hle : now ≤ later) : IsFaithful w later r :=
  fun e he => ⟨Int.le_trans (h e he).1 hle, (h e he).2⟩

/-! One look-up -/

theorem ask_wire (w : Course) (time : Int) (type : RecordType) (name : Text) (retries : Nat) (u : Unit) :
    ask (w.wire time) type name retries u = (w time type name, u) := by
  induction retries with
  | zero => rfl
  | succ n ih =>
    unfold ask
    split
    · exact ih
    · rfl

def outcomeReply (name : Text) (outcome : WireOutcome) : Reply :=
  match recordsOf? outcome with
  | some records => .records records
  | none => failureOf name outcome

theorem lookUp_of_kept {records : List Datum} (h : (r.cache.read now (cacheKey type name)).1 = some records) :
    lookUp (w.wire now) now type name r () =
      (.records records, { r with cache := (r.cache.read now (cacheKey type name)).2 }, ()) := by
  simp only [lookUp, h]

theorem lookUp_of_missed (h : (r.cache.read now (cacheKey type name)).1 = none) :
    (lookUp (w.wire now) now type name r ()).1 = outcomeReply name (w now type name) ∧
      (lookUp (w.wire now) now type name r ()).2.1.cache =
        match recordsOf? (w now type name) with
        | some records => (r.cache.read now (cacheKey type name)).2.store now (cacheKey type name) records
        | none => (r.cache.read now (cacheKey type name)).2 := by
  simp only [lookUp, h, ask_wire, outcomeReply]
  cases recordsOf? (w now type name) <;> exact ⟨rfl, rfl⟩

/-- A look-up leaves the cache faithful, and gives what the wire gives now or gave a moment ago. -/
theorem lookUp_recent (h : IsFaithful w now r) (type : RecordType) (name : Text) :
    IsFaithful w now (lookUp (w.wire now) now type name r ()).2.1 ∧
      (lookUp (w.wire now) now type name r ()).2.1.cache.age = r.cache.age ∧
      ∃ moment, IsRecent r.cache.age now moment ∧
        (lookUp (w.wire now) now type name r ()).1 = outcomeReply name (w moment type name) := by
  have hread : ∀ e ∈ (r.cache.read now (cacheKey type name)).2.entries, e ∈ r.cache.entries :=
    fun e he => Cache.mem_of_mem_read he
  cases hkept : (r.cache.read now (cacheKey type name)).1 with
  | some records =>
    rw [lookUp_of_kept hkept]
    refine ⟨fun e he => h e (hread e he), Cache.age_read, ?_⟩
    obtain ⟨e, he, hkey, rfl, hyoung⟩ := Cache.exists_of_read hkept
    obtain ⟨hpast, type', name', hkey', hrecords⟩ := h e he
    -- The entry was stored for this very question, since keys tell questions apart.
    obtain ⟨rfl, rfl⟩ := cacheKey_inj (hkey.symm.trans hkey')
    refine ⟨e.storedAt, .inr ⟨hpast, hyoung⟩, ?_⟩
    rw [outcomeReply, hrecords]
  | none =>
    obtain ⟨hreply, hcache⟩ := lookUp_of_missed (w := w) hkept
    refine ⟨?_, ?_, now, .inl rfl, hreply⟩
    · intro e he
      rw [hcache] at he
      cases hrecords : recordsOf? (w now type name) with
      | none =>
        simp only [hrecords] at he
        exact h e (hread e he)
      | some records =>
        simp only [hrecords] at he
        obtain rfl | he := Cache.eq_or_mem_of_mem_store he
        · exact ⟨Int.le_refl now, type, name, rfl, hrecords⟩
        · exact h e (hread e he)
    · rw [hcache]
      split
      · exact Cache.age_store.trans Cache.age_read
      · exact Cache.age_read

/-! One reply -/

/-- What is looked up for a query; nothing, if it is for the names of a text that is no address. -/
def subject? (q : Query) : Option (RecordType × Text) :=
  match q.topic with
  | .texts => some (.txt, Domain.normalized q.name)
  | .shortAddresses => some (.a, Domain.normalized q.name)
  | .longAddresses => some (.aaaa, Domain.normalized q.name)
  | .exchanges => some (.mx, Domain.normalized q.name)
  | .names => (ReverseName.ofAddress? q.name).map (.ptr, ·)

def concluded : Topic → Reply → Reply
  | .exchanges, .records records => .records (orderedExchanges records)
  | .names, .noSuchDomain _ => .records []
  | _, found => found

theorem reply_eq {σ : Type} (wire : Wire σ) (now : Int) (q : Query) (r : Resolver) (s : σ) :
    reply wire now q r s =
      match subject? q with
      | none => (.failed .dns "Text input is malformed.", r, s)
      | some (type, name) =>
        (concluded q.topic (lookUp wire now type name r s).1, (lookUp wire now type name r s).2) := by
  unfold reply subject?
  cases q.topic with
  | texts | shortAddresses | longAddresses => rfl
  | exchanges =>
    dsimp only
    split
    · rename_i heq
      rw [heq]
      rfl
    · rename_i hother
      generalize lookUp wire now .mx (Domain.normalized q.name) r s = found at hother ⊢
      obtain ⟨given, rest⟩ := found
      cases given with
      | records records => exact absurd rfl (hother records rest)
      | nothing | noSuchDomain | failed => rfl
  | names =>
    cases ReverseName.ofAddress? q.name with
    | none => rfl
    | some name =>
      dsimp only [Option.map_some]
      split
      · rename_i heq
        rw [heq]
        rfl
      · rename_i hother
        generalize lookUp wire now .ptr name r s = found at hother ⊢
        obtain ⟨given, rest⟩ := found
        cases given with
        | noSuchDomain name => exact absurd rfl (hother name rest)
        | records | nothing | failed => rfl

theorem uncachedReply_eq (w : Course) (time : Int) (q : Query) (r : Resolver) :
    r.uncachedReply w time q =
      match subject? q with
      | none => .failed .dns "Text input is malformed."
      | some (type, name) => concluded q.topic (outcomeReply name (w time type name)) := by
  unfold uncachedReply
  rw [reply_eq]
  cases subject? q with
  | none => rfl
  | some subject =>
    obtain ⟨type, name⟩ := subject
    exact congrArg (concluded q.topic) (lookUp_of_missed rfl).1

theorem reply_recent (h : IsFaithful w now r) (q : Query) :
    IsFaithful w now (reply (w.wire now) now q r ()).2.1 ∧
      (reply (w.wire now) now q r ()).2.1.cache.age = r.cache.age ∧
      ∃ moment, IsRecent r.cache.age now moment ∧
        (reply (w.wire now) now q r ()).1 = r.uncachedReply w moment q := by
  simp only [uncachedReply_eq, reply_eq]
  cases subject? q with
  | none => exact ⟨h, rfl, now, .inl rfl, rfl⟩
  | some subject =>
    obtain ⟨type, name⟩ := subject
    obtain ⟨hfaithful, hage, moment, hrecent, hreply⟩ := lookUp_recent h type name
    exact ⟨hfaithful, hage, moment, hrecent, congrArg (concluded q.topic) hreply⟩

/-! Any number of calls -/

theorem uncachedReply_congr (w : Course) (time : Int) (q : Query) (r r' : Resolver) :
    r.uncachedReply w time q = r'.uncachedReply w time q := by
  rw [uncachedReply_eq, uncachedReply_eq]

/-- From a faithful cache on each reply is one without a cache, of its time or of a moment before it. -/
theorem replies_recent {calls : List Call} (hsorted : calls.Pairwise fun c d => c.time ≤ d.time)
    (h : ∀ c ∈ calls, IsFaithful w c.time r) :
    List.Forall₂ (fun c given => ∃ moment, IsRecent r.cache.age c.time moment ∧
      given = r.uncachedReply w moment c.query) calls (replies w calls r) := by
  induction calls generalizing r with
  | nil => exact .nil
  | cons c rest ih =>
    rw [List.pairwise_cons] at hsorted
    obtain ⟨hfaithful, hage, hreply⟩ := reply_recent (h c List.mem_cons_self) c.query
    refine .cons hreply ((ih hsorted.2 fun d hd => hfaithful.mono (hsorted.1 d hd)).imp ?_)
    rintro d given ⟨moment, hrecent, hgiven⟩
    exact ⟨moment, hage ▸ hrecent, hgiven.trans (uncachedReply_congr w moment d.query _ r)⟩

/-- A resolver starts with an empty cache, of whatever size and age limit. Whatever it is asked one time after another,
each reply is the one that it would give without a cache, by the wire as it stands or as it stood at a moment that is
not as long ago as the age limit. If the wire never changes, each reply is the one without a cache. -/
theorem replies_without_cache (w : Course) (r : Resolver) (calls : List Call) (hempty : r.cache.entries = [])
    (hsorted : calls.Pairwise fun c d => c.time ≤ d.time) :
    List.Forall₂ (fun c given => ∃ moment, IsRecent r.cache.age c.time moment ∧
        given = r.uncachedReply w moment c.query) calls (replies w calls r) ∧
      ((∀ time time', w time = w time') →
        replies w calls r = calls.map fun c => r.uncachedReply w c.time c.query) := by
  have hfaithful (now : Int) : IsFaithful w now r := by
    intro e he
    rw [hempty] at he
    cases he
  have hrecent := replies_recent hsorted fun c _ => hfaithful c.time
  refine ⟨hrecent, fun hsteady => ?_⟩
  have hsame (time time' : Int) (q : Query) : r.uncachedReply w time q = r.uncachedReply w time' q := by
    rw [uncachedReply_eq, uncachedReply_eq, hsteady time time']
  have huncached :
      List.Forall₂ (fun c given => r.uncachedReply w c.time c.query = given) calls (replies w calls r) := by
    refine hrecent.imp ?_
    rintro c given ⟨moment, -, rfl⟩
    exact hsame c.time moment c.query
  rw [← List.forall₂_map_left_iff (f := fun c : Call => r.uncachedReply w c.time c.query),
    List.forall₂_eq_eq_eq] at huncached
  exact huncached.symm

def movingHost : Course := fun time type _ =>
  match type with
  | .a => .data [.text (if time < 100 then "192.0.2.1" else "192.0.2.2")]
  | _ => .noSuchDomain

/-- The second reply is the one of twenty seconds before, and the third the one of its time. -/
theorem movingHost_is_seen_late :
    let r : Resolver := { cache := { capacity := 2, age := 30 } }
    let calls : List Call := [⟨90, .shortAddresses, "h.example"⟩, ⟨110, .shortAddresses, "H.example."⟩,
      ⟨130, .shortAddresses, "h.example"⟩]
    r.cache.entries = [] ∧ (calls.Pairwise fun c d => c.time ≤ d.time) ∧
      replies movingHost calls r =
        [.records [.text "192.0.2.1"], .records [.text "192.0.2.1"], .records [.text "192.0.2.2"]] ∧
      List.Forall₂ (fun c given => ∃ moment, IsRecent r.cache.age c.time moment ∧
        given = r.uncachedReply movingHost moment c.query) calls (replies movingHost calls r) := by
  intro r calls
  have hsorted : calls.Pairwise fun c d => c.time ≤ d.time := by decide
  exact ⟨rfl, hsorted, by decide +kernel, (replies_without_cache movingHost r calls rfl hsorted).1⟩

end Resolver
end SenderPolicy.Dns
