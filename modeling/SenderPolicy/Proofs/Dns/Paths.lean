import SenderPolicy.Dns.Plan

/-!
The paths of a plan. A condition on the number of questions and the value holds on every path if it holds
whatever the replies are, so that it holds of each run against a resolver that changes with each question.
-/
namespace SenderPolicy.Dns.Plan
variable {α β σ : Type}

/-- On every path the condition holds of the number of questions and the value. -/
def Ensures : Plan α → (Nat → α → Prop) → Prop
  | .done a, post => post 0 a
  | .ask _ next, post => ∀ r, Ensures (next r) (fun n => post (n + 1))

def asked (reply : Query → σ → Reply × σ) : Plan α → σ → List Query
  | .done _, _ => []
  | .ask q next, s => q :: asked reply (next (reply q s).1) (reply q s).2

theorem Ensures.mono {p : Plan α} {post post' : Nat → α → Prop} (h : p.Ensures post)
    (hp : ∀ n a, post n a → post' n a) : p.Ensures post' := by
  induction p generalizing post post' with
  | done a => exact hp 0 a h
  | ask q next ih => exact fun r => ih r (h r) (fun n a => hp (n + 1) a)

theorem ensures_of_forall {p : Plan α} {post : Nat → α → Prop} (h : ∀ n a, post n a) : p.Ensures post := by
  induction p generalizing post with
  | done a => exact h 0 a
  | ask q next ih => exact fun r => ih r fun n => h (n + 1)

theorem ensures_bind {p : Plan α} {k : α → Plan β} {post : Nat → β → Prop}
    (h : p.Ensures fun n a => (k a).Ensures fun m b => post (n + m) b) : (p >>= k).Ensures post := by
  induction p generalizing post with
  | done a =>
    change (k a).Ensures post
    simpa only [Ensures, Nat.zero_add] using h
  | ask q next ih =>
    intro r
    refine ih r ((h r).mono fun n a hn => hn.mono fun m b hm => ?_)
    rwa [Nat.add_right_comm] at hm

theorem Ensures.of_run {p : Plan α} {post : Nat → α → Prop} (h : p.Ensures post)
    (reply : Query → σ → Reply × σ) (s : σ) : post (asked reply p s).length (run reply p s).1 := by
  induction p generalizing post s with
  | done a => exact h
  | ask q next ih => exact ih (reply q s).1 (h (reply q s).1) (reply q s).2

theorem Ensures.of_value {p : Plan α} {post : Nat → α → Prop} (h : p.Ensures post) (replies : Query → Reply) :
    post (p.queries replies).length (p.value replies) := by
  induction p generalizing post with
  | done a => exact h
  | ask q next ih => exact ih (replies q) (h (replies q))

theorem ensures_query (topic : Topic) (name : Text) {post : Nat → Answer → Prop}
    (h : ∀ a, post 1 a) : (query topic name).Ensures post :=
  fun r => h (Answer.ofReply r)

theorem ensures_queryAll (topic : Topic) (names : List Text) :
    (queryAll topic names).Ensures fun n answers => n = names.length ∧ answers.length = names.length := by
  induction names with
  | nil => exact ⟨rfl, rfl⟩
  | cons name rest ih =>
    refine ensures_bind (ensures_query topic name fun a => ensures_bind (ih.mono ?_))
    rintro n answers ⟨hn, ha⟩
    exact ⟨by simp [hn, Nat.add_comm], by simp [ha]⟩

/-- On every path the condition holds of the questions, in order, and the value. -/
def Tells : Plan α → (List Query → α → Prop) → Prop
  | .done a, post => post [] a
  | .ask q next, post => ∀ r, Tells (next r) (fun qs => post (q :: qs))

theorem Tells.mono {p : Plan α} {post post' : List Query → α → Prop} (h : p.Tells post)
    (hp : ∀ qs a, post qs a → post' qs a) : p.Tells post' := by
  induction p generalizing post post' with
  | done a => exact hp [] a h
  | ask q next ih => exact fun r => ih r (h r) (fun qs a => hp (q :: qs) a)

theorem tells_bind {p : Plan α} {k : α → Plan β} {post : List Query → β → Prop}
    (h : p.Tells fun qs a => (k a).Tells fun qs' b => post (qs ++ qs') b) : (p >>= k).Tells post := by
  induction p generalizing post with
  | done a => exact h
  | ask q next ih => exact fun r => ih r (h r)

theorem Tells.of_run {p : Plan α} {post : List Query → α → Prop} (h : p.Tells post)
    (reply : Query → σ → Reply × σ) (s : σ) : post (asked reply p s) (run reply p s).1 := by
  induction p generalizing post s with
  | done a => exact h
  | ask q next ih => exact ih (reply q s).1 (h (reply q s).1) (reply q s).2

theorem asked_map (f : α → β) (p : Plan α) (reply : Query → σ → Reply × σ) (s : σ) :
    asked reply (f <$> p) s = asked reply p s := by
  induction p generalizing s with
  | done a => rfl
  | ask q next ih => exact congrArg (q :: ·) (ih (reply q s).1 (reply q s).2)

theorem run_map (f : α → β) (p : Plan α) (reply : Query → σ → Reply × σ) (s : σ) :
    (run reply (f <$> p) s).1 = f (run reply p s).1 := by
  induction p generalizing s with
  | done a => rfl
  | ask q next ih => exact ih (reply q s).1 (reply q s).2

theorem value_map (f : α → β) (p : Plan α) (replies : Query → Reply) :
    (f <$> p).value replies = f (p.value replies) := by
  induction p with
  | done a => rfl
  | ask q next ih => exact ih (replies q)

theorem queries_map (f : α → β) (p : Plan α) (replies : Query → Reply) :
    (f <$> p).queries replies = p.queries replies := by
  induction p with
  | done a => rfl
  | ask q next ih => exact congrArg (q :: ·) (ih (replies q))

theorem bind_congr_of_ensures {p : Plan α} {k l : α → Plan β} (h : p.Ensures fun _ a => k a = l a) :
    p >>= k = p >>= l := by
  induction p with
  | done a => exact h
  | ask q next ih => exact congrArg (Plan.ask q) (funext fun r => ih r (h r))

/-- The plan can come to the value, where each question has one of its allowed replies. -/
inductive ComesTo (allowed : Query → Reply → Prop) : Plan α → α → Prop
  | done (a : α) : ComesTo allowed (.done a) a
  | ask {q : Query} {next : Reply → Plan α} {r : Reply} {a : α} : allowed q r →
      ComesTo allowed (next r) a → ComesTo allowed (.ask q next) a

theorem comesTo_run (reply : Query → σ → Reply × σ) (p : Plan α) (s : σ) :
    ComesTo (fun _ _ => True) p (run reply p s).1 := by
  induction p generalizing s with
  | done a => exact .done a
  | ask q next ih => exact .ask trivial (ih (reply q s).1 (reply q s).2)

def Gives (reply : Query → σ → Reply × σ) (q : Query) (r : Reply) : Prop := ∃ s, (reply q s).1 = r

theorem comesTo_run_gives (reply : Query → σ → Reply × σ) (p : Plan α) (s : σ) :
    ComesTo (Gives reply) p (run reply p s).1 := by
  induction p generalizing s with
  | done a => exact .done a
  | ask q next ih => exact .ask ⟨s, rfl⟩ (ih (reply q s).1 (reply q s).2)

theorem comesTo_value (replies : Query → Reply) (p : Plan α) :
    ComesTo (fun q r => r = replies q) p (value replies p) := by
  induction p with
  | done a => exact .done a
  | ask q next ih => exact .ask rfl (ih (replies q))

namespace ComesTo
variable {allowed : Query → Reply → Prop} {p : Plan α} {k : α → Plan β} {a a' : α} {b : β}

theorem eq_of_pure (h : ComesTo allowed (pure a) a') : a' = a := by
  cases h
  rfl

theorem eq_value {replies : Query → Reply} (h : ComesTo (fun q r => r = replies q) p a) :
    a = value replies p := by
  induction h with
  | done a => rfl
  | ask hr _ ih =>
    subst hr
    exact ih

theorem of_bind (h : ComesTo allowed (p >>= k) b) :
    ∃ a, ComesTo allowed p a ∧ ComesTo allowed (k a) b := by
  induction p with
  | done a => exact ⟨a, .done a, h⟩
  | ask q next ih =>
    cases h with
    | ask hr hnext =>
      obtain ⟨a, ha, hb⟩ := ih _ hnext
      exact ⟨a, .ask hr ha, hb⟩

end ComesTo

def heard (reply : Query → σ → Reply × σ) : Plan α → σ → List (Query × Reply)
  | .done _, _ => []
  | .ask q next, s => (q, (reply q s).1) :: heard reply (next (reply q s).1) (reply q s).2

theorem heard_bind (reply : Query → σ → Reply × σ) (p : Plan α) (k : α → Plan β) (s : σ) :
    heard reply (p >>= k) s = heard reply p s ++ heard reply (k (run reply p s).1) (run reply p s).2 := by
  induction p generalizing s with
  | done a => rfl
  | ask q next ih => exact congrArg ((q, (reply q s).1) :: ·) (ih (reply q s).1 (reply q s).2)

theorem heard_queryAll (reply : Query → σ → Reply × σ) (topic : Topic) (names : List Text) (s : σ) :
    (heard reply (queryAll topic names) s).map Prod.fst = names.map (⟨topic, ·⟩) := by
  induction names generalizing s with
  | nil => rfl
  | cons name rest ih =>
    rw [queryAll, heard_bind, heard_bind]
    simp only [query, heard, run, pure, List.append_nil, List.map_cons, ih, List.singleton_append]

theorem run_queryAll (reply : Query → σ → Reply × σ) (topic : Topic) (names : List Text) (s : σ) :
    (run reply (queryAll topic names) s).1 =
      (heard reply (queryAll topic names) s).map fun x => Answer.ofReply x.2 := by
  induction names generalizing s with
  | nil => rfl
  | cons name rest ih =>
    rw [queryAll, heard_bind, heard_bind, run_bind, run_bind]
    simp only [query, heard, run, pure, List.append_nil, List.map_cons, ih, List.singleton_append]

/-- The plan comes to the value where it asks these questions, in order, and hears these replies to them. -/
inductive Hears : Plan α → List (Query × Reply) → α → Prop
  | done (a : α) : Hears (.done a) [] a
  | ask {q : Query} {next : Reply → Plan α} {r : Reply} {xs : List (Query × Reply)} {a : α} :
      Hears (next r) xs a → Hears (.ask q next) ((q, r) :: xs) a

theorem hears_run (reply : Query → σ → Reply × σ) (p : Plan α) (s : σ) :
    Hears p (heard reply p s) (run reply p s).1 := by
  induction p generalizing s with
  | done a => exact .done a
  | ask q next ih => exact .ask (ih (reply q s).1 (reply q s).2)

theorem Hears.of_bind {p : Plan α} {k : α → Plan β} {xs : List (Query × Reply)} {b : β}
    (h : Hears (p >>= k) xs b) : ∃ ys zs a, xs = ys ++ zs ∧ Hears p ys a ∧ Hears (k a) zs b := by
  induction p generalizing xs with
  | done a => exact ⟨[], xs, a, rfl, .done a, h⟩
  | ask q next ih =>
    cases h with
    | ask hnext =>
      obtain ⟨ys, zs, a, rfl, ha, hb⟩ := ih _ hnext
      exact ⟨(q, _) :: ys, zs, a, rfl, .ask ha, hb⟩

/-- Two plans ask the same questions, whatever the replies are, and come to values that are related. -/
inductive Alike (R : α → β → Prop) : Plan α → Plan β → Prop
  | done {a : α} {b : β} : R a b → Alike R (.done a) (.done b)
  | ask {q : Query} {next : Reply → Plan α} {next' : Reply → Plan β} :
      (∀ r, Alike R (next r) (next' r)) → Alike R (.ask q next) (.ask q next')

namespace Alike
variable {γ δ : Type} {R : α → β → Prop} {S : γ → δ → Prop} {p : Plan α} {p' : Plan β}

theorem refl {R : α → α → Prop} (h : ∀ a, R a a) (p : Plan α) : Alike R p p := by
  induction p with
  | done a => exact .done (h a)
  | ask q next ih => exact .ask ih

theorem bind {k : α → Plan γ} {k' : β → Plan δ} (h : Alike R p p')
    (hk : ∀ a b, R a b → Alike S (k a) (k' b)) : Alike S (p >>= k) (p' >>= k') := by
  induction h with
  | done hab => exact hk _ _ hab
  | ask _ ih => exact .ask ih

theorem value (h : Alike R p p') (replies : Query → Reply) : R (p.value replies) (p'.value replies) := by
  induction h with
  | done hab => exact hab
  | ask _ ih => exact ih _

theorem queries_eq (h : Alike R p p') (replies : Query → Reply) : p'.queries replies = p.queries replies := by
  induction h with
  | done _ => rfl
  | @ask q _ _ _ ih => exact congrArg (q :: ·) (ih _)

end Alike

end SenderPolicy.Dns.Plan
