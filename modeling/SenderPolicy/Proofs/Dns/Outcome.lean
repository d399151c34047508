import SenderPolicy.Dns.Plan
import SenderPolicy.Proofs.Failure

/-!
Computations that ask a resolver, keep a state and may stop. Run from a state, each comes to a plan; where
every question has a fixed reply, the plan has one outcome, and the state that it reaches.
-/
namespace SenderPolicy.Dns

theorem Plan.value_congr {α : Type} {replies replies' : Query → Reply} {p : Plan α}
    (h : ∀ q ∈ p.queries replies', replies q = replies' q) : p.value replies = p.value replies' := by
  induction p with
  | done a => rfl
  | ask q next ih =>
    have hq : replies q = replies' q := h q List.mem_cons_self
    simp only [Plan.value, hq]
    exact ih (replies' q) fun q' hq' => h q' (List.mem_cons_of_mem q hq')

theorem Plan.queries_congr {α : Type} {replies replies' : Query → Reply} {p : Plan α}
    (h : ∀ q ∈ p.queries replies', replies q = replies' q) : p.queries replies = p.queries replies' := by
  induction p with
  | done a => rfl
  | ask q next ih =>
    have hq : replies q = replies' q := h q List.mem_cons_self
    simp only [Plan.queries, hq]
    exact congrArg (q :: ·) (ih (replies' q) fun q' hq' => h q' (List.mem_cons_of_mem q hq'))

/-- A computation with a state of type `σ` that may stop with an `ε`. -/
abbrev Work (ε σ : Type) := ExceptT ε (StateT σ Plan)

namespace Work
variable {ε σ α β : Type}

def ofPlan (x : Plan α) : Work ε σ α := liftM (m := StateT σ Plan) (liftM x)

@[simp] theorem run_pure (a : α) (s : σ) : (pure a : Work ε σ α).run.run s = pure (.ok a, s) := rfl

@[simp] theorem run_throw (e : ε) (s : σ) : (throw e : Work ε σ α).run.run s = pure (.error e, s) := rfl

@[simp] theorem run_get (s : σ) : (get : Work ε σ σ).run.run s = pure (.ok s, s) := rfl

@[simp] theorem run_modify (f : σ → σ) (s : σ) :
    (modify f : Work ε σ Unit).run.run s = pure (.ok (), f s) := rfl

theorem run_bind (x : Work ε σ α) (f : α → Work ε σ β) (s : σ) :
    (x >>= f).run.run s = x.run.run s >>= fun r =>
      match r with
      | (.ok a, s') => (f a).run.run s'
      | (.error e, s') => pure (.error e, s') := by
  simp only [ExceptT.run_bind, StateT.run_bind]
  congr 1
  funext r
  obtain ⟨o, s'⟩ := r
  cases o <;> rfl

@[simp] theorem run_ofPlan (x : Plan α) (s : σ) :
    (ofPlan x : Work ε σ α).run.run s = x >>= fun a => pure (.ok a, s) := by
  exact Plan.bind_assoc x (fun a => .done (a, s)) (fun r => .done (Except.ok r.1, r.2))

variable (replies : Query → Reply)

/-- The outcome and the state that is reached, where every question has a fixed reply. -/
def outcome (x : Work ε σ α) (s : σ) : Except ε α × σ := (x.run.run s).value replies

@[simp] theorem outcome_pure (a : α) (s : σ) :
    outcome replies (pure a : Work ε σ α) s = (.ok a, s) := rfl

@[simp] theorem outcome_throw (e : ε) (s : σ) :
    outcome replies (throw e : Work ε σ α) s = (.error e, s) := rfl

@[simp] theorem outcome_get (s : σ) : outcome replies (get : Work ε σ σ) s = (.ok s, s) := rfl

@[simp] theorem outcome_ofPlan (x : Plan α) (s : σ) :
    outcome replies (ofPlan x : Work ε σ α) s = (.ok (x.value replies), s) := by
  simp only [outcome, run_ofPlan, Plan.value_bind]
  rfl

theorem outcome_bind (x : Work ε σ α) (f : α → Work ε σ β) (s : σ) :
    outcome replies (x >>= f) s =
      match outcome replies x s with
      | (.ok a, s') => outcome replies (f a) s'
      | (.error e, s') => (.error e, s') := by
  simp only [outcome, run_bind, Plan.value_bind]
  split <;> rfl

variable {replies}

theorem outcome_bind_of_ok {x : Work ε σ α} {f : α → Work ε σ β} {s s' : σ} {a : α}
    (h : outcome replies x s = (.ok a, s')) :
    outcome replies (x >>= f) s = outcome replies (f a) s' := by
  rw [outcome_bind, h]

theorem outcome_bind_of_error {x : Work ε σ α} {f : α → Work ε σ β} {s s' : σ} {e : ε}
    (h : outcome replies x s = (.error e, s')) : outcome replies (x >>= f) s = (.error e, s') := by
  rw [outcome_bind, h]

theorem bind_eq_ok {x : Work ε σ α} {f : α → Work ε σ β} {s s' : σ} {b : β}
    (h : outcome replies (x >>= f) s = (.ok b, s')) :
    ∃ a s₁, outcome replies x s = (.ok a, s₁) ∧ outcome replies (f a) s₁ = (.ok b, s') := by
  rw [outcome_bind] at h
  split at h
  · rename_i a s₁ hx
    exact ⟨a, s₁, hx, h⟩
  · cases h

def asks (replies : Query → Reply) (x : Work ε σ α) (s : σ) : List Query := (x.run.run s).queries replies

theorem asks_bind_of_ok {x : Work ε σ α} {f : α → Work ε σ β} {s s' : σ} {a : α}
    (h : outcome replies x s = (.ok a, s')) :
    asks replies (x >>= f) s = asks replies x s ++ asks replies (f a) s' := by
  have hx : (x.run.run s).value replies = (.ok a, s') := h
  simp only [asks, run_bind, Plan.queries_bind, hx]

theorem outcome_congr {replies' : Query → Reply} {x : Work ε σ α} {s : σ}
    (h : ∀ q ∈ asks replies' x s, replies q = replies' q) : outcome replies x s = outcome replies' x s :=
  Plan.value_congr h

theorem asks_congr {replies' : Query → Reply} {x : Work ε σ α} {s : σ}
    (h : ∀ q ∈ asks replies' x s, replies q = replies' q) : asks replies x s = asks replies' x s :=
  Plan.queries_congr h

theorem asks_bind_of_error {x : Work ε σ α} {f : α → Work ε σ β} {s s' : σ} {e : ε}
    (h : outcome replies x s = (.error e, s')) : asks replies (x >>= f) s = asks replies x s := by
  have hx : (x.run.run s).value replies = (.error e, s') := h
  simp only [asks, run_bind, Plan.queries_bind, hx]
  exact List.append_nil _

end Work
end SenderPolicy.Dns
