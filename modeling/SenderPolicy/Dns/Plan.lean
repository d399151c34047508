import SenderPolicy.Dns.Query

/-!
Computations that ask a resolver. A plan is done, or it asks a question and goes on with the reply; it
can be run against replies that never change, or against a resolver that changes with each question.
-/
namespace SenderPolicy.Dns

inductive Plan (α : Type) : Type
  | done (a : α)
  | ask (q : Query) (next : Reply → Plan α)

namespace Plan

variable {α β γ σ : Type}

def bind : Plan α → (α → Plan β) → Plan β
  | .done a, k => k a
  | .ask q next, k => .ask q (fun r => bind (next r) k)

instance : Monad Plan where
  pure := .done
  bind := bind

theorem bind_done (p : Plan α) : bind p .done = p := by
  induction p with
  | done a => rfl
  | ask q next ih => simp [bind, ih]

theorem bind_assoc (p : Plan α) (k : α → Plan β) (l : β → Plan γ) :
    bind (bind p k) l = bind p (fun a => bind (k a) l) := by
  induction p with
  | done a => rfl
  | ask q next ih => simp [bind, ih]

instance : LawfulMonad Plan :=
  LawfulMonad.mk' Plan (fun p => bind_done p) (fun _ _ => rfl) (fun p k l => bind_assoc p k l)

def query (topic : Topic) (name : Text) : Plan Answer :=
  .ask ⟨topic, name⟩ (fun r => .done (Answer.ofReply r))

def queryAll (topic : Topic) : List Text → Plan (List Answer)
  | [] => .done []
  | name :: rest => do
    let a ← query topic name
    let as ← queryAll topic rest
    return a :: as

/-- The result where every question has one fixed reply. -/
def value (replies : Query → Reply) : Plan α → α
  | .done a => a
  | .ask q next => value replies (next (replies q))

def queries (replies : Query → Reply) : Plan α → List Query
  | .done _ => []
  | .ask q next => q :: queries replies (next (replies q))

/-- Runs against a resolver that may change with each question. -/
def run (reply : Query → σ → Reply × σ) : Plan α → σ → α × σ
  | .done a, s => (a, s)
  | .ask q next, s =>
    let (r, s) := reply q s
    run reply (next r) s

theorem value_bind (replies : Query → Reply) (p : Plan α) (k : α → Plan β) :
    value replies (p >>= k) = value replies (k (value replies p)) := by
  induction p with
  | done a => rfl
  | ask q next ih => exact ih (replies q)

theorem queries_bind (replies : Query → Reply) (p : Plan α) (k : α → Plan β) :
    queries replies (p >>= k) = queries replies p ++ queries replies (k (value replies p)) := by
  induction p with
  | done a => rfl
  | ask q next ih => exact congrArg (q :: ·) (ih (replies q))

theorem run_bind (reply : Query → σ → Reply × σ) (p : Plan α) (k : α → Plan β) (s : σ) :
    run reply (p >>= k) s = run reply (k (run reply p s).1) (run reply p s).2 := by
  induction p generalizing s with
  | done a => rfl
  | ask q next ih => exact ih (reply q s).1 (reply q s).2

end Plan
end SenderPolicy.Dns
