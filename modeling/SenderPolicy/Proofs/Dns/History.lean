import SenderPolicy.Proofs.Dns.Outcome
import SenderPolicy.Proofs.Dns.Paths

/-!
Computations that keep a history beside their state, with the latest event first. Without its history such a
computation retells one that keeps none; what it puts down can be of one kind, whatever the resolver replies.
-/
namespace SenderPolicy.Dns.Work
variable {ε σ ι α β : Type}

def still (x : Work ε σ α) : Work ε (σ × List ι) α :=
  ExceptT.mk fun p => x.run.run p.1 >>= fun r => pure (r.1, r.2, p.2)

def mark (e : ι) : Work ε (σ × List ι) Unit := modify (fun p => (p.1, e :: p.2))

theorem run_still (x : Work ε σ α) (s : σ) (history : List ι) :
    (still x).run.run (s, history) = x.run.run s >>= fun r => pure (r.1, r.2, history) := rfl

theorem run_marked (e : ι) (y : Work ε (σ × List ι) α) (s : σ) (history : List ι) :
    (mark e >>= fun _ => y).run.run (s, history) = y.run.run (s, e :: history) := rfl

/-- Without its history the one is the other. -/
def Retells (y : Work ε (σ × List ι) α) (x : Work ε σ α) : Prop :=
  ∀ s history, (fun r => (r.1, r.2.1)) <$> y.run.run (s, history) = x.run.run s

namespace Retells

theorem still (x : Work ε σ α) : Retells (Work.still x : Work ε (σ × List ι) α) x := by
  intro s history
  simp only [run_still, map_bind, map_pure]
  exact bind_pure _

theorem pure (a : α) : Retells (Pure.pure a : Work ε (σ × List ι) α) (Pure.pure a) := fun _ _ => rfl

theorem throw (e : ε) : Retells (throw e : Work ε (σ × List ι) α) (throw e) := fun _ _ => rfl

theorem bind {y : Work ε (σ × List ι) α} {x : Work ε σ α} {g : α → Work ε (σ × List ι) β} {f : α → Work ε σ β}
    (h : Retells y x) (hf : ∀ a, Retells (g a) (f a)) : Retells (y >>= g) (x >>= f) := by
  intro s history
  rw [run_bind, run_bind, map_bind, ← h s history, bind_map_left]
  congr 1
  funext r
  obtain ⟨o, s', history'⟩ := r
  cases o with
  | error e => rfl
  | ok a => exact hf a s' history'

theorem marked {e : ι} {y : Work ε (σ × List ι) α} {x : Work ε σ α} (h : Retells y x) :
    Retells (mark e >>= fun _ => y) x := by
  intro s history
  rw [run_marked]
  exact h s (e :: history)

end Retells

/-- On every path, each event that is put down is of the kind. -/
def Marks (P : ι → Prop) (y : Work ε (σ × List ι) α) : Prop :=
  ∀ s history, (∀ e ∈ history, P e) → (y.run.run (s, history)).Ensures fun _ r => ∀ e ∈ r.2.2, P e

namespace Marks
variable {P : ι → Prop}

theorem still (x : Work ε σ α) : Marks P (Work.still x) := by
  intro s history h
  rw [run_still]
  refine Plan.ensures_bind ?_
  induction x.run.run s with
  | done r => exact h
  | ask q next ih => exact fun r => ih r

theorem pure (a : α) : Marks P (Pure.pure a : Work ε (σ × List ι) α) := fun _ _ h => h

theorem bind {y : Work ε (σ × List ι) α} {g : α → Work ε (σ × List ι) β} (h : Marks P y)
    (hg : ∀ a, Marks P (g a)) : Marks P (y >>= g) := by
  intro s history hhistory
  rw [run_bind]
  refine Plan.ensures_bind ((h s history hhistory).mono fun n r hr => ?_)
  obtain ⟨o, s', history'⟩ := r
  cases o with
  | error e => exact hr
  | ok a => exact (hg a s' history' hr).mono fun _ _ hr' => hr'

theorem marked {e : ι} {y : Work ε (σ × List ι) α} (he : P e) (h : Marks P y) :
    Marks P (mark e >>= fun _ => y) := by
  intro s history hhistory
  rw [run_marked]
  exact h s (e :: history) (List.forall_mem_cons.mpr ⟨he, hhistory⟩)

end Marks
end SenderPolicy.Dns.Work
