import SenderPolicy.Proofs.Audit.Walk

/-!
Relations that a walk respects. Two walks of one record, under whatever limits, are made of the same steps; what
relates the steps, and goes along with sequences, relates the walks. The relation may tell how many lookups have been
counted, so that more is known behind each count.
-/
namespace SenderPolicy.Audit
open Dns Dns.Work
variable {α β : Type}

def Finding.IsExcess (f : Finding) : Prop := ∃ e, f.problem = .excess e

/-- A relation of the steps of two walks, where so many lookups have been counted: the elementary steps respect it, and
so does a sequence of steps that do. No step finds an excess; where a walk exceeds its limit, it stops. -/
structure Walk.Congruence (limits limits' : Limits) where
  Rel : Nat → {α : Type} → Walk α → Walk α → Prop
  pure {k : Nat} {α : Type} (a : α) : Rel k (pure a) (pure a)
  bind {k : Nat} {α β : Type} {x y : Walk α} {f g : α → Walk β} :
    Rel k x y → (∀ a, Rel k (f a) (g a)) → Rel k (x >>= f) (y >>= g)
  get {k : Nat} : Rel k get get
  see {k : Nat} (target : Text) :
    Rel k (modify fun s => { s with seen := target :: s.seen }) (modify fun s => { s with seen := target :: s.seen })
  findAll {k : Nat} {fs : List Finding} (h : ∀ f ∈ fs, ¬ f.IsExcess) : Rel k (Walk.findAll fs) (Walk.findAll fs)
  fetch {k : Nat} (domain : Text) : Rel k (Walk.fetch domain) (Walk.fetch domain)
  fault {k : Nat} (f : Fault) : Rel k (throw (.fault f) : Walk Unit) (throw (.fault f))
  counted {k : Nat} {α : Type} {f g : Unit → Walk α} (term : Text) :
    Rel (k + 1) (f ()) (g ()) → Rel k (Walk.count limits term >>= f) (Walk.count limits' term >>= g)

namespace Walk.Congruence
variable {limits limits' : Limits} (C : Walk.Congruence limits limits') {k : Nat} {follow follow' : Follow}
  {domain : Text} {path : List Text}

def Follows (k : Nat) (follow follow' : Follow) : Prop :=
  ∀ record domain path, C.Rel k (follow record domain path) (follow' record domain path)

theorem find {f : Finding} (h : ¬ f.IsExcess) : C.Rel k (Walk.find f) (Walk.find f) :=
  C.findAll fun g hg => by rwa [List.mem_singleton.mp hg]

theorem found {x y : Walk Unit} {f : Finding} (h : ¬ f.IsExcess) (hxy : C.Rel k x y) :
    C.Rel k (Walk.find f >>= fun _ => x) (Walk.find f >>= fun _ => y) :=
  C.bind (C.find h) fun _ => hxy

theorem enter (hf : C.Follows k follow follow') (kind : Kind) (target : Text) :
    C.Rel k (enter follow kind target path) (enter follow' kind target path) := by
  refine C.bind (C.fetch target) fun fetched => ?_
  cases fetched with
  | error u => exact C.find fun ⟨e, he⟩ => nomatch he
  | ok publication =>
    refine C.bind (C.findAll ?_) fun _ => ?_
    · rintro f hf ⟨e, he⟩
      obtain ⟨w, -, rfl⟩ := List.mem_map.mp hf
      cases he
    · split
      · exact C.pure ()
      · split
        · exact C.fault _
        · rename_i record _ findings _
          dsimp only
          split
          · refine C.found (fun ⟨e, he⟩ => nomatch he) (C.bind (C.findAll ?_) fun _ => hf _ _ _)
            rintro f hf ⟨e, he⟩
            obtain ⟨g, -, rfl⟩ := List.mem_map.mp hf
            cases he
          · exact hf _ _ _

theorem walkTarget (hf : C.Follows k follow follow') (t : Term) :
    C.Rel k (walkTarget follow t domain path) (walkTarget follow' t domain path) := by
  unfold Audit.walkTarget
  split
  · exact C.pure ()
  · exact C.pure ()
  · split
    · exact C.find fun ⟨e, he⟩ => nomatch he
    · rename_i value _ _ _
      dsimp only
      have hrest : C.Rel k
          (do modify fun s => { s with seen := Domain.normalized value :: s.seen }
              Audit.enter follow t.kind (Domain.normalized value) path)
          (do modify fun s => { s with seen := Domain.normalized value :: s.seen }
              Audit.enter follow' t.kind (Domain.normalized value) path) :=
        C.bind (C.see _) fun _ => C.enter hf t.kind _
      split
      · refine C.find ?_
        rintro ⟨e, he⟩
        split at he <;> cases he
      · refine C.bind C.get fun s => ?_
        split
        · exact C.found (fun ⟨e, he⟩ => nomatch he) hrest
        · exact hrest

theorem walkTerm (hf : C.Follows (k + 1) follow follow') (t : Term) :
    C.Rel k (walkTerm limits follow t domain path) (walkTerm limits' follow' t domain path) := by
  unfold Audit.walkTerm
  split
  · refine C.counted _ ?_
    split
    · exact C.walkTarget hf t
    · exact C.pure ()
  · exact C.pure ()

theorem walkTerms (hf : C.Follows (k + 1) follow follow') (ts : List Term) :
    C.Rel k (walkTerms limits follow domain path ts) (walkTerms limits' follow' domain path ts) := by
  induction ts with
  | nil => exact C.pure ()
  | cons t rest ih => exact C.bind (C.walkTerm hf t) fun _ => ih

end Walk.Congruence

def beneath (limits : Limits) : Nat → Follow
  | 0 => fun _ _ _ => pure ()
  | left + 1 => walk limits left

theorem walk_eq_walkTerms (limits : Limits) (left : Nat) (record : Record) (domain : Text) (path : List Text) :
    walk limits left record domain path = walkTerms limits (beneath limits left) domain path (walkedTerms record) := by
  cases left <;> rfl

end SenderPolicy.Audit
