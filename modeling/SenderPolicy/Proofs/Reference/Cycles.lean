import SenderPolicy.Proofs.Reference.Search

/-!
Cycles are found by edges that lead back to the path. As long as none has been found, every edge to a domain of the path
comes from the path, so that no way leads from a domain beside the path to one on it.
-/
namespace SenderPolicy.Reference
open Dns Relation

namespace Graph
variable {g : Graph} {e : Edge} {path : List Text} {a b : Text}

/-- There is a way round from a domain to itself. -/
def HasCycle (g : Graph) : Prop := ∃ d, TransGen g.Leads d d

theorem leads_withEdge : (g.withEdge path e).Leads a b ↔ g.Leads a b ∨ (e.source = a ∧ e.target = b) := by
  simp [Leads, or_and_right, exists_or]

theorem Leads.withEdge (h : g.Leads a b) : (g.withEdge path e).Leads a b := leads_withEdge.mpr (.inl h)

theorem leadsTo_withEdge (h : ReflTransGen g.Leads a b) : ReflTransGen (g.withEdge path e).Leads a b :=
  ReflTransGen.mono (fun _ _ => Leads.withEdge) _ _ h

theorem HasCycle.withEdge (h : g.HasCycle) : (g.withEdge path e).HasCycle := by
  obtain ⟨d, hround⟩ := h
  exact ⟨d, TransGen.mono (fun _ _ => Leads.withEdge) _ _ hround⟩

theorem transGen_withEdge (h : TransGen (g.withEdge path e).Leads a b) :
    TransGen g.Leads a b ∨ (ReflTransGen g.Leads a e.source ∧ ReflTransGen g.Leads e.target b) := by
  induction h with
  | single h =>
    rcases leads_withEdge.mp h with hold | ⟨rfl, rfl⟩
    · exact .inl (.single hold)
    · exact .inr ⟨.refl, .refl⟩
  | tail _ hlast ih =>
    rcases leads_withEdge.mp hlast with hold | ⟨rfl, rfl⟩
    · exact ih.imp (.tail · hold) fun ⟨hto, hfrom⟩ => ⟨hto, hfrom.tail hold⟩
    · exact .inr ⟨ih.elim TransGen.to_reflTransGen And.left, .refl⟩

def Closed (domains : List Text) (g : Graph) : Prop := ∀ e ∈ g.edges, e.target ∈ domains → e.source ∈ domains

theorem Closed.mem_of_reflTransGen {domains : List Text} (h : g.Closed domains) (hway : ReflTransGen g.Leads a b)
    (hb : b ∈ domains) : a ∈ domains := by
  induction hway using ReflTransGen.head_induction_on with
  | refl => exact hb
  | head hfirst _ ih =>
    obtain ⟨e, he, rfl, rfl⟩ := hfirst
    exact h e he ih

end Graph

/-- What holds of the path, the innermost domain first, while the search is under way. -/
structure Traced (path : List Text) (g : Graph) : Prop where
  known : ∀ e ∈ g.edges, e.target ∈ g.domains
  connected : path.Pairwise fun inner outer => ReflTransGen g.Leads outer inner
  marked : g.isCyclic = true → g.HasCycle
  unmarked : g.isCyclic = false → ¬g.HasCycle ∧ ∀ part, part <:+ path → g.Closed part

namespace Traced
variable {domain : Text} {path : List Text} {e : Edge} {g : Graph}

theorem leave (h : Traced (domain :: path) g) : Traced path g where
  known := h.known
  connected := h.connected.of_cons
  marked := h.marked
  unmarked hmark := (h.unmarked hmark).imp_right fun hclosed part hpart =>
    hclosed part (hpart.trans (List.suffix_cons domain path))

theorem withNode (h : Traced path g) (n : Node) : Traced path (g.withNode n) where
  known e he := by simpa using .inl (h.known e he)
  connected := h.connected
  marked := h.marked
  unmarked := h.unmarked

theorem leads_to_innermost (h : Traced (domain :: path) g) {d : Text} (hd : d ∈ domain :: path) :
    ReflTransGen g.Leads d domain := by
  rcases List.mem_cons.mp hd with rfl | hd
  · exact .refl
  · exact List.rel_of_pairwise_cons h.connected hd

theorem withEdge (h : Traced (e.source :: path) g) (htarget : e.target ∈ g.domains) :
    Traced (e.source :: path) (g.withEdge (e.source :: path) e) where
  known e' he' := by
    rcases List.mem_append.mp he' with hold | hnew
    · exact h.known e' hold
    · rwa [List.mem_singleton.mp hnew]
  connected := h.connected.imp Graph.leadsTo_withEdge
  marked hmark := by
    rcases (Bool.or_eq_true _ _).mp hmark with hold | hback
    · exact (h.marked hold).withEdge
    · have hway := h.leads_to_innermost (List.contains_iff_mem.mp hback)
      exact ⟨e.source, .head' (Graph.leads_withEdge.mpr (.inr ⟨rfl, rfl⟩)) (Graph.leadsTo_withEdge hway)⟩
  unmarked hmark := by
    obtain ⟨hold, hbeside⟩ := (Bool.or_eq_false_iff).mp hmark
    have hbeside : e.target ∉ e.source :: path := fun hmem => by simp [hmem] at hbeside
    obtain ⟨hround, hclosed⟩ := h.unmarked hold
    constructor
    · rintro ⟨d, hd⟩
      -- A new way round would lead from the target to the innermost domain, and so into the path from beside it.
      rcases Graph.transGen_withEdge hd with hd | ⟨hto, hfrom⟩
      · exact hround ⟨d, hd⟩
      · exact hbeside ((hclosed _ List.suffix_rfl).mem_of_reflTransGen (hfrom.trans hto) List.mem_cons_self)
    · intro part hpart e' he' hmem
      rcases List.mem_append.mp he' with hedge | hedge
      · exact hclosed part hpart e' hedge hmem
      · rw [List.mem_singleton.mp hedge] at hmem
        exact absurd (hpart.subset hmem) hbeside

theorem enter (h : Traced (e.source :: path) g) (he : e ∈ g.edges)
    (honly : ∀ e' ∈ g.edges, e'.target = e.target → e'.source = e.source) :
    Traced (e.target :: e.source :: path) g where
  known := h.known
  connected := h.connected.cons fun d hd => (h.leads_to_innermost hd).tail ⟨e, he, rfl, rfl⟩
  marked := h.marked
  unmarked hmark := by
    obtain ⟨hround, hclosed⟩ := h.unmarked hmark
    refine ⟨hround, fun part hpart e' he' hmem => ?_⟩
    rcases List.suffix_cons_iff.mp hpart with rfl | hpart
    · refine List.mem_cons_of_mem _ ?_
      rcases List.mem_cons.mp hmem with htarget | hmem
      · exact honly e' he' htarget ▸ List.mem_cons_self
      · exact hclosed _ List.suffix_rfl e' he' hmem
    · exact hclosed part hpart e' he' hmem

theorem start (root : Text) (text : Option Text) :
    Traced (Search.start root text).domains (Search.start root text).graph where
  known := by simp [Search.start]
  connected := by simp [Search.start, Search.domains]
  marked := by simp [Search.start]
  unmarked _ := by
    have hnone : ∀ e, e ∉ (Search.start root text).graph.edges := by simp [Search.start]
    refine ⟨?_, fun _ _ e he => absurd he (hnone e)⟩
    rintro ⟨d, hround⟩
    obtain ⟨_, ⟨e, he, _⟩, _⟩ := TransGen.head'_iff.mp hround
    exact hnone e he

theorem step {allowed : Query → Reply → Prop} {limit : Nat} {s s' : Search} (hs : Step allowed limit s s')
    (h : Traced s.domains s.graph) : Traced s'.domains s'.graph := by
  cases hs with
  | @known domain target kind ahead below g hnode =>
    exact withEdge (e := ⟨domain, target, kind⟩) h (Graph.hasNode_iff.mp hnode)
  | @enter domain target kind ahead below g record hnode _ =>
    have hnew : target ∉ g.domains := fun hmem => by simp [Graph.hasNode_iff.mpr hmem] at hnode
    have hedge := withEdge (e := ⟨domain, target, kind⟩) (h.withNode ⟨target, record⟩) (by simp)
    refine enter (e := ⟨domain, target, kind⟩) hedge (by simp) fun e he htarget => ?_
    rcases List.mem_append.mp he with hold | hlast
    · have hmem := h.known e hold
      rw [htarget] at hmem
      exact absurd hmem hnew
    · rw [List.mem_singleton.mp hlast]
  | leave => exact h.leave

end Traced

/-- A graph is told to be cyclic if its edges have a cycle, and only then, whatever the resolver replies. -/
theorem graphOf_cyclic_iff {σ : Type} (reply : Query → σ → Reply × σ) (start : σ) (depth : Int) (domain : Text)
    (text : Option Text) :
    let g := ((graphOf depth domain text).run reply start).1
    g.isCyclic = true ↔ ∃ d, TransGen g.Leads d d := by
  intro g
  have h : Traced (Search.mk [] g).domains g :=
    graphOf_keeps (fun s => Traced s.domains s.graph) (Traced.start _ text)
      (fun _ _ hs => Traced.step hs) (Plan.comesTo_run reply _ start)
  refine ⟨h.marked, fun hround => ?_⟩
  match hmark : g.isCyclic with
  | true => rfl
  | false => exact absurd hround (h.unmarked hmark).1

end SenderPolicy.Reference
