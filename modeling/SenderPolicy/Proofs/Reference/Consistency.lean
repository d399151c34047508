import Mathlib.Algebra.GroupWithZero.Nat
import SenderPolicy.Proofs.Reference.Search

/-!
A graph and the records that it shows. While the search is under way, the edges found and those ahead are together the
references of the nodes; at its end none is ahead.
-/
namespace SenderPolicy.Reference
open Dns
variable {root : Text} {s s' : Search} {σ : Type}

def Search.edges (s : Search) : List Edge := s.graph.edges ++ s.path.flatMap (·.ahead)

structure Consistent (root : Text) (s : Search) : Prop where
  distinct : s.graph.domains.Nodup
  reached : ∀ d, d ∈ s.graph.domains ↔ d = root ∨ d ∈ s.graph.edges.map (·.target)
  known : ∀ e ∈ s.edges, e.source ∈ s.graph.domains
  shown : ∀ n ∈ s.graph.nodes, s.edges.filter (·.source == n.domain) = n.references
  counted : s.graph.lookups = (s.graph.nodes.map Node.lookups).sum

theorem mem_references {n : Node} {e : Edge} (h : e ∈ n.references) : e.source = n.domain :=
  source_of_mem_edgesOf h

theorem filter_references (n : Node) (d : Text) :
    n.references.filter (·.source == d) = if n.domain = d then n.references else [] := by
  split
  case isTrue h => exact List.filter_eq_self.mpr fun e he => by simp [mem_references he, h]
  case isFalse h => exact List.filter_eq_nil_iff.mpr fun e he => by simp [mem_references he, h]

theorem filter_source_eq_nil {edges : List Edge} {domains : List Text} {d : Text}
    (h : ∀ e ∈ edges, e.source ∈ domains) (hd : d ∉ domains) : edges.filter (·.source == d) = [] := by
  refine List.filter_eq_nil_iff.mpr fun e he => ?_
  have : e.source ≠ d := fun hs => hd (hs ▸ h e he)
  simpa using this

/-- The references of a node, put among the edges of other domains, are the edges that leave it. -/
theorem filter_of_inserted {found rest : List Edge} {domains : List Text} {n : Node}
    (h : ∀ e ∈ found ++ rest, e.source ∈ domains) (hn : n.domain ∉ domains) :
    (found ++ (n.references ++ rest)).filter (·.source == n.domain) = n.references := by
  have hnone := filter_source_eq_nil h hn
  simp only [List.filter_append, List.append_eq_nil_iff] at hnone ⊢
  simp [filter_references, hnone]

theorem filter_of_inserted_ne (found rest : List Edge) {n : Node} {d : Text} (hd : n.domain ≠ d) :
    (found ++ (n.references ++ rest)).filter (·.source == d) = (found ++ rest).filter (·.source == d) := by
  simp [filter_references, hd]

theorem consistent_start (root : Text) (text : Option Text) : Consistent root (Search.start root text) where
  distinct := by simp [Search.start, Graph.domains, Graph.withNode]
  reached := by simp [Search.start, Graph.domains, Graph.withNode]
  known := by
    intro e he
    have he : e ∈ (Node.mk root text).references := by simpa [Search.edges, Search.start] using he
    simp [Search.start, Graph.domains, Graph.withNode, mem_references he]
  shown := by
    intro n hn
    obtain rfl : n = ⟨root, text⟩ := by simpa [Search.start, Graph.withNode] using hn
    simp [Search.edges, Search.start, filter_references]
  counted := by simp [Search.start, Graph.withNode]

theorem Consistent.leave {domain : Text} {below : List Frame} {g : Graph}
    (h : Consistent root ⟨⟨domain, []⟩ :: below, g⟩) : Consistent root ⟨below, g⟩ :=
  ⟨h.distinct, h.reached, h.known, h.shown, h.counted⟩

theorem Consistent.known_edge {domain : Text} {e : Edge} {ahead : List Edge} {below : List Frame} {g : Graph}
    (h : Consistent root ⟨⟨domain, e :: ahead⟩ :: below, g⟩) (htarget : e.target ∈ g.domains)
    (path : List Text) : Consistent root ⟨⟨domain, ahead⟩ :: below, g.withEdge path e⟩ := by
  have hedges : (Search.mk (⟨domain, ahead⟩ :: below) (g.withEdge path e)).edges =
      (Search.mk (⟨domain, e :: ahead⟩ :: below) g).edges := by simp [Search.edges]
  refine ⟨h.distinct, fun d => ?_, ?_, ?_, h.counted⟩
  · have hold := h.reached d
    have hnew := (h.reached e.target).mp htarget
    simp only [Graph.domains_withEdge, Graph.edges_withEdge, List.map_append, List.mem_append, List.map_cons,
      List.map_nil, List.mem_singleton] at hold ⊢
    constructor
    · exact fun hd => (hold.mp hd).imp_right .inl
    · rintro (rfl | hd | rfl)
      · exact hold.mpr (.inl rfl)
      · exact hold.mpr (.inr hd)
      · exact htarget
  · rw [hedges]
    exact h.known
  · rw [hedges]
    exact h.shown

theorem Consistent.new_edge {domain : Text} {e : Edge} {ahead : List Edge} {below : List Frame} {g : Graph}
    (h : Consistent root ⟨⟨domain, e :: ahead⟩ :: below, g⟩) (htarget : e.target ∉ g.domains)
    (path : List Text) (record : Option Text) :
    Consistent root ⟨⟨e.target, (Node.mk e.target record).references⟩ :: ⟨domain, ahead⟩ :: below,
      (g.withEdge path e).withNode ⟨e.target, record⟩⟩ := by
  -- The new references stand between the edges found and the others ahead.
  have hbefore : (Search.mk (⟨domain, e :: ahead⟩ :: below) g).edges =
      (g.edges ++ [e]) ++ (ahead ++ below.flatMap (·.ahead)) := by simp [Search.edges]
  have hafter : (Search.mk (⟨e.target, (Node.mk e.target record).references⟩ :: ⟨domain, ahead⟩ :: below)
      ((g.withEdge path e).withNode ⟨e.target, record⟩)).edges =
      (g.edges ++ [e]) ++ ((Node.mk e.target record).references ++ (ahead ++ below.flatMap (·.ahead))) := by
    simp [Search.edges]
  have hknown := h.known
  have hshown := h.shown
  rw [hbefore] at hknown hshown
  generalize g.edges ++ [e] = found at hbefore hafter hknown hshown
  generalize ahead ++ below.flatMap (·.ahead) = rest at hbefore hafter hknown hshown
  refine ⟨?_, fun d => ?_, ?_, ?_, ?_⟩
  · simpa [List.nodup_append, h.distinct] using fun d hd => ne_of_mem_of_not_mem hd htarget
  · have hold := h.reached d
    simp only [Graph.domains_withNode, Graph.domains_withEdge, Graph.edges_withNode, Graph.edges_withEdge,
      List.map_append, List.mem_append, List.map_cons, List.map_nil, List.mem_singleton] at hold ⊢
    rw [hold, or_assoc]
  · rw [hafter]
    intro e' he'
    simp only [Graph.domains_withNode, Graph.domains_withEdge, List.mem_append, List.mem_singleton] at he' ⊢
    rcases he' with he' | he' | he'
    · exact .inl (hknown e' (List.mem_append_left _ he'))
    · exact .inr (mem_references he')
    · exact .inl (hknown e' (List.mem_append_right _ he'))
  · rw [hafter]
    intro n hn
    simp only [Graph.nodes_withNode, Graph.nodes_withEdge, List.mem_append, List.mem_singleton] at hn
    rcases hn with hn | rfl
    · have hd : e.target ≠ n.domain := fun hd => htarget (hd ▸ List.mem_map_of_mem hn)
      exact (filter_of_inserted_ne found rest hd).trans (hshown n hn)
    · exact filter_of_inserted hknown htarget
  · simpa using h.counted

theorem Consistent.step {allowed : Query → Reply → Prop} {limit : Nat} (hs : Step allowed limit s s')
    (h : Consistent root s) : Consistent root s' := by
  cases hs with
  | known hnode => exact h.known_edge (Graph.hasNode_iff.mp hnode) _
  | enter hnode _ => exact h.new_edge (fun ht => by simp [Graph.hasNode_iff.mpr ht] at hnode) _ _
  | leave => exact h.leave

theorem consistent_of_comesTo {allowed : Query → Reply → Prop} {depth : Int} {domain : Text} {text : Option Text}
    {g : Graph} (h : (graphOf depth domain text).ComesTo allowed g) :
    Consistent (Domain.normalized domain) ⟨[], g⟩ :=
  graphOf_keeps (Consistent _) (consistent_start _ text) (fun _ _ hs => Consistent.step hs) h

theorem edges_at_end (g : Graph) : (Search.mk [] g).edges = g.edges := by simp [Search.edges]

/-- A graph is consistent with the records it shows, whatever the resolver replies. No domain is two nodes; the nodes
are the root and the targets of the edges; each edge leaves a node; the edges that leave a node are the references of
its record, in order; and the lookups are those that the records of the nodes count. -/
theorem graphOf_consistent (reply : Query → σ → Reply × σ) (start : σ) (depth : Int) (domain : Text)
    (text : Option Text) :
    let g := ((graphOf depth domain text).run reply start).1
    g.domains.Nodup ∧
      (∀ d, d ∈ g.domains ↔ d = Domain.normalized domain ∨ d ∈ g.edges.map (·.target)) ∧
      (∀ e ∈ g.edges, e.source ∈ g.domains) ∧
      (∀ n ∈ g.nodes, g.edges.filter (·.source == n.domain) = n.references) ∧
      g.lookups = (g.nodes.map Node.lookups).sum := by
  intro g
  have h : Consistent (Domain.normalized domain) ⟨[], g⟩ :=
    consistent_of_comesTo (Plan.comesTo_run reply (graphOf depth domain text) start)
  have hknown := h.known
  have hshown := h.shown
  rw [edges_at_end] at hknown hshown
  exact ⟨h.distinct, h.reached, hknown, hshown, h.counted⟩

end SenderPolicy.Reference
