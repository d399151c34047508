import Mathlib.Logic.Relation
import SenderPolicy.Proofs.Dns.Paths
import SenderPolicy.Reference.Graph

/-!
A graph grows by a search in depth. The path holds the domains that are open, the innermost first, each with the
edges that are ahead of it. One edge is added at a time; where it leads to a domain that is no node yet, the domain
becomes one and is opened. What each step keeps, the growth of a graph keeps.
-/
namespace SenderPolicy.Reference
open Dns Relation

/-! What a node refers to -/

def Node.terms (n : Node) : List Term := ((n.record.bind Record.parse?).map (·.terms)).getD []

def isReference (t : Term) : Bool :=
  (t.kind == .inclusion || t.kind == .redirect) && !(t.value.getD []).isEmpty

def edgesOf (domain : Text) (ts : List Term) : List Edge :=
  (ts.filter isReference).map fun t => ⟨domain, Domain.normalized (t.value.getD []), t.kind⟩

/-- The edges that leave the node by what its record says, in order. -/
def Node.references (n : Node) : List Edge := edgesOf n.domain n.terms

def Node.lookups (n : Node) : Nat := n.terms.countP (·.countsLookup)

theorem reference?_eq (t : Term) :
    reference? t = if isReference t then some (t.value.getD []) else none := by
  obtain ⟨kind, qualifier, value, cidr, name⟩ := t
  cases kind <;> rcases value with _ | _ | ⟨c, rest⟩ <;> rfl

theorem edgesOf_cons (domain : Text) (t : Term) (rest : List Term) :
    edgesOf domain (t :: rest) =
      (if isReference t then [⟨domain, Domain.normalized (t.value.getD []), t.kind⟩] else []) ++
        edgesOf domain rest := by
  by_cases h : isReference t = true
  · simp [edgesOf, h]
  · simp [edgesOf, h]

theorem source_of_mem_edgesOf {domain : Text} {ts : List Term} {e : Edge} (h : e ∈ edgesOf domain ts) :
    e.source = domain := by
  obtain ⟨t, -, rfl⟩ := List.mem_map.mp h
  rfl

namespace Graph

def domains (g : Graph) : List Text := g.nodes.map (·.domain)

def Leads (g : Graph) (a b : Text) : Prop := ∃ e ∈ g.edges, e.source = a ∧ e.target = b

def withNode (n : Node) (g : Graph) : Graph :=
  { g with nodes := g.nodes ++ [n], lookups := g.lookups + n.lookups }

/-- With an edge more; it closes a cycle if it leads back to the path. -/
def withEdge (path : List Text) (e : Edge) (g : Graph) : Graph :=
  { g with edges := g.edges ++ [e], isCyclic := g.isCyclic || path.contains e.target }

theorem hasNode_iff {g : Graph} {domain : Text} : g.hasNode domain = true ↔ domain ∈ g.domains := by
  simp [hasNode, domains]

@[simp] theorem domains_withNode (n : Node) (g : Graph) : (g.withNode n).domains = g.domains ++ [n.domain] := by
  simp [domains, withNode]

@[simp] theorem domains_withEdge (path : List Text) (e : Edge) (g : Graph) :
    (g.withEdge path e).domains = g.domains := rfl

@[simp] theorem hasNode_withEdge (path : List Text) (e : Edge) (g : Graph) (domain : Text) :
    (g.withEdge path e).hasNode domain = g.hasNode domain := rfl

@[simp] theorem nodes_withNode (n : Node) (g : Graph) : (g.withNode n).nodes = g.nodes ++ [n] := rfl

@[simp] theorem nodes_withEdge (path : List Text) (e : Edge) (g : Graph) : (g.withEdge path e).nodes = g.nodes := rfl

@[simp] theorem edges_withNode (n : Node) (g : Graph) : (g.withNode n).edges = g.edges := rfl

@[simp] theorem edges_withEdge (path : List Text) (e : Edge) (g : Graph) :
    (g.withEdge path e).edges = g.edges ++ [e] := rfl

@[simp] theorem lookups_withNode (n : Node) (g : Graph) :
    (g.withNode n).lookups = g.lookups + n.lookups := rfl

@[simp] theorem lookups_withEdge (path : List Text) (e : Edge) (g : Graph) :
    (g.withEdge path e).lookups = g.lookups := rfl

@[simp] theorem isCyclic_withNode (n : Node) (g : Graph) : (g.withNode n).isCyclic = g.isCyclic := rfl

end Graph

/-! Steps -/

structure Frame where
  domain : Text
  ahead : List Edge

structure Search where
  path : List Frame
  graph : Graph

def Search.domains (s : Search) : List Text := s.path.map (·.domain)

/-- What a node shows of a target at a depth: the record that is fetched, or nothing beyond the limit and where the
target has macros. -/
inductive Shows (allowed : Query → Reply → Prop) (limit depth : Nat) (target : Text) : Option Text → Prop
  | cut : limit < depth ∨ target.contains '%' = true → Shows allowed limit depth target none
  | fetched {found : Except Unpublished Publication} : depth ≤ limit → target.contains '%' = false →
      (published target).ComesTo allowed found →
      Shows allowed limit depth target (found.toOption.map (·.record))

/-- One step: an edge to a domain that is known, an edge to a new domain, which is opened, or the end of an open
domain. -/
inductive Step (allowed : Query → Reply → Prop) (limit : Nat) : Search → Search → Prop
  | known {domain target : Text} {kind : Kind} {ahead : List Edge} {below : List Frame} {g : Graph} :
      g.hasNode target = true →
      Step allowed limit ⟨⟨domain, ⟨domain, target, kind⟩ :: ahead⟩ :: below, g⟩
        ⟨⟨domain, ahead⟩ :: below, g.withEdge (domain :: below.map (·.domain)) ⟨domain, target, kind⟩⟩
  | enter {domain target : Text} {kind : Kind} {ahead : List Edge} {below : List Frame} {g : Graph}
      {record : Option Text} : g.hasNode target = false →
      Shows allowed limit (below.length + 1) target record →
      Step allowed limit ⟨⟨domain, ⟨domain, target, kind⟩ :: ahead⟩ :: below, g⟩
        ⟨⟨target, (Node.mk target record).references⟩ :: ⟨domain, ahead⟩ :: below,
          (g.withEdge (domain :: below.map (·.domain)) ⟨domain, target, kind⟩).withNode ⟨target, record⟩⟩
  | leave {domain : Text} {below : List Frame} {g : Graph} :
      Step allowed limit ⟨⟨domain, []⟩ :: below, g⟩ ⟨below, g⟩

abbrev Steps (allowed : Query → Reply → Prop) (limit : Nat) : Search → Search → Prop :=
  ReflTransGen (Step allowed limit)

/-! The growth of a graph, step by step -/

variable {allowed : Query → Reply → Prop} {limit left : Nat} {domain value : Text} {kind : Kind} {text : Option Text}
  {ahead : List Edge} {path : List Text} {below : List Frame} {g g' : Graph} {follow? : Option Follow} {ts : List Term}

theorem addEdge_run (path : List Text) (e : Edge) (rest : Growth Unit) (g : Graph) :
    (do
      Growth.addEdge e
      if path.contains e.target then Growth.markCyclic
      rest : Growth Unit).run g = rest.run (g.withEdge path e) := by
  by_cases h : path.contains e.target = true
  · simp only [h, if_true, Graph.withEdge, Bool.or_true]
    rfl
  · simp only [h, Graph.withEdge, Bool.or_false]
    rfl

theorem growReference_run (follow? : Option Follow) (domain : Text) (path : List Text) (kind : Kind)
    (value : Text) (g : Graph) :
    (growReference follow? domain path kind value).run g =
      let target := Domain.normalized value
      let g' := g.withEdge path ⟨domain, target, kind⟩
      if g.hasNode target then pure ((), g')
      else
        match follow? with
        | none => pure ((), g'.withNode ⟨target, none⟩)
        | some follow =>
          if target.contains '%' then pure ((), g'.withNode ⟨target, none⟩)
          else published target >>= fun fetched =>
            (follow target (fetched.toOption.map (·.record)) (path ++ [target])).run g' := by
  refine (addEdge_run path ⟨domain, Domain.normalized value, kind⟩ _ g).trans ?_
  simp only [StateT.run_bind, StateT.run_get, pure_bind, Graph.hasNode_withEdge]
  by_cases hknown : g.hasNode (Domain.normalized value) = true
  · simp only [hknown, if_true]
    rfl
  · simp only [hknown]
    cases follow? with
    | none => rfl
    | some follow =>
      by_cases hpercent : (Domain.normalized value).contains '%' = true
      · simp only [hpercent, if_true]
        rfl
      · simp only [hpercent]
        simp

theorem growAt_run (follow? : Option Follow) (domain : Text) (text : Option Text) (path : List Text) (g : Graph) :
    (growAt follow? domain text path).run g =
      (growTerms follow? domain path (Node.mk domain text).terms).run (g.withNode ⟨domain, text⟩) := by
  unfold growAt Graph.withNode Node.lookups Node.terms
  rcases text.bind Record.parse? with _ | record <;> rfl

/-- What follows a reference takes the search from a target that is opened to where the target is left again. Nothing
follows where the path is as long as it may be. -/
def Takes (allowed : Query → Reply → Prop) (limit : Nat) (domain : Text) (path : List Text) (below : List Frame) :
    Option Follow → Prop
  | none => limit ≤ below.length
  | some follow => below.length < limit ∧ ∀ (target : Text) (text : Option Text) (ahead : List Edge) (g g' : Graph),
      ((follow target text (path ++ [target])).run g).ComesTo allowed ((), g') →
      Steps allowed limit
        ⟨⟨target, (Node.mk target text).references⟩ :: ⟨domain, ahead⟩ :: below, g.withNode ⟨target, text⟩⟩
        ⟨⟨domain, ahead⟩ :: below, g'⟩

theorem withEdge_congr {p q : List Text} (h : ∀ x, x ∈ p ↔ x ∈ q) (e : Edge) (g : Graph) :
    g.withEdge p e = g.withEdge q e := by
  have : p.contains e.target = q.contains e.target := by simp [h]
  simp only [Graph.withEdge, this]

theorem growReference_steps (hfollow : Takes allowed limit domain path below follow?)
    (hpath : ∀ x, x ∈ path ↔ x ∈ domain :: below.map (·.domain))
    (h : ((growReference follow? domain path kind value).run g).ComesTo allowed ((), g')) :
    Steps allowed limit ⟨⟨domain, ⟨domain, Domain.normalized value, kind⟩ :: ahead⟩ :: below, g⟩
      ⟨⟨domain, ahead⟩ :: below, g'⟩ := by
  rw [growReference_run] at h
  dsimp only at h
  rw [withEdge_congr hpath] at h
  generalize Domain.normalized value = target at h ⊢
  -- A target that is cut off is opened without a record, and left at once.
  have hcut (hnew : ¬g.hasNode target = true) (hlimit : limit < below.length + 1 ∨ target.contains '%' = true) :
      Steps allowed limit ⟨⟨domain, ⟨domain, target, kind⟩ :: ahead⟩ :: below, g⟩
        ⟨⟨domain, ahead⟩ :: below, (g.withEdge (domain :: below.map (·.domain)) ⟨domain, target, kind⟩).withNode
          ⟨target, none⟩⟩ :=
    .tail (.single (.enter (Bool.eq_false_iff.mpr hnew) (.cut hlimit))) .leave
  split at h
  case isTrue hknown =>
    obtain rfl := congrArg Prod.snd h.eq_of_pure
    exact .single (.known hknown)
  case isFalse hnew =>
    match follow?, hfollow, h with
    | none, hlimit, h =>
      obtain rfl := congrArg Prod.snd h.eq_of_pure
      exact hcut hnew (.inl (Nat.lt_succ_of_le hlimit))
    | some follow, ⟨hlimit, hsteps⟩, h =>
      dsimp only at h
      split at h
      case isTrue hpercent =>
        obtain rfl := congrArg Prod.snd h.eq_of_pure
        exact hcut hnew (.inr hpercent)
      case isFalse hpercent =>
        obtain ⟨found, hfound, h⟩ := h.of_bind
        exact .head (.enter (Bool.eq_false_iff.mpr hnew)
          (.fetched hlimit (Bool.eq_false_iff.mpr hpercent) hfound)) (hsteps target _ ahead _ g' h)

theorem growTerms_steps (hfollow : Takes allowed limit domain path below follow?)
    (hpath : ∀ x, x ∈ path ↔ x ∈ domain :: below.map (·.domain))
    (h : ((growTerms follow? domain path ts).run g).ComesTo allowed ((), g')) :
    Steps allowed limit ⟨⟨domain, edgesOf domain ts⟩ :: below, g⟩ ⟨⟨domain, []⟩ :: below, g'⟩ := by
  induction ts generalizing g with
  | nil =>
    obtain rfl := congrArg Prod.snd h.eq_of_pure
    exact .refl
  | cons t rest ih =>
    rw [growTerms, reference?_eq] at h
    rw [edgesOf_cons]
    split at h
    case h_1 value hvalue =>
      split at hvalue
      case isTrue hrefers =>
        obtain rfl := Option.some.inj hvalue
        obtain ⟨⟨⟨⟩, g₁⟩, hreference, h⟩ := Plan.ComesTo.of_bind (by simpa only [StateT.run_bind] using h)
        simpa [hrefers] using (growReference_steps hfollow hpath hreference).trans (ih h)
      case isFalse => cases hvalue
    case h_2 hvalue =>
      split at hvalue
      case isTrue => cases hvalue
      case isFalse hrefers => simpa [hrefers] using ih h

/-- The levels that are left and the open domains below make up the limit. The path holds the open domains, in another
order; only what lies on it matters. -/
theorem grow_steps (hleft : left + below.length = limit)
    (hpath : ∀ x, x ∈ path ↔ x ∈ domain :: below.map (·.domain))
    (h : ((grow left domain text path).run g).ComesTo allowed ((), g')) :
    Steps allowed limit ⟨⟨domain, (Node.mk domain text).references⟩ :: below, g.withNode ⟨domain, text⟩⟩
      ⟨below, g'⟩ := by
  induction left generalizing domain text path below g g' with
  | zero =>
    have hfollow : Takes allowed limit domain path below none := by
      simp only [Takes]
      omega
    rw [grow, growAt_run] at h
    exact (growTerms_steps hfollow hpath h).tail .leave
  | succ left ih =>
    have hfollow : Takes allowed limit domain path below (some (grow left)) := by
      refine ⟨by omega, fun target text ahead g g' h => ih ?_ ?_ h⟩
      · simp only [List.length_cons]
        omega
      · intro x
        simp only [List.mem_append, hpath, List.mem_cons, List.map_cons, List.not_mem_nil, or_false]
        exact or_comm
    rw [grow, growAt_run] at h
    exact (growTerms_steps hfollow hpath h).tail .leave

def Search.start (root : Text) (text : Option Text) : Search :=
  ⟨[⟨root, (Node.mk root text).references⟩], Graph.withNode ⟨root, text⟩ {}⟩

theorem graphOf_steps {depth : Int} (h : (graphOf depth domain text).ComesTo allowed g) :
    Steps allowed depth.toNat (Search.start (Domain.normalized domain) text) ⟨[], g⟩ := by
  obtain ⟨⟨⟨⟩, g'⟩, hgrow, h⟩ := Plan.ComesTo.of_bind h
  obtain rfl := h.eq_of_pure
  exact grow_steps (by simp) (by simp) hgrow

theorem Steps.keeps {holds : Search → Prop} {s s' : Search} (h : Steps allowed limit s s')
    (hstep : ∀ s s', Step allowed limit s s' → holds s → holds s') (hs : holds s) : holds s' := by
  induction h with
  | refl => exact hs
  | tail _ hlast ih => exact hstep _ _ hlast ih

theorem graphOf_keeps {depth : Int} (holds : Search → Prop)
    (hstart : holds (Search.start (Domain.normalized domain) text))
    (hstep : ∀ s s', Step allowed depth.toNat s s' → holds s → holds s')
    (h : (graphOf depth domain text).ComesTo allowed g) : holds ⟨[], g⟩ :=
  (graphOf_steps h).keeps hstep hstart

end SenderPolicy.Reference
