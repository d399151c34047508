import SenderPolicy.Dns.Zone
import SenderPolicy.Proofs.Reference.Consistency

/-!
Which records a graph shows, where every question has one fixed reply. A domain is met first along one way, which need
not be the shortest: its record is fetched if that way is no longer than the limit, and is never fetched later.
-/
namespace SenderPolicy.Reference
open Dns
variable {root domain : Text} {text : Option Text} {replies : Query → Reply} {limit : Nat}

/-- The record of a domain: that of the root is given, all others are fetched. -/
def recordAt (replies : Query → Reply) (root : Text) (text : Option Text) (domain : Text) : Option Text :=
  if domain = root then text else ((published domain).value replies).toOption.map (·.record)

/-- So many references lead from the root to the domain, none of them to a name with macros. -/
inductive Reaches (replies : Query → Reply) (root : Text) (text : Option Text) : Nat → Text → Prop
  | root : Reaches replies root text 0 root
  | next {n : Nat} {d d' : Text} {kind : Kind} : Reaches replies root text n d →
      ⟨d, d', kind⟩ ∈ (Node.mk d (recordAt replies root text d)).references → d'.contains '%' = false →
      Reaches replies root text (n + 1) d'

/-- So many edges lie on the way on which the domain was met first: the first edge to a domain is the last one on that
way. -/
inductive Graph.MetAt (root : Text) (g : Graph) : Nat → Text → Prop
  | root : MetAt root g 0 root
  | next {n : Nat} {d : Text} {e : Edge} : d ≠ root → g.edges.find? (·.target == d) = some e →
      MetAt root g n e.source → MetAt root g (n + 1) d

/-- The graph shows the record of the domain and all that it refers to. -/
def Graph.ShowsRecord (g : Graph) (domain : Text) (record : Option Text) : Prop :=
  ⟨domain, record⟩ ∈ g.nodes ∧
    g.edges.filter (·.source == domain) = (Node.mk domain record).references

namespace Graph.MetAt
variable {g : Graph} {n m : Nat} {d : Text} {e : Edge} {path : List Text}

theorem unique (h : g.MetAt root n d) (h' : g.MetAt root m d) : n = m := by
  induction h generalizing m with
  | root =>
    cases h' with
    | root => rfl
    | next hne _ _ => exact absurd rfl hne
  | next hne hfirst _ ih =>
    cases h' with
    | root => exact absurd rfl hne
    | next _ hfirst' hfrom =>
      obtain rfl := Option.some.inj (hfirst.symm.trans hfirst')
      rw [ih hfrom]

theorem withEdge (h : g.MetAt root n d) : (g.withEdge path e).MetAt root n d := by
  induction h with
  | root => exact .root
  | next hne hfirst _ ih => exact .next hne (by simp [hfirst]) ih

theorem withEdge_target (h : g.MetAt root n e.source) (hne : e.target ≠ root)
    (hnew : e.target ∉ g.edges.map (·.target)) : (g.withEdge path e).MetAt root (n + 1) e.target := by
  have hnone : g.edges.find? (·.target == e.target) = none := by
    simpa using fun e' he' htarget => hnew (List.mem_map.mpr ⟨e', he', htarget⟩)
  exact .next hne (by simp [hnone]) h.withEdge

theorem withNode (h : g.MetAt root n d) (node : Node) : (g.withNode node).MetAt root n d := by
  induction h with
  | root => exact .root
  | next hne hfirst _ ih => exact .next hne hfirst ih

end Graph.MetAt

/-- The record that a node shows of a domain that is met at a depth. -/
def shownAt (replies : Query → Reply) (root : Text) (text : Option Text) (limit depth : Nat) (domain : Text) :
    Option Text :=
  if domain = root ∨ (depth ≤ limit ∧ domain.contains '%' = false) then recordAt replies root text domain else none

/-- Every open domain was met where it lies on the path, and every node shows the record for where it was met. -/
structure Measured (replies : Query → Reply) (root : Text) (text : Option Text) (limit : Nat) (path : List Text)
    (g : Graph) : Prop where
  opened : ∀ d below, d :: below <:+ path → g.MetAt root below.length d
  shown : ∀ n ∈ g.nodes, ∃ depth, g.MetAt root depth n.domain ∧
    n.record = shownAt replies root text limit depth n.domain

theorem shown_of_shows {depth : Nat} {target : Text} {record : Option Text}
    (h : Shows (fun q r => r = replies q) limit depth target record) (hne : target ≠ root) :
    record = shownAt replies root text limit depth target := by
  unfold shownAt
  cases h with
  | cut hcut =>
    have hcut : ¬(depth ≤ limit ∧ target.contains '%' = false) := by
      rintro ⟨hdepth, hpercent⟩
      rcases hcut with hcut | hcut
      · omega
      · rw [hpercent] at hcut
        cases hcut
    rw [if_neg (not_or.mpr ⟨hne, hcut⟩)]
  | fetched hlimit hpercent hfound =>
    rw [if_pos (.inr ⟨hlimit, hpercent⟩), recordAt, if_neg hne, hfound.eq_value]

namespace Measured
variable {s s' : Search} {path : List Text} {g : Graph}

theorem start (replies : Query → Reply) (root : Text) (text : Option Text) (limit : Nat) :
    Measured replies root text limit (Search.start root text).domains (Search.start root text).graph where
  opened d below h := by
    obtain ⟨rfl, rfl⟩ : d = root ∧ below = [] := by
      simpa [Search.domains, Search.start, List.suffix_cons_iff] using h
    exact .root
  shown n hn := by
    obtain rfl : n = ⟨root, text⟩ := by simpa [Search.start] using hn
    exact ⟨0, .root, by simp [shownAt, recordAt]⟩

theorem withEdge (h : Measured replies root text limit path g) (p : List Text) (e : Edge) :
    Measured replies root text limit path (g.withEdge p e) where
  opened d below hsuffix := (h.opened d below hsuffix).withEdge
  shown n hn := by
    obtain ⟨depth, hmet, hrecord⟩ := h.shown n hn
    exact ⟨depth, hmet.withEdge, hrecord⟩

theorem enter (h : Measured replies root text limit path g) {d : Text} {record : Option Text}
    (hmet : g.MetAt root path.length d) (hrecord : record = shownAt replies root text limit path.length d) :
    Measured replies root text limit (d :: path) (g.withNode ⟨d, record⟩) where
  opened d' below hsuffix := by
    rcases List.suffix_cons_iff.mp hsuffix with heq | hsuffix
    · obtain ⟨rfl, rfl⟩ := List.cons.inj heq
      exact hmet.withNode _
    · exact (h.opened d' below hsuffix).withNode _
  shown n hn := by
    rcases List.mem_append.mp hn with hold | hnew
    · obtain ⟨depth, hold, hrecord⟩ := h.shown n hold
      exact ⟨depth, hold.withNode _, hrecord⟩
    · obtain rfl := List.mem_singleton.mp hnew
      exact ⟨path.length, hmet.withNode _, hrecord⟩

theorem leave (h : Measured replies root text limit (domain :: path) g) : Measured replies root text limit path g where
  opened d below hsuffix := h.opened d below (hsuffix.trans (List.suffix_cons domain path))
  shown := h.shown

theorem step (hs : Step (fun q r => r = replies q) limit s s') (hc : Consistent root s)
    (h : Measured replies root text limit s.domains s.graph) :
    Measured replies root text limit s'.domains s'.graph := by
  cases hs with
  | known _ => exact h.withEdge _ _
  | @enter domain target kind ahead below g record hnode hrecord =>
    have hnew : target ∉ g.domains := fun hmem => by simp [Graph.hasNode_iff.mpr hmem] at hnode
    obtain ⟨hroot, hedges⟩ := not_or.mp (mt (hc.reached target).mpr hnew)
    have hmet : (g.withEdge (domain :: below.map (·.domain)) ⟨domain, target, kind⟩).MetAt root
        ((below.map (·.domain)).length + 1) target :=
      (h.opened domain _ List.suffix_rfl).withEdge_target (e := ⟨domain, target, kind⟩) hroot hedges
    refine (h.withEdge _ _).enter (by simpa [Search.domains] using hmet) ?_
    simpa [Search.domains] using shown_of_shows hrecord hroot
  | leave => exact h.leave

end Measured

theorem measured_of_comesTo {depth : Nat} {g : Graph}
    (h : (graphOf depth domain text).ComesTo (fun q r => r = replies q) g) :
    Measured replies (Domain.normalized domain) text depth [] g := by
  have hkeeps := graphOf_keeps (fun s => Consistent (Domain.normalized domain) s ∧
      Measured replies (Domain.normalized domain) text depth s.domains s.graph)
    ⟨consistent_start _ text, .start replies _ text depth⟩
    (fun _ _ hs hold => ⟨hold.1.step hs, hold.2.step hs hold.1⟩) h
  exact hkeeps.2

variable {g : Graph}

theorem showsRecord_of_mem {n : Node} (hc : Consistent root ⟨[], g⟩) (hn : n ∈ g.nodes) :
    g.ShowsRecord n.domain n.record :=
  ⟨hn, by simpa only [edges_at_end] using hc.shown n hn⟩

theorem Measured.node_of_mem {d : Text} (h : Measured replies root text limit [] g) (hd : d ∈ g.domains) :
    ∃ depth, g.MetAt root depth d ∧ ⟨d, shownAt replies root text limit depth d⟩ ∈ g.nodes := by
  obtain ⟨n, hnode, rfl⟩ := List.mem_map.mp hd
  obtain ⟨depth, hmet, hrecord⟩ := h.shown n hnode
  refine ⟨depth, hmet, ?_⟩
  rw [← hrecord]
  exact hnode

/-- If each domain with a record is met within the limit, the records of all that the root reaches within the limit
are shown: each leads on to the next. -/
theorem Measured.showsRecord_of_reaches {n : Nat} {d : Text} (h : Measured replies root text limit [] g)
    (hc : Consistent root ⟨[], g⟩)
    (hmet : ∀ n d, n ≤ limit → Reaches replies root text n d → recordAt replies root text d ≠ none →
      ∃ m ≤ limit, g.MetAt root m d)
    (hreach : Reaches replies root text n d) (hn : n ≤ limit) :
    g.ShowsRecord d (recordAt replies root text d) := by
  induction hreach with
  | root =>
    obtain ⟨depth, -, hnode⟩ := h.node_of_mem ((hc.reached root).mpr (.inl rfl))
    rw [shownAt, if_pos (.inl rfl)] at hnode
    exact showsRecord_of_mem hc hnode
  | @next n d d' kind hreach href hpercent ih =>
    have hedge : ⟨d, d', kind⟩ ∈ g.edges := by
      rw [← (ih (by omega)).2] at href
      exact (List.mem_filter.mp href).1
    have hmem : d' ∈ g.domains := (hc.reached d').mpr (.inr (List.mem_map.mpr ⟨_, hedge, rfl⟩))
    obtain ⟨depth, hdepth, hnode⟩ := h.node_of_mem hmem
    have hrecord : shownAt replies root text limit depth d' = recordAt replies root text d' := by
      by_cases hnone : recordAt replies root text d' = none
      · rw [shownAt, hnone, ite_self]
      · obtain ⟨m, hm, hmet'⟩ := hmet (n + 1) d' hn (.next hreach href hpercent) hnone
        rw [hdepth.unique hmet', shownAt, if_pos (.inr ⟨hm, hpercent⟩)]
    rw [hrecord] at hnode
    exact showsRecord_of_mem hc hnode

theorem Measured.metAt_of_node {d record : Text} (h : Measured replies root text limit [] g)
    (hnode : ⟨d, some record⟩ ∈ g.nodes) : ∃ m ≤ limit, g.MetAt root m d := by
  obtain ⟨depth, hmet, hrecord⟩ := h.shown _ hnode
  by_cases hroot : d = root
  · exact ⟨0, Nat.zero_le _, hroot ▸ .root⟩
  · by_cases hlimit : depth ≤ limit ∧ d.contains '%' = false
    · exact ⟨depth, hlimit.1, hmet⟩
    · rw [shownAt, if_neg (not_or.mpr ⟨hroot, hlimit⟩)] at hrecord
      cases hrecord

/-- Each node was met at a depth; within the limit it shows the record of its domain, and beyond it none. So the records
of all that the root reaches within the limit are shown if and only if the search meets each of these domains, where it
has a record, within the limit. -/
theorem graphOf_showsRecord_iff (replies : Query → Reply) (domain : Text) (text : Option Text) (limit : Nat) :
    let root := Domain.normalized domain
    let g := (graphOf limit domain text).value replies
    (∀ n ∈ g.nodes, ∃ depth, g.MetAt root depth n.domain ∧
      n.record = if n.domain = root ∨ (depth ≤ limit ∧ n.domain.contains '%' = false) then
        recordAt replies root text n.domain else none) ∧
    ((∀ n d, n ≤ limit → Reaches replies root text n d → g.ShowsRecord d (recordAt replies root text d)) ↔
      ∀ n d, n ≤ limit → Reaches replies root text n d → recordAt replies root text d ≠ none →
        ∃ m ≤ limit, g.MetAt root m d) := by
  intro root g
  have hvalue : (graphOf limit domain text).ComesTo (fun q r => r = replies q) g := Plan.comesTo_value replies _
  have hc : Consistent root ⟨[], g⟩ := consistent_of_comesTo hvalue
  have h : Measured replies root text limit [] g := measured_of_comesTo hvalue
  refine ⟨h.shown, fun hshows n d hn hreach hsome => ?_,
    fun hmet n d hn hreach => h.showsRecord_of_reaches hc hmet hreach hn⟩
  obtain ⟨record, hrecord⟩ := Option.ne_none_iff_exists'.mp hsome
  exact h.metAt_of_node (hrecord ▸ (hshows n d hn hreach).1)

/-- A record that is one step away, and is first met two steps away. -/
def shortcutZone : Zone := [
  (⟨.texts, "a.example"⟩, .records [.text "v=spf1 include:b.example -all"]),
  (⟨.texts, "b.example"⟩, .records [.text "v=spf1 include:c.example -all"])]

/-- The domain that is met too late stays without its record, though it is within the limit by another way. -/
theorem shortcut_is_not_taken :
    let text : Option Text := some "v=spf1 include:a.example include:b.example -all"
    let g := (graphOf (1 : Nat) "d.example" text).value shortcutZone.reply
    Reaches shortcutZone.reply (Domain.normalized "d.example") text 1 "b.example" ∧
      recordAt shortcutZone.reply (Domain.normalized "d.example") text "b.example" =
        some "v=spf1 include:c.example -all" ∧
      ⟨"b.example", none⟩ ∈ g.nodes ∧
      ¬g.ShowsRecord "b.example" (recordAt shortcutZone.reply (Domain.normalized "d.example") text "b.example") := by
  intro text g
  have hrecord : recordAt shortcutZone.reply (Domain.normalized "d.example") text "b.example" =
      some "v=spf1 include:c.example -all" := by decide +kernel
  have hreach : Reaches shortcutZone.reply (Domain.normalized "d.example") text 1 "b.example" := by
    have href : ⟨Domain.normalized "d.example", "b.example", .inclusion⟩ ∈ (Node.mk (Domain.normalized "d.example")
        (recordAt shortcutZone.reply (Domain.normalized "d.example") text (Domain.normalized "d.example"))).references := by
      decide +kernel
    exact .next .root href (by decide)
  refine ⟨hreach, hrecord, by decide +kernel, ?_⟩
  rintro ⟨hnode, -⟩
  rw [hrecord] at hnode
  revert hnode
  decide +kernel

end SenderPolicy.Reference
