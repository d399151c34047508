import SenderPolicy.Proofs.Reference.Flattening
import SenderPolicy.Proofs.Reference.Search

/-!
What a graph and a flattening ask. Both go from record to record along references, and know the domains they have
been at: the graph by its nodes, the flattening by the targets it has met. Each question is for the record of a
target that is not known yet, and comes from a record that was fetched before. The depth is bounded, so that there is
an end however many targets there are.
-/
namespace SenderPolicy.Reference
open Dns

/-! The depth -/

/-- A recursion that counts its depth, and has nothing to go on with at the limit. -/
def CountsDepth {α : Type} (step : Option α → α) (limit : Int) (walk : Int → α) : Prop :=
  ∀ depth, walk depth = step (if limit < depth + 1 then none else some (walk (depth + 1)))

theorem countsDepth_iff {α : Type} {step : Option α → α} {levels : Nat → α} (hzero : levels 0 = step none)
    (hsucc : ∀ left, levels (left + 1) = step (some (levels left))) {limit : Int} {walk : Int → α} :
    CountsDepth step limit walk ↔ walk = fun depth => levels (limit - depth).toNat := by
  constructor
  · intro hwalk
    have hall (left : Nat) : ∀ depth, (limit - depth).toNat = left → walk depth = levels left := by
      induction left with
      | zero =>
        intro depth hdepth
        rw [hwalk depth, if_pos (by omega), hzero]
      | succ left ih =>
        intro depth hdepth
        rw [hwalk depth, if_neg (by omega), hsucc, ih (depth + 1) (by omega)]
    exact funext fun depth => hall _ depth rfl
  · rintro rfl depth
    by_cases hend : limit < depth + 1
    · rw [if_pos hend, ← hzero]
      exact congrArg levels (by omega)
    · rw [if_neg hend, ← hsucc]
      exact congrArg levels (by omega)

/-! Fetches -/

/-- A target, and the reply to the question for its record. -/
structure Fetch where
  target : Text
  reply : Reply

namespace Fetch

def exchange (f : Fetch) : Query × Reply := (⟨.texts, Domain.normalized f.target⟩, f.reply)

def found (f : Fetch) : Except Unpublished Publication :=
  Publication.ofAnswer (Domain.normalized f.target) (Answer.ofReply f.reply)

def node (f : Fetch) : Node := ⟨f.target, f.found.toOption.map (·.record)⟩

theorem terms_node {f : Fetch} {r : Record}
    (h : (f.found.toOption.bind fun p => Record.parse? p.record) = some r) : f.node.terms = r.terms := by
  simp only [Node.terms, node, Option.bind_map, Function.comp_def, h]
  rfl

end Fetch

/-- The node is so many references away from the root, by way of records that were fetched. -/
inductive Reached (root : Node) (fetches : List Fetch) : Nat → Node → Prop
  | root : Reached root fetches 0 root
  | along {n : Nat} {node : Node} {e : Edge} {f : Fetch} : Reached root fetches n node → e ∈ node.references →
      f ∈ fetches → f.target = e.target → Reached root fetches (n + 1) f.node

/-- The fetches of a search from the root, in order. No target is the root or is fetched twice; to each there is a
reference in a record that the fetches before lead to, and with it there are no more references than the limit. -/
structure Searched (root : Node) (limit : Nat) (fetches : List Fetch) : Prop where
  once : (root.domain :: fetches.map (·.target)).Nodup
  led : ∀ before f, before ++ [f] <+: fetches →
    ∃ n node e, Reached root before n node ∧ e ∈ node.references ∧ e.target = f.target ∧ n + 1 ≤ limit

structure Knows (root : Node) (limit : Nat) (fetches : List Fetch) (known : List Text) : Prop where
  searched : Searched root limit fetches
  knows : ∀ x ∈ root.domain :: fetches.map (·.target), x ∈ known

variable {root node : Node} {limit n left : Nat} {fetches more : List Fetch} {known known' : List Text} {e : Edge}
  {α β κ : Type} {names : κ → List Text}

theorem Reached.append (h : Reached root fetches n node) (more : List Fetch) :
    Reached root (fetches ++ more) n node := by
  induction h with
  | root => exact .root
  | along _ he hf ht ih => exact ih.along he (List.mem_append_left more hf) ht

theorem Reached.behind (h : Reached root fetches n node) (he : e ∈ node.references) (r : Reply) :
    Reached root (fetches ++ [⟨e.target, r⟩]) (n + 1) (Fetch.mk e.target r).node :=
  (h.append _).along he (List.mem_append_right _ List.mem_cons_self) rfl

theorem Knows.start (root : Node) (limit : Nat) : Knows root limit [] [root.domain] where
  searched := ⟨by simp, fun before f h => absurd (List.prefix_nil.mp h) (by simp)⟩
  knows := by simp

theorem Knows.mono (h : Knows root limit fetches known) (hk : ∀ x ∈ known, x ∈ known') :
    Knows root limit fetches known' :=
  ⟨h.searched, fun x hx => hk x (h.knows x hx)⟩

theorem Knows.fetched (h : Knows root limit fetches known) (hnode : Reached root fetches n node)
    (hlimit : n + 1 ≤ limit) (he : e ∈ node.references) (hnew : e.target ∉ known) (r : Reply) :
    Knows root limit (fetches ++ [⟨e.target, r⟩]) (known ++ [e.target]) := by
  have hfresh : ∀ x ∈ root.domain :: fetches.map (·.target), x ≠ e.target :=
    fun x hx heq => hnew (heq ▸ h.knows x hx)
  refine ⟨⟨?_, fun before f hprefix => ?_⟩, fun x hx => ?_⟩
  · rw [List.map_append, ← List.cons_append]
    exact List.nodup_append.mpr ⟨h.searched.once, by simp, fun x hx y hy heq =>
      hfresh x hx (heq.trans (List.mem_singleton.mp hy))⟩
  · rcases List.prefix_concat_iff.mp hprefix with heq | hprefix
    · obtain ⟨rfl, rfl⟩ := List.append_singleton_inj.mp heq
      exact ⟨n, node, e, hnode, he, rfl, hlimit⟩
    · exact h.searched.led before f hprefix
  · rw [List.map_append, ← List.cons_append] at hx
    rcases List.mem_append.mp hx with hx | hx
    · exact List.mem_append_left _ (h.knows x hx)
    · exact List.mem_append_right _ hx

/-! Going on with a search -/

/-- From the fetches the plan only goes on with the search, whatever it hears. -/
def GoesOn (root : Node) (limit : Nat) (names : κ → List Text) (fetches : List Fetch) (p : Plan (α × κ)) : Prop :=
  ∀ xs r, p.Hears xs r →
    ∃ more, xs = more.map Fetch.exchange ∧ Knows root limit (fetches ++ more) (names r.2)

namespace GoesOn

theorem pure {a : α} {s : κ} (h : Knows root limit fetches (names s)) :
    GoesOn root limit names fetches (Pure.pure (a, s) : Plan (α × κ)) := by
  rintro xs r ⟨⟩
  exact ⟨[], rfl, by rwa [List.append_nil]⟩

theorem bind {p : Plan (α × κ)} {k : α × κ → Plan (β × κ)} (hp : GoesOn root limit names fetches p)
    (hk : ∀ more r, Knows root limit (fetches ++ more) (names r.2) →
      GoesOn root limit names (fetches ++ more) (k r)) : GoesOn root limit names fetches (p >>= k) := by
  intro xs b h
  obtain ⟨ys, zs, r, rfl, hr, hb⟩ := h.of_bind
  obtain ⟨more, rfl, hmore⟩ := hp ys r hr
  obtain ⟨later, rfl, hlater⟩ := hk more r hmore zs b hb
  exact ⟨more ++ later, List.map_append.symm, by rwa [← List.append_assoc]⟩

theorem fetch {k : Except Unpublished Publication → Plan (α × κ)} (target : Text)
    (hk : ∀ r, GoesOn root limit names (fetches ++ [⟨target, r⟩]) (k (Fetch.mk target r).found)) :
    GoesOn root limit names fetches (published target >>= k) := by
  intro xs b h
  cases h with
  | @ask _ _ r xs _ hnext =>
    obtain ⟨more, rfl, hmore⟩ := hk r xs b hnext
    exact ⟨⟨target, r⟩ :: more, rfl, by rwa [List.append_assoc] at hmore⟩

end GoesOn

theorem mem_references_of_isReference {t : Term} (ht : t ∈ node.terms) (h : isReference t = true) :
    (⟨node.domain, Domain.normalized (t.value.getD []), t.kind⟩ : Edge) ∈ node.references :=
  List.mem_map_of_mem (List.mem_filter.mpr ⟨ht, h⟩)

/-! Graphs -/

variable {follow? : Option Follow} {follow : Follow} {domain value : Text} {path : List Text} {kind : Kind}
  {text : Option Text} {g : Graph} {ts : List Term}

/-- What follows a reference goes on from the node that it opens, where so many more references may follow. -/
def Pursues (root : Node) (limit left : Nat) (follow : Follow) : Prop :=
  ∀ fetches n target text path g, Knows root limit fetches (g.domains ++ [target]) →
    Reached root fetches n ⟨target, text⟩ → n + left ≤ limit →
    GoesOn root limit Graph.domains fetches ((follow target text path).run g)

theorem growReference_goesOn
    (hfollow : ∀ follow ∈ follow?, ∃ left, n + 1 + left ≤ limit ∧ Pursues root limit left follow)
    (hknows : Knows root limit fetches g.domains) (hnode : Reached root fetches n node) (he : e ∈ node.references)
    (htarget : e.target = Domain.normalized value) :
    GoesOn root limit Graph.domains fetches ((growReference follow? domain path kind value).run g) := by
  rw [growReference_run]
  dsimp only
  rw [← htarget]
  have hend : Knows root limit fetches (g.domains ++ [e.target]) := hknows.mono fun x => List.mem_append_left _
  split
  case isTrue => exact .pure (by simpa using hknows)
  case isFalse hnew =>
    cases follow? with
    | none => exact .pure (by simpa using hend)
    | some follow =>
      obtain ⟨left, hleft, hpursues⟩ := hfollow follow rfl
      dsimp only
      split
      case isTrue => exact .pure (by simpa using hend)
      case isFalse =>
        refine .fetch e.target fun r => hpursues _ (n + 1) _ _ _ _ ?_ (hnode.behind he r) hleft
        exact hknows.fetched hnode (by omega) he (mt Graph.hasNode_iff.mpr hnew) r

theorem growTerms_goesOn
    (hfollow : ∀ follow ∈ follow?, ∃ left, n + 1 + left ≤ limit ∧ Pursues root limit left follow)
    (hknows : Knows root limit fetches g.domains) (hnode : Reached root fetches n node)
    (hts : ∀ t ∈ ts, t ∈ node.terms) :
    GoesOn root limit Graph.domains fetches ((growTerms follow? domain path ts).run g) := by
  induction ts generalizing fetches g with
  | nil => exact .pure hknows
  | cons t rest ih =>
    obtain ⟨ht, hrest⟩ := List.forall_mem_cons.mp hts
    rw [growTerms, reference?_eq]
    split
    case h_1 value hvalue =>
      split at hvalue
      case isTrue hrefers =>
        obtain rfl := Option.some.inj hvalue
        rw [StateT.run_bind]
        exact (growReference_goesOn hfollow hknows hnode (mem_references_of_isReference ht hrefers) rfl).bind
          fun more r hmore => ih hmore (hnode.append more) hrest
      case isFalse => cases hvalue
    case h_2 => exact ih hknows hnode hrest

theorem growAt_pursues (hfollow : ∀ follow ∈ follow?, ∃ n, left = n + 1 ∧ Pursues root limit n follow) :
    Pursues root limit left (growAt follow?) := by
  intro fetches n target text path g hknows hnode hlimit
  rw [growAt_run]
  refine growTerms_goesOn (fun follow hmem => ?_) (by simpa using hknows) hnode fun t ht => ht
  obtain ⟨left, rfl, hpursues⟩ := hfollow follow hmem
  exact ⟨left, by omega, hpursues⟩

theorem grow_pursues (root : Node) (limit left : Nat) : Pursues root limit left (grow left) := by
  induction left with
  | zero => exact growAt_pursues fun follow h => nomatch h
  | succ left ih =>
    refine growAt_pursues fun follow h => ⟨left, rfl, ?_⟩
    obtain rfl := Option.some.inj h
    exact ih

theorem graphOf_hears {depth : Int} {xs : List (Query × Reply)} (h : (graphOf depth domain text).Hears xs g) :
    ∃ fetches, xs = fetches.map Fetch.exchange ∧
      Searched ⟨Domain.normalized domain, text⟩ depth.toNat fetches := by
  obtain ⟨ys, zs, ⟨⟨⟩, g'⟩, rfl, hgrow, hend⟩ := h.of_bind
  obtain ⟨fetches, rfl, hknows⟩ := grow_pursues ⟨Domain.normalized domain, text⟩ depth.toNat depth.toNat [] 0 _ text
    _ {} (Knows.start _ _) .root (by omega) ys _ hgrow
  cases hend
  exact ⟨fetches, List.append_nil _, hknows.searched⟩

/-! Flattened records -/

variable {flatten? : Option Flatten} {fl : Flatten} {t : Term} {r : Record} {terms : List Term} {met : List Text}

theorem isReference_of_isReplaceable (h : isReplaceable t = true) : isReference t = true := by
  obtain ⟨kind, qualifier, value, cidr, name⟩ := t
  rcases value with _ | _ | ⟨c, v⟩ <;> simp_all [isReplaceable, isReference]

theorem mem_terms_of_replacement? {target : Text} (h : replacement? target (some r) = some terms) (ht : t ∈ terms)
    (hopen : isReplaceable t = true) : t ∈ r.terms := by
  obtain ⟨-, -, rfl⟩ := replacement?_eq_some h
  obtain ⟨u, hu, rfl⟩ := List.mem_map.mp ht
  rcases anchored_cases target u with hsame | ⟨hkind, hvalued⟩
  · rw [hsame]
    exact (kept_of_mem_passing hu).1
  · simp only [hvalued, isReplaceable, Bool.and_eq_true, beq_iff_eq] at hopen
    simp [hopen.1.1] at hkind

/-- Flattening the terms of a node's record goes on from the node, where so many more includes may be replaced one
within another. -/
def Expands (root : Node) (limit left : Nat) (fl : Flatten) : Prop :=
  ∀ fetches n node ts met, Knows root limit fetches met → Reached root fetches n node → n + left ≤ limit →
    (∀ t ∈ ts, isReplaceable t = true → t ∈ node.terms) →
    GoesOn root limit id fetches ((fl ts).run met)

theorem flattenTerm_goesOn (hfl : Expands root limit left fl) (hknows : Knows root limit fetches met)
    (hnode : Reached root fetches n node) (hlimit : n + 1 + left ≤ limit)
    (ht : isReplaceable t = true → t ∈ node.terms) :
    GoesOn root limit id fetches ((flattenTerm (some fl) t).run met) := by
  rw [flattenTerm_run]
  dsimp only
  split
  case isTrue => exact .pure hknows
  case isFalse hnew =>
    rw [Bool.or_eq_true, not_or] at hnew
    have hopen : isReplaceable t = true := by simpa using hnew.1
    have hfresh : Domain.normalized (t.value.getD []) ∉ met := by simpa using hnew.2
    have hreference := mem_references_of_isReference (ht hopen) (isReference_of_isReplaceable hopen)
    refine .fetch _ fun reply => ?_
    have hmet : ∀ x ∈ met ++ [Domain.normalized (t.value.getD [])], x ∈ Domain.normalized (t.value.getD []) :: met := by
      simp [or_comm]
    have hfetched := (hknows.fetched hnode (by omega) hreference hfresh reply).mono hmet
    split
    case h_1 => exact .pure hfetched
    case h_2 terms hterms =>
      refine hfl _ (n + 1) _ terms _ hfetched (hnode.behind hreference reply) hlimit fun u hu hopen' => ?_
      cases hparse : (Fetch.mk _ reply).found.toOption.bind fun p => Record.parse? p.record with
      | none =>
        rw [hparse] at hterms
        cases hterms
      | some r =>
        rw [hparse] at hterms
        rw [Fetch.terms_node hparse]
        exact mem_terms_of_replacement? hterms hu hopen'

theorem flattenWith_goesOn (hfl : ∀ fl ∈ flatten?, ∃ left, n + 1 + left ≤ limit ∧ Expands root limit left fl)
    (hknows : Knows root limit fetches met) (hnode : Reached root fetches n node)
    (hts : ∀ t ∈ ts, isReplaceable t = true → t ∈ node.terms) :
    GoesOn root limit id fetches ((flattenWith flatten? ts).run met) := by
  induction ts generalizing fetches met with
  | nil => exact .pure hknows
  | cons t rest ih =>
    obtain ⟨ht, hrest⟩ := List.forall_mem_cons.mp hts
    rw [flattenWith_run]
    refine GoesOn.bind ?_ fun more x hmore => (ih hmore (hnode.append more) hrest).bind fun later y hlater =>
      .pure hlater
    cases flatten? with
    | none => exact .pure hknows
    | some fl =>
      obtain ⟨left, hlimit, hexpands⟩ := hfl fl rfl
      exact flattenTerm_goesOn hexpands hknows hnode hlimit ht

theorem flattenTerms_expands (root : Node) (limit left : Nat) : Expands root limit left (flattenTerms left) := by
  induction left with
  | zero =>
    intro fetches n node ts met hknows hnode _ hts
    exact flattenWith_goesOn (fun fl h => nomatch h) hknows hnode hts
  | succ left ih =>
    intro fetches n node ts met hknows hnode hlimit hts
    refine flattenWith_goesOn (fun fl h => ⟨left, by omega, ?_⟩) hknows hnode hts
    obtain rfl := Option.some.inj h
    exact ih

theorem flatten_hears {depth : Int} {xs : List (Query × Reply)} {flat : Option Record}
    (h : (flatten depth domain text).Hears xs flat) :
    ∃ fetches, xs = fetches.map Fetch.exchange ∧
      Searched ⟨Domain.normalized domain, text⟩ depth.toNat fetches := by
  unfold Reference.flatten at h
  cases hparse : text.bind Record.parse? with
  | none =>
    rw [hparse] at h
    cases h
    exact ⟨[], rfl, (Knows.start _ _).searched⟩
  | some r =>
    rw [hparse] at h
    obtain ⟨ys, zs, ⟨terms, met⟩, rfl, hflat, hend⟩ := h.of_bind
    have hterms : (Node.mk (Domain.normalized domain) text).terms = r.terms := by simp [Node.terms, hparse]
    obtain ⟨fetches, rfl, hknows⟩ := flattenTerms_expands ⟨Domain.normalized domain, text⟩ depth.toNat depth.toNat
      [] 0 _ r.terms _ (Knows.start _ _) .root (by omega) (fun t ht _ => hterms ▸ ht) ys _ hflat
    cases hend
    exact ⟨fetches, List.append_nil _, hknows.searched⟩

/-- Both searches come to an end against any resolver: the recursion has one function that it can be. All that a run
asks is for records, each of a target that is not the root, none twice, at the end of no more references than the
depth allows. -/
theorem searches_fetch_once {σ : Type} (reply : Query → σ → Reply × σ) (s : σ) (depth : Int) (domain : Text)
    (text : Option Text) :
    let root : Node := ⟨Domain.normalized domain, text⟩
    ((∀ walk, CountsDepth growAt depth walk ↔ walk = fun n => grow (depth - n).toNat) ∧
      ∃ fetches, (graphOf depth domain text).heard reply s = fetches.map Fetch.exchange ∧
        Searched root depth.toNat fetches) ∧
    ((∀ walk, CountsDepth flattenWith depth walk ↔ walk = fun n => flattenTerms (depth - n).toNat) ∧
      ∃ fetches, (flatten depth domain text).heard reply s = fetches.map Fetch.exchange ∧
        Searched root depth.toNat fetches) :=
  ⟨⟨fun _ => countsDepth_iff rfl fun _ => rfl, graphOf_hears (Plan.hears_run reply _ s)⟩,
    ⟨fun _ => countsDepth_iff rfl fun _ => rfl, flatten_hears (Plan.hears_run reply _ s)⟩⟩

end SenderPolicy.Reference
