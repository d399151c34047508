import SenderPolicy.Published

/-!
The graph of the records that a record refers to. Each domain is a node with the text of its record, and
each include or redirect is an edge. A domain that is reached again is not followed again; the graph is
cyclic if an edge leads back to the path that it starts from.
-/
namespace SenderPolicy.Reference

structure Node where
  domain : Text
  record : Option Text
  deriving DecidableEq

structure Edge where
  source : Text
  target : Text
  kind : Kind
  deriving DecidableEq

structure Graph where
  nodes : List Node := []
  edges : List Edge := []
  lookups : Nat := 0
  isCyclic : Bool := false
  deriving DecidableEq

/-- The greatest depth to which references are followed. -/
def defaultDepth : Int := 10

abbrev Growth := StateT Graph Dns.Plan

namespace Growth

def addNode (domain : Text) (record : Option Text) : Growth Unit :=
  modify (fun g => { g with nodes := g.nodes ++ [⟨domain, record⟩] })

def addEdge (e : Edge) : Growth Unit :=
  modify (fun g => { g with edges := g.edges ++ [e] })

def addLookups (n : Nat) : Growth Unit :=
  modify (fun g => { g with lookups := g.lookups + n })

def markCyclic : Growth Unit := modify (fun g => { g with isCyclic := true })

end Growth

def Graph.hasNode (g : Graph) (domain : Text) : Bool := g.nodes.any (fun n => n.domain == domain)

def reference? (t : Term) : Option Text :=
  match t.kind, t.value with
  | .inclusion, some (c :: v) => some (c :: v)
  | .redirect, some (c :: v) => some (c :: v)
  | _, _ => none

abbrev Follow := Text → Option Text → List Text → Growth Unit

/-- Grows along one reference. Where nothing is followed any more, and where the target has macros, the
target becomes a node without a record. -/
def growReference (follow? : Option Follow) (domain : Text) (path : List Text) (kind : Kind)
    (value : Text) : Growth Unit := do
  let target := Domain.normalized value
  Growth.addEdge ⟨domain, target, kind⟩
  if path.contains target then Growth.markCyclic
  if (← get).hasNode target then pure ()
  else
    match follow? with
    | none => Growth.addNode target none
    | some follow =>
      if target.contains '%' then Growth.addNode target none
      else
        let fetched ← (published target : Dns.Plan _)
        follow target (fetched.toOption.map (·.record)) (path ++ [target])

def growTerms (follow? : Option Follow) (domain : Text) (path : List Text) : List Term → Growth Unit
  | [] => pure ()
  | t :: rest => do
    match reference? t with
    | some value => growReference follow? domain path t.kind value
    | none => pure ()
    growTerms follow? domain path rest

def growAt (follow? : Option Follow) : Follow := fun domain text path => do
  Growth.addNode domain text
  match text.bind Record.parse? with
  | none => pure ()
  | some record =>
    Growth.addLookups (record.terms.countP (·.countsLookup))
    growTerms follow? domain path record.terms

def grow : Nat → Follow
  | 0 => growAt none
  | left + 1 => growAt (some (grow left))

def graphOf (depth : Int) (domain : Text) (text : Option Text) : Dns.Plan Graph := do
  let domain := Domain.normalized domain
  let (_, g) ← (grow depth.toNat domain text [domain]).run {}
  return g

def graphOfDomain (depth : Int) (domain : Text) : Dns.Plan Graph := do
  let domain := Domain.normalized domain
  let fetched ← published domain
  graphOf depth domain (fetched.toOption.map (·.record))

end SenderPolicy.Reference
