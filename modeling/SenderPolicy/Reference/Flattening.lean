import SenderPolicy.Published

/-!
Flattening: an include is replaced by the mechanisms of the included record that let messages pass. An
include stays where it cannot be replaced without a change of meaning, where it was replaced before, and
beyond the depth limit.
-/
namespace SenderPolicy.Reference

/-- The greatest depth to which includes are replaced. -/
def defaultFlatteningDepth : Int := 5

abbrev Flattening := StateT (List Text) Dns.Plan

/-- Is the term an include that always passes on a match, with a target that needs no message? -/
def isReplaceable (t : Term) : Bool :=
  t.kind == .inclusion && t.qualifier == .pass &&
    (match t.value with
    | none | some [] => false
    | some value => !value.contains '%')

/-- A term that means the domain of its record by having no value is given that domain as its value. -/
def anchored (domain : Text) (t : Term) : Term :=
  match t.kind, t.value with
  | .a, none | .a, some [] | .mx, none | .mx, some [] | .ptr, none | .ptr, some [] =>
    { t with value := some domain }
  | _, _ => t

/-- The mechanisms that let messages pass, but for the one that matches everything. -/
def passing (r : Record) : List Term :=
  r.terms.filter (fun t => t.qualifier == .pass && !t.isModifier && t.kind != .all)

def hasMacro (t : Term) : Bool := (t.value.getD []).contains '%'

def replacement? (target : Text) (record : Option Record) : Option (List Term) :=
  match record with
  | none => none
  | some r =>
    if r.redirect.isSome ∨ (passing r).any hasMacro then none
    else some ((passing r).map (anchored target))

abbrev Flatten := List Term → Flattening (List Term)

def flattenTerm (flatten? : Option Flatten) (t : Term) : Flattening (List Term) := do
  match flatten? with
  | none => return [t]
  | some flatten =>
    let target := Domain.normalized (t.value.getD [])
    if !isReplaceable t || (← get).contains target then return [t]
    else
      modify (target :: ·)
      let fetched ← (published target : Dns.Plan _)
      match replacement? target (fetched.toOption.bind (fun p => Record.parse? p.record)) with
      | none => return [t]
      | some terms => flatten terms

def flattenWith (flatten? : Option Flatten) : Flatten
  | [] => return []
  | t :: rest => do
    let front ← flattenTerm flatten? t
    let others ← flattenWith flatten? rest
    return front ++ others

/-- Flattens terms where so many more includes may be replaced one within another. -/
def flattenTerms : Nat → Flatten
  | 0 => flattenWith none
  | left + 1 => flattenWith (some (flattenTerms left))

def flatten (depth : Int) (domain : Text) (text : Option Text) : Dns.Plan (Option Record) := do
  match text.bind Record.parse? with
  | none => return none
  | some record =>
    let (terms, _) ← (flattenTerms depth.toNat record.terms).run [Domain.normalized domain]
    return some (record.withTerms terms)

end SenderPolicy.Reference
