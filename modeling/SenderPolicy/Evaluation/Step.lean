import SenderPolicy.Audit.Record
import SenderPolicy.Macro.Expand

/-!
The steps of an evaluation. Each step may ask the resolver, note what it did and count lookups; going
over a limit or into a loop ends the evaluation, with all that was noted and counted kept.
-/
namespace SenderPolicy.Evaluation

structure Request where
  domain : Text
  ip : Text
  sender : Option Text := none
  helo : Option Text := none

/-- What stays the same through an evaluation. -/
structure Setting where
  address : Address
  sender : Option Text
  helo : Option Text
  limits : Limits
  /-- The seconds that the letter for the time spells. One moment stands for the whole evaluation; a
  program that reads its clock anew at each expansion may spell a later one in a later name. -/
  now : Int
  /-- Does coming back to a domain on the path end the evaluation? -/
  endsLoops : Bool := true

structure Progress where
  tally : Tally := {}
  trail : List Text := []
  explanation : Option Text := none

inductive Stop
  | excess (e : Excess)
  | includeLoop (path : List Text)
  | redirectLoop (path : List Text)
  | fault (f : Fault)

/-- The message of a stop that is a permanent error; a fault has none. -/
def Stop.message? : Stop → Option Text
  | .excess e => some e.message
  | .includeLoop path => some (Audit.Problem.message [] (.includeLoop path))
  | .redirectLoop path => some (Audit.Problem.message [] (.redirectLoop path))
  | .fault _ => none

abbrev Step := ExceptT Stop (StateT Progress Dns.Plan)

namespace Step

def ofPlan {α : Type} (p : Dns.Plan α) : Step α :=
  liftM (m := StateT Progress Dns.Plan) (liftM p)

def query (topic : Dns.Topic) (name : Text) : Step Dns.Answer := ofPlan (Dns.Plan.query topic name)

def queryAll (topic : Dns.Topic) (names : List Text) : Step (List Dns.Answer) :=
  ofPlan (Dns.Plan.queryAll topic names)

def note (parts : List Text) : Step Unit :=
  modify (fun s => { s with trail := s.trail ++ [Text.phrase parts] })

def count (limits : Limits) (term : Text) : Step Unit := do
  let (outcome, tally) := (← get).tally.count limits term
  modify (fun s => { s with tally })
  match outcome with
  | .ok () => pure ()
  | .error e => throw (.excess e)

def countVoid (limits : Limits) (term : Text) : Step Unit := do
  let (outcome, tally) := (← get).tally.countVoid limits term
  modify (fun s => { s with tally })
  match outcome with
  | .ok () => pure ()
  | .error e => throw (.excess e)

def ofExcept {α : Type} : Except Fault α → Step α
  | .ok a => pure a
  | .error f => throw (.fault f)

end Step

namespace Setting

def addressTopic (s : Setting) : Dns.Topic :=
  match s.address with
  | .v4 _ => .shortAddresses
  | .v6 _ _ => .longAddresses

def context (s : Setting) (domain : Text) : Macro.Context :=
  { domain, ip := s.address.text, sender := s.sender, helo := s.helo, now := s.now }

def expand (s : Setting) (t domain : Text) : Except Fault Text :=
  if t.contains '%' then Macro.expand (s.context domain) t else .ok t

def expandName (s : Setting) (t domain : Text) : Except Fault Text :=
  (s.expand t domain).map Domain.normalized

/-- The name that a term looks up: the domain itself, if the term has no value. -/
def target (s : Setting) (t : Term) (domain : Text) : Except Fault Text :=
  match t.value with
  | none | some [] => .ok domain
  | some value => s.expandName value domain

def matchLength (s : Setting) (t : Term) : Int :=
  match s.address with
  | .v4 _ => t.prefixLengths.1.getD 32
  | .v6 _ _ => t.prefixLengths.2.getD 128

def matchesAny (s : Setting) (addresses : List Text) (t : Term) : Bool :=
  addresses.any (fun a =>
    Address.matchesNetwork s.address.text (Text.phrase [a, "/", Text.signedDecimal (s.matchLength t)]))

end Setting
end SenderPolicy.Evaluation
