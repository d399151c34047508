import SenderPolicy.Dns.Resolver

/-!
Tables of answers: zones, which a resolver reads as they are, and scripts, which stand for a wire. A
script can let a question time out some times before it answers.
-/
namespace SenderPolicy.Dns

abbrev Zone := List (Query × Reply)

namespace Zone

def reply (z : Zone) (q : Query) : Reply :=
  match z.find? (fun entry => entry.1 = q) with
  | some (_, r) => r
  | none => .noSuchDomain q.name

def publish (z : Zone) (q : Query) (r : Reply) : Zone :=
  (q, r) :: z.filter (fun entry => entry.1 ≠ q)

end Zone

structure Cue where
  type : RecordType
  name : Text
  timeouts : Nat := 0
  outcome : WireOutcome

def Cue.isFor (type : RecordType) (name : Text) (c : Cue) : Bool := c.type == type && c.name == name

structure Script where
  cues : List Cue := []
  asked : List (RecordType × Text) := []

namespace Script

def answer (type : RecordType) (name : Text) : List Cue → WireOutcome × List Cue
  | [] => (.noSuchDomain, [])
  | c :: rest =>
    if Cue.isFor type name c then
      if c.timeouts = 0 then (c.outcome, c :: rest)
      else (.timeout, { c with timeouts := c.timeouts - 1 } :: rest)
    else
      let (outcome, rest) := answer type name rest
      (outcome, c :: rest)

def wire : Wire Script := fun type name s =>
  let (outcome, cues) := answer type name s.cues
  (outcome, { cues, asked := s.asked ++ [(type, name)] })

def publish (s : Script) (c : Cue) : Script :=
  { s with cues := c :: s.cues.filter (fun d => !Cue.isFor c.type c.name d) }

end Script
end SenderPolicy.Dns
