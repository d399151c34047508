import SenderPolicy.Audit.Grammar
import SenderPolicy.Fault
import SenderPolicy.Limits
import SenderPolicy.Macro.Check
import SenderPolicy.Published

/-!
What an audit finds: defects of single terms, problems of records and of the records they lead to. Some
findings make a record invalid, the others are remarks.
-/
namespace SenderPolicy.Audit

def defaultMarker : Text := "➞"

inductive Defect
  | unknownMechanism (name : Text)
  | grammar (expected : Expected) (position : Nat) (term : Text)
  | qualifiedModifier (name : Text)
  | emptyModifier (name : Text)
  | valuedAll (term : Text)
  | noAddress (kind : Kind)
  | macroInAddress (kind : Kind) (value : Text)
  | badAddress (kind : Kind) (value : Text)
  | otherFamily (kind : Kind) (value : Text)
  | noTarget (kind : Kind)
  | emptyHost (kind : Kind)
  | strayLength (kind : Kind) (term : Text)
  | badLength (term : Text)
  | longShortLength (term : Text)
  | longLongLength (term : Text)
  | badMacro (position : Nat) (value : Text)
  deriving DecidableEq

open Text in
def Defect.message (marker : Text) : Defect → Text
  | .unknownMechanism name => phrase ["unknown mechanism: ", name]
  | .grammar expected position term =>
    phrase ["Expected ", expected.name, " at position ", decimal position, " (marked with ", marker,
      ") in: ", Macro.marked marker position term]
  | .qualifiedModifier name => phrase ["The ", name, " modifier cannot have a qualifier"]
  | .emptyModifier name => phrase [name, " modifier requires a value"]
  | .valuedAll term => phrase ["The all mechanism does not take a value: ", term]
  | .noAddress kind => phrase [kind.name, " mechanism requires a value"]
  | .macroInAddress kind value =>
    phrase ["SPF macros are not allowed in ", kind.name, " mechanisms: ", value]
  | .badAddress kind value => phrase [value, " is not a valid ", kind.name, " value."]
  | .otherFamily kind value =>
    phrase [value, " is not a valid ", kind.name, " value. Looks like ",
      if kind = Kind.ip4 then "ipv6" else "ipv4", "."]
  | .noTarget kind => phrase [kind.name, " mechanism requires a domain/value"]
  | .emptyHost kind => phrase [kind.name, " mechanism requires a domain after ':'"]
  | .strayLength kind term => phrase [kind.name, " mechanism does not take a CIDR length: ", term]
  | .badLength term => phrase ["Invalid CIDR length in ", term]
  | .longShortLength term => phrase ["IPv4 CIDR length must be 0-32 in ", term]
  | .longLongLength term => phrase ["IPv6 CIDR length must be 0-128 in ", term]
  | .badMacro position value => Macro.flawMessage marker position value

inductive Problem
  | defect (d : Defect)
  | repeatedAll
  | passingAll
  | discouragedPtr
  | severalRedirects
  | severalExplanations
  | behindAll
  | idleRedirect
  | noEnding
  | wrongVersion (tag : Text)
  | noVersion
  | inDomain (domain : Text) (p : Problem)
  | macroTarget (domain term : Text)
  | includeLoop (path : List Text)
  | redirectLoop (path : List Text)
  | repeatedInclude (target : Text)
  | unpublished (target : Text) (u : Unpublished)
  | size (w : SizeWarning)
  | badTarget (target : Text) (kind : Kind)
  | excess (e : Excess)
  deriving DecidableEq

def pathText (path : List Text) : Text := Text.joined " -> " path

open Text in
def Problem.message (marker : Text) : Problem → Text
  | .defect d => d.message marker
  | .repeatedAll => "The all mechanism is used more than once; only the first one can match"
  | .passingAll => "+all allows any host to send mail for the domain"
  | .discouragedPtr => "The ptr mechanism should not be used - (RFC 7208 § 5.5)"
  | .severalRedirects => "Multiple redirect modifiers"
  | .severalExplanations => "Multiple exp values are not permitted"
  | .behindAll => "Any mechanisms after the all mechanism are ignored."
  | .idleRedirect =>
    "The redirect modifier is ignored when an all mechanism is present (RFC 7208 § 6.1)"
  | .noEnding =>
    "The record has no all mechanism or redirect modifier; add -all or ~all as the last mechanism"
  | .wrongVersion tag =>
    phrase ["The version tag must be exactly ", Record.versionTag, ", not ", tag]
  | .noVersion => "missing v=spf1 prefix"
  | .inDomain domain p => phrase [domain, ": ", p.message marker]
  | .macroTarget domain term =>
    phrase [domain, ": ", term, " uses macros and cannot be followed without message context"]
  | .includeLoop path => phrase ["Include loop: ", pathText path]
  | .redirectLoop path => phrase ["Redirect loop: ", pathText path]
  | .repeatedInclude target => phrase ["Duplicate include: ", target]
  | .unpublished target u => u.report target
  | .size w => w.message
  | .badTarget target kind =>
    phrase [target, ": The ", kind.name, " target has an invalid SPF record"]
  | .excess e => e.message

/-- A problem; a fatal one makes the record invalid. -/
structure Finding where
  isFatal : Bool
  problem : Problem
  deriving DecidableEq

def Finding.fatal (p : Problem) : Finding := ⟨true, p⟩

def Finding.remark (p : Problem) : Finding := ⟨false, p⟩

structure Assessment where
  findings : List Finding
  lookups : Option Nat := none
  deriving DecidableEq

namespace Assessment

def isValid (a : Assessment) : Bool := a.findings.all (fun f => !f.isFatal)

def problems (marker : Text) (a : Assessment) : List Text :=
  a.findings.map (fun f => f.problem.message marker)

end Assessment
end SenderPolicy.Audit
