import SenderPolicy.Address.Network
import SenderPolicy.Audit.Finding

/-!
The audit of one term: it is understood, it is written as the grammar asks, and its value, its prefix
lengths and its macros are in order. The first defect is told.
-/
namespace SenderPolicy.Audit

/-- What ends the audit of a term: a defect, or a fault that ends the whole audit. -/
inductive Rejection
  | defect (d : Defect)
  | fault (f : Fault)
  deriving DecidableEq

def readLength (digits : Text) : Except Rejection Int :=
  match Text.readInteger digits with
  | .ok n => .ok n
  | .error f => .error (.fault (.integer f))

/-- The digits of one length or of two, with two slashes before the second, or with one slash if there is
no first. -/
def splitLengths? (cidr : Text) : Option (Option Text × Option Text) :=
  let short := cidr.takeWhile Text.isDecimal
  match cidr.dropWhile Text.isDecimal with
  | [] => if short.isEmpty then none else some (some short, none)
  | '/' :: rest =>
    let long := if short.isEmpty then rest else rest.drop 1
    let marked := short.isEmpty || rest.head? == some '/'
    if marked && !long.isEmpty && long.all Text.isDecimal then
      some (if short.isEmpty then none else some short, some long)
    else none
  | _ => none

def checkLengths (t : Term) : Except Rejection Unit :=
  match t.cidr with
  | none => .ok ()
  | some cidr =>
    if !t.kind.takesLengths then .error (.defect (.strayLength t.kind t.compose))
    else
      match splitLengths? cidr with
      | none => .error (.defect (.badLength t.compose))
      | some (short, long) => do
        match short with
        | some digits => if 32 < (← readLength digits) then throw (.defect (.longShortLength t.compose))
        | none => pure ()
        match long with
        | some digits => if 128 < (← readLength digits) then throw (.defect (.longLongLength t.compose))
        | none => pure ()

def checkNetwork (t : Term) : Except Defect Unit :=
  match t.value with
  | none | some [] => .error (.noAddress t.kind)
  | some value =>
    if value.contains '%' then .error (.macroInAddress t.kind value)
    else
      match Network.read? value, t.kind with
      | none, kind => .error (.badAddress kind value)
      | some (.v4 _ _), .ip4 => .ok ()
      | some (.v6 _ _), .ip4 => .error (.otherFamily .ip4 value)
      | some (.v6 _ _), _ => .ok ()
      | some (.v4 _ _), kind => .error (.otherFamily kind value)

def hasValue (t : Term) : Bool := t.value != none && t.value != some []

def checkValue (t : Term) : Except Defect Unit :=
  match t.kind with
  | .redirect | .exp | .unknownModifier =>
    if t.qualifier ≠ .pass then .error (.qualifiedModifier t.writtenName)
    else if t.kind ≠ .unknownModifier ∧ !hasValue t then .error (.emptyModifier t.writtenName)
    else .ok ()
  | .all =>
    if t.value.isSome ∨ t.cidr.isSome then .error (.valuedAll t.compose) else .ok ()
  | .ip4 | .ip6 => checkNetwork t
  | .inclusion | .existence => if hasValue t then .ok () else .error (.noTarget t.kind)
  | kind => if t.value = some [] then .error (.emptyHost kind) else .ok ()

def takesName : Kind → Bool
  | .a | .mx | .ptr | .inclusion | .existence | .redirect | .exp => true
  | _ => false

def checkMacros (t : Term) : Except Rejection Unit :=
  match t.value with
  | some value =>
    if takesName t.kind then
      match Macro.check value with
      | .ok () => .ok ()
      | .error (.misplaced position) => .error (.defect (.badMacro position value))
      | .error (.integer f) => .error (.fault (.integer f))
    else .ok ()
  | none => .ok ()

def checkGrammar (t : Term) : Except Defect Unit :=
  if t.kind = .unknown then .error (.unknownMechanism t.writtenName)
  else
    match departure? t.compose with
    | some (expected, position) => .error (.grammar expected position t.compose)
    | none => .ok ()

def checkTerm (t : Term) : Except Rejection Unit := do
  (checkGrammar t).mapError .defect
  (checkValue t).mapError .defect
  checkLengths t
  checkMacros t

end SenderPolicy.Audit
