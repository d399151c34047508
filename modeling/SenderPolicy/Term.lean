import SenderPolicy.Text.Case
import SenderPolicy.Text.Integer

/-!
The terms of a record: mechanisms, each with a qualifier, and modifiers. Reading a term never fails;
what is not understood is kept as it is, under a kind of its own. Composing puts the parts together
again, with the qualifier left out where it is the usual one and nothing could be taken for it.
-/
namespace SenderPolicy

inductive Verdict
  | pass | fail | softfail | neutral | none | permerror | temperror
  deriving DecidableEq

def Verdict.name : Verdict → Text
  | .pass => "pass"
  | .fail => "fail"
  | .softfail => "softfail"
  | .neutral => "neutral"
  | .none => "none"
  | .permerror => "permerror"
  | .temperror => "temperror"

inductive Qualifier
  | pass | fail | softfail | neutral
  deriving DecidableEq

namespace Qualifier

def symbol : Qualifier → Char
  | .pass => '+'
  | .fail => '-'
  | .softfail => '~'
  | .neutral => '?'

def ofSymbol? : Char → Option Qualifier
  | '+' => some .pass
  | '-' => some .fail
  | '~' => some .softfail
  | '?' => some .neutral
  | _ => none

def verdict : Qualifier → Verdict
  | .pass => .pass
  | .fail => .fail
  | .softfail => .softfail
  | .neutral => .neutral

def take : Text → Option Qualifier × Text
  | [] => (none, [])
  | c :: r =>
    match ofSymbol? c with
    | some q => (some q, r)
    | none => (none, c :: r)

end Qualifier

/-- What a term is; the last two kinds are those that are not understood. -/
inductive Kind
  | all | ip4 | ip6 | a | mx | ptr | inclusion | existence | redirect | exp | unknown | unknownModifier
  deriving DecidableEq

namespace Kind

def name : Kind → Text
  | .all => "all"
  | .ip4 => "ip4"
  | .ip6 => "ip6"
  | .a => "a"
  | .mx => "mx"
  | .ptr => "ptr"
  | .inclusion => "include"
  | .existence => "exists"
  | .redirect => "redirect"
  | .exp => "exp"
  | .unknown => "unknown"
  | .unknownModifier => "unknown-modifier"

def mechanisms : List Kind := [.all, .ip4, .ip6, .a, .mx, .ptr, .inclusion, .existence]

def modifiers : List Kind := [.redirect, .exp]

def every : List Kind := mechanisms ++ modifiers ++ [.unknown, .unknownModifier]

def ofName? (kinds : List Kind) (name : Text) : Option Kind :=
  kinds.find? (fun k => k.name == name)

def isModifier : Kind → Bool
  | .redirect | .exp | .unknownModifier => true
  | _ => false

def takesLengths : Kind → Bool
  | .a | .mx => true
  | _ => false

def countsLookup : Kind → Bool
  | .a | .mx | .ptr | .inclusion | .existence | .redirect => true
  | _ => false

end Kind

/-- One term. The value stands behind the colon or the equals sign; what stands behind the slash of an
address mechanism is its `cidr`; a term that is not understood has a `name`. -/
structure Term where
  kind : Kind
  qualifier : Qualifier := .pass
  value : Option Text := none
  cidr : Option Text := none
  name : Option Text := none
  deriving DecidableEq

namespace Term

def writtenName (t : Term) : Text :=
  match t.kind with
  | .unknown | .unknownModifier => t.name.getD []
  | k => k.name

def isModifier (t : Term) : Bool := t.kind.isModifier

def countsLookup (t : Term) : Bool := t.kind.countsLookup

/-- Two lengths, one for each family of addresses; none at all if one of them is no integer. -/
def lengthsOf (short long : Text) : Option Int × Option Int :=
  let length? (t : Text) : Except Text.IntegerFault (Option Int) :=
    if t.isEmpty then .ok none else (Text.readInteger t).map some
  match length? short, length? long with
  | .ok m, .ok n => (m, n)
  | _, _ => (none, none)

def cutAtSlashes : Text → Text × Text
  | [] => ([], [])
  | '/' :: '/' :: r => ([], r)
  | c :: r => let (before, behind) := cutAtSlashes r; (c :: before, behind)

def prefixLengths (t : Term) : Option Int × Option Int :=
  match t.cidr with
  | none | some [] => (none, none)
  | some ('/' :: long) => lengthsOf [] long
  | some cidr => let (short, long) := cutAtSlashes cidr; lengthsOf short long

/-! Reading -/

def isNameCharacter (c : Char) : Bool :=
  Text.isLatin c || c.isDigit || c == '_' || c == '.' || c == '-'

/-- A text of one line, without the newline that may end it. -/
def singleLine? (t : Text) : Option Text :=
  let line := t.takeWhile (· != '\n')
  let rest := t.dropWhile (· != '\n')
  if rest = [] ∨ rest = ['\n'] then some line else none

def splitModifier? (t : Text) : Option (Text × Text) :=
  let name := t.takeWhile isNameCharacter
  match name, t.dropWhile isNameCharacter with
  | first :: _, '=' :: rest =>
    if Text.isLatin first then (singleLine? rest).map (name, ·) else none
  | _, _ => none

/-- Cuts a host from the prefix lengths behind it: at the first slash that is not within braces. -/
def cutLengthsAt (depth : Nat) : Text → Text × Option Text
  | [] => ([], none)
  | c :: r =>
    if c = '/' ∧ depth = 0 then ([], some r)
    else
      let depth := if c = '{' then depth + 1 else if c = '}' then depth - 1 else depth
      let (host, lengths) := cutLengthsAt depth r
      (c :: host, lengths)

def cutLengths (t : Text) : Text × Option Text := cutLengthsAt 0 t

def ofModifier (qualifier : Qualifier) (name value : Text) : Term :=
  match Kind.ofName? Kind.modifiers name with
  | some kind => { kind, qualifier, value := some value }
  | none => { kind := .unknownModifier, qualifier, value := some value, name := some name }

/-- A mechanism with the name, and what stands behind it from the first colon or slash on. -/
def ofMechanism (qualifier : Qualifier) (name rest : Text) : Term :=
  let kind : Kind := (Kind.ofName? Kind.mechanisms name).getD .unknown
  let (value, cidr) := match rest with
    | ':' :: value =>
      if kind.takesLengths then
        let (host, lengths) := cutLengths value
        (some host, lengths)
      else (some value, none)
    | '/' :: lengths => (none, some lengths)
    | _ => (none, none)
  { kind, qualifier, value, cidr, name := if kind = Kind.unknown then some name else none }

def isSeparator (c : Char) : Bool := c == ':' || c == '/'

def parse (t : Text) : Term :=
  let (q, body) := Qualifier.take t
  let qualifier := q.getD .pass
  match splitModifier? body with
  | some (name, value) => ofModifier qualifier (Text.lower name) value
  | none =>
    ofMechanism qualifier (Text.lower (body.takeWhile (fun c => !isSeparator c)))
      (body.dropWhile (fun c => !isSeparator c))

/-! Composing -/

def needsQualifier : Text → Bool
  | [] => true
  | c :: _ => (Qualifier.ofSymbol? c).isSome

def compose (t : Term) : Text :=
  let name := t.writtenName
  let head :=
    if t.qualifier ≠ .pass ∨ needsQualifier name then t.qualifier.symbol :: name else name
  if t.isModifier then head ++ '=' :: t.value.getD []
  else
    head ++ (match t.value with | some v => ':' :: v | none => []) ++
      (match t.cidr with | some c => '/' :: c | none => [])

end Term
end SenderPolicy
