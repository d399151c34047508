import SenderPolicy.Term
import SenderPolicy.Text.Word

/-!
The grammar of one term. A term begins with a qualifier or none and the name of a mechanism or modifier,
case ignored; a run of characters that may stand in values follows.
-/
namespace SenderPolicy.Audit

/-- What may or must stand behind a name. -/
inductive Link
  | optionalColon | equals | nothing
  deriving DecidableEq

def openings : List (Text × Link) := [
  ("mx", .optionalColon), ("ip4", .optionalColon), ("ip6", .optionalColon), ("exists", .optionalColon),
  ("include", .optionalColon), ("all", .nothing), ("a", .optionalColon), ("redirect", .equals),
  ("exp", .equals), ("ptr", .optionalColon)]

def behindName? : Text → Text → Option Text
  | [], t => some t
  | _ :: _, [] => none
  | n :: name, c :: t => if Text.folded c = n then behindName? name t else none

def behindLink? : Link → Text → Option Text
  | .optionalColon, ':' :: t => some t
  | .optionalColon, t => some t
  | .nothing, t => some t
  | .equals, '=' :: t => some t
  | .equals, _ => none

def behindOpening? (t : Text) (opening : Text × Link) : Option Text :=
  (behindName? opening.1 t).bind (behindLink? opening.2)

def behindModifier? (t : Text) : Option Text :=
  match t with
  | first :: _ =>
    if Text.isLatin first then behindLink? .equals (t.dropWhile Term.isNameCharacter) else none
  | [] => none

def behindFirst? (t : Text) : Option Text :=
  match openings.findSome? (behindOpening? t) with
  | some r => some r
  | none => behindModifier? t

def isValueCharacter (c : Char) : Bool :=
  Text.isWord c ||
    ['+', '/', '.', ':', '-', '{', '}', '%', ',', '='].contains c

inductive Expected
  | term | ending
  deriving DecidableEq

def Expected.name : Expected → Text
  | .term => "term"
  | .ending => "end_of_statement"

/-- The first place at which a text departs from the grammar, and what was expected there. -/
def departure? (t : Text) : Option (Expected × Nat) :=
  match behindFirst? (Qualifier.take t).2 with
  | none => some (.term, 0)
  | some rest =>
    match rest.dropWhile isValueCharacter with
    | [] => none
    | behind => some (.ending, t.length - behind.length)

end SenderPolicy.Audit
