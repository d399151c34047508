import SenderPolicy.Macro
import SenderPolicy.Address
import SenderPolicy.Fault
import SenderPolicy.Text.Bytes

/-!
Expanding macros. What is put in for a macro is not looked at again.
-/
namespace SenderPolicy.Macro

structure Context where
  domain : Text
  ip : Text
  sender : Option Text := none
  helo : Option Text := none
  receiver : Text := "unknown"
  now : Int

namespace Context

/-- The sender; without one, the postmaster of the domain. -/
def senderText (c : Context) : Text :=
  match c.sender with
  | none | some [] => "postmaster@" ++ c.domain
  | some s => s

/-- What stands before the last at sign of the sender, or else the postmaster. -/
def localPart (c : Context) : Text :=
  match (Text.cutAtLast '@' c.senderText).1 with
  | none | some [] => "postmaster"
  | some t => t

def senderDomain (c : Context) : Text :=
  match (Text.cutAtLast '@' c.senderText).2 with
  | [] => c.domain
  | t => t

def heloName (c : Context) : Text :=
  match c.helo with
  | none | some [] => c.domain
  | some t => t

/-- The address with a dot between octets, or between the hexadecimal digits. -/
def dottedAddress : Address → Except Fault Text
  | .v4 bits => .ok (Ipv4.text bits)
  | .v6 bits zone =>
    match (Address.v6 bits zone).fullText with
    | .ok t => .ok (Text.joined ['.'] ((t.filter (· != ':')).map (fun c => [c])))
    | .error f => .error (.address f)

def addressValue (address : Address) (letter : Char) : Except Fault Text :=
  match letter with
  | 'i' => dottedAddress address
  | 'c' => .ok address.text
  | 'v' => .ok (match address with | .v4 _ => "in-addr" | .v6 _ _ => "ip6")
  | _ => .ok []

/-- What the letter stands for; the letters of the address, and all that have no meaning, stand for the
given text where that is no address. -/
def letterValue (c : Context) (letter : Char) : Except Fault Text :=
  match letter.toLower with
  | 's' => .ok (c.localPart ++ '@' :: c.senderDomain)
  | 'l' => .ok c.localPart
  | 'o' => .ok c.senderDomain
  | 'd' => .ok c.domain
  | 'h' => .ok c.heloName
  | 'p' => .ok "unknown"
  | 'r' => .ok c.receiver
  | 't' => .ok (Text.signedDecimal c.now)
  | other =>
    match Address.parse? c.ip with
    | none => .ok c.ip
    | some address => addressValue address other

end Context

def lastParts (digits : Text) (parts : List Text) : Except Fault (List Text) :=
  if digits.isEmpty then .ok parts
  else
    match Text.readInteger digits with
    | .error f => .error (.integer f)
    | .ok n => .ok (if 0 < n then parts.drop (parts.length - n.toNat) else parts)

/-- The value, split, reversed, cut and joined as the macro says; a capital letter asks for the form that
an address of the web takes. -/
def transformed (m : Macro) (value : Text) : Except Fault Text := do
  let delimiters := if m.delimiters.isEmpty then ['.'] else m.delimiters
  let parts := Text.pieces (fun c => delimiters.contains c) value
  let parts ← lastParts m.digits (if m.isReversed then parts.reverse else parts)
  let value := Text.joined ['.'] parts
  return if Text.isCapital m.letter then Text.percentEncoded value else value

def expandPiece (c : Context) : Piece → Except Fault Text
  | .character x => .ok [x]
  | .percent => .ok ['%']
  | .space => .ok [' ']
  | .encodedSpace => .ok "%20"
  | .expansion m => do
    let value ← c.letterValue m.letter
    transformed m value

def expandPieces (c : Context) : List Piece → Except Fault Text
  | [] => .ok []
  | p :: rest => do
    let t ← expandPiece c p
    let u ← expandPieces c rest
    return t ++ u

def expand (c : Context) (template : Text) : Except Fault Text := expandPieces c (scan template)

end SenderPolicy.Macro
