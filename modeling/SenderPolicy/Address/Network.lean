import SenderPolicy.Address
import SenderPolicy.Text.Integer

/-!
Networks: the addresses that share their first bits with a given one.
-/
namespace SenderPolicy

inductive Network
  | v4 (bits : Ipv4.Bits) (length : Nat)
  | v6 (bits : Ipv6.Bits) (length : Nat)
  deriving DecidableEq

namespace Network

def readLength? (most : Nat) (t : Text) : Option Nat :=
  if !t.isEmpty && t.all Char.isDigit && t.length ≤ Text.maxDigits && Ipv4.readDigits t ≤ most then
    some (Ipv4.readDigits t)
  else none

def mask (length : Nat) : Nat := Nat.pow 2 32 - Nat.pow 2 (32 - length)

/-- The length that a mask stands for: its ones come first, or, failing that, its zeros. -/
def maskLength? (bits : Ipv4.Bits) : Option Nat :=
  match (List.range 33).find? (fun n => mask n == bits.toNat) with
  | some n => some n
  | none => (List.range 33).find? (fun n => mask n == Nat.pow 2 32 - 1 - bits.toNat)

def readLength4? (t : Text) : Option Nat :=
  match readLength? 32 t with
  | some n => some n
  | none => (Ipv4.read t).toOption.bind maskLength?

def read? (t : Text) : Option Network :=
  match Text.cutAtFirst (· == '/') t with
  | (host, none) =>
    match Address.read? host with
    | some (.v4 bits) => some (.v4 bits 32)
    | some (.v6 bits _) => some (.v6 bits 128)
    | none => none
  | (host, some length) =>
    match Address.read? host with
    | some (.v4 bits) => (readLength4? length).map (.v4 bits)
    | some (.v6 bits _) => (readLength? 128 length).map (.v6 bits)
    | none => none

/-- A network within the block of addresses that stand for shorter ones is a network of those. -/
def unmapped : Network → Network
  | .v4 bits length => .v4 bits length
  | .v6 bits length =>
    match Ipv6.mapped? bits with
    | some short => if 96 ≤ length then .v4 short (length - 96) else .v6 bits length
    | none => .v6 bits length

def contains : Network → Address → Bool
  | .v4 bits length, .v4 a => bits.toNat / Nat.pow 2 (32 - length) == a.toNat / Nat.pow 2 (32 - length)
  | .v6 bits length, .v6 a _ => bits.toNat / Nat.pow 2 (128 - length) == a.toNat / Nat.pow 2 (128 - length)
  | _, _ => false

def parse? (t : Text) : Option Network := (read? (Text.trim t)).map unmapped

end Network

/-- Is the address in the network? No, if either text is malformed. -/
def Address.matchesNetwork (address network : Text) : Bool :=
  match Address.parse? address, Network.parse? network with
  | some a, some n => n.contains a
  | _, _ => false

end SenderPolicy
