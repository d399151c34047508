import SenderPolicy.Address.Ipv6
import SenderPolicy.Text.Blank

/-!
Addresses of either family. An address of the longer one may have a zone, and one that stands for an
address of the shorter family is read as that address.
-/
namespace SenderPolicy

inductive Address
  | v4 (bits : Ipv4.Bits)
  | v6 (bits : Ipv6.Bits) (zone : Option Text)
  deriving DecidableEq

namespace Address

def version : Address → Nat
  | .v4 _ => 4
  | .v6 _ _ => 6

def text : Address → Text
  | .v4 bits => Ipv4.text bits
  | .v6 bits none => Ipv6.text bits
  | .v6 bits (some zone) => Ipv6.text bits ++ '%' :: zone

def splitZone (t : Text) : Except AddressFault (Text × Option Text) :=
  match Text.cutAtFirst (· == '%') t with
  | (t, none) => .ok (t, none)
  | (bare, some zone) =>
    if zone.isEmpty || zone.contains '%' then .error (.zone t) else .ok (bare, some zone)

def read4 (t : Text) : Except AddressFault Address :=
  if t.contains '/' then .error (.slash t) else (Ipv4.read t).map .v4

def read6 (t : Text) : Except AddressFault Address := do
  if t.contains '/' then throw (.slash t)
  let (bare, zone) ← splitZone t
  return .v6 (← Ipv6.read bare) zone

def read? (t : Text) : Option Address :=
  match read4 t with
  | .ok a => some a
  | .error _ => (read6 t).toOption

def unmapped : Address → Address
  | .v4 bits => .v4 bits
  | .v6 bits zone =>
    match Ipv6.mapped? bits with
    | some short => .v4 short
    | none => .v6 bits zone

def parse? (t : Text) : Option Address := (read? (Text.trim t)).map unmapped

/-- The form with all digits. It is read off the address's text, where a zone has no place. -/
def fullText : Address → Except AddressFault Text
  | .v4 bits => .ok (Ipv4.text bits)
  | .v6 bits zone => (Ipv6.read (text (.v6 bits zone))).map Ipv6.fullText

end Address
end SenderPolicy
