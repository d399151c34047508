import SenderPolicy.Address.Fault

/-!
Addresses of 32 bits and their dotted form: four decimal octets without leading zeros.
-/
namespace SenderPolicy.Ipv4

abbrev Bits := BitVec 32

def ofOctets (octets : List Nat) : Bits :=
  BitVec.ofNat 32 (octets.foldl (fun n o => 256 * n + o) 0)

def octets (bits : Bits) : List Nat :=
  [bits.toNat / 16777216 % 256, bits.toNat / 65536 % 256, bits.toNat / 256 % 256, bits.toNat % 256]

def text (bits : Bits) : Text := Text.joined ['.'] ((octets bits).map Text.decimal)

def readDigits (t : Text) : Nat := t.foldl (fun n c => 10 * n + (c.toNat - '0'.toNat)) 0

def readOctet (t : Text) : Except AddressFault Nat :=
  if t.isEmpty then .error .octetEmpty
  else if !t.all Char.isDigit then .error (.octetDigits t)
  else if 3 < t.length then .error (.octetLength t)
  else if t ≠ ['0'] ∧ t.head? = some '0' then .error (.octetZero t)
  else if 255 < readDigits t then .error (.octetRange (readDigits t))
  else .ok (readDigits t)

def read (t : Text) : Except AddressFault Bits :=
  if t.isEmpty then .error .empty
  else
    let parts := Text.pieces (· == '.') t
    if parts.length ≠ 4 then .error (.octetCount t)
    else (AddressFault.within t (parts.mapM readOctet)).map ofOctets

end SenderPolicy.Ipv4
