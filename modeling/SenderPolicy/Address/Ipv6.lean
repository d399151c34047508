import SenderPolicy.Address.Ipv4

/-!
Addresses of 128 bits and their text: eight hexadecimal groups, of which one run of zeros may be left
out. The printer leaves out the longest run of two or more, and of several the first.
-/
namespace SenderPolicy.Ipv6

abbrev Bits := BitVec 128

def ofGroups (groups : List Nat) : Bits :=
  BitVec.ofNat 128 (groups.foldl (fun n g => 65536 * n + g) 0)

def groups (bits : Bits) : List Nat :=
  [7, 6, 5, 4, 3, 2, 1, 0].map (fun k => bits.toNat / Nat.pow 65536 k % 65536)

def zeroRun : List Nat → Nat
  | 0 :: r => zeroRun r + 1
  | _ => 0

def longestRun (groups : List Nat) : Nat :=
  (List.range groups.length).foldl
    (fun best i => if zeroRun (groups.drop best) < zeroRun (groups.drop i) then i else best) 0

def groupsText (groups : List Nat) : Text :=
  Text.joined [':'] (groups.map (Nat.toDigits 16))

def text (bits : Bits) : Text :=
  let all := groups bits
  let start := longestRun all
  let width := zeroRun (all.drop start)
  if 1 < width then
    groupsText (all.take start) ++ [':', ':'] ++ groupsText (all.drop (start + width))
  else groupsText all

def fullText (bits : Bits) : Text :=
  Text.joined [':'] ((groups bits).map (Text.hexadecimal 4))

def digitValue? (c : Char) : Option Nat :=
  if c.isDigit then some (c.toNat - '0'.toNat)
  else if 'a' ≤ c ∧ c ≤ 'f' then some (c.toNat - 'a'.toNat + 10)
  else if 'A' ≤ c ∧ c ≤ 'F' then some (c.toNat - 'A'.toNat + 10)
  else none

def readGroup (t : Text) : Except AddressFault Nat :=
  match t.mapM digitValue? with
  | none => .error (.groupDigits t)
  | some digits =>
    if 4 < t.length then .error (.groupLength t)
    else .ok (digits.foldl (fun n d => 16 * n + d) 0)

/-- A dotted last part stands for the last two groups. -/
def expandTail (t : Text) (parts : List Text) : Except AddressFault (List Text) :=
  match parts.getLast? with
  | some last =>
    if last.contains '.' then do
      let bits ← AddressFault.within t (Ipv4.read last)
      return parts.dropLast ++
        [Nat.toDigits 16 (bits.toNat / 65536), Nat.toDigits 16 (bits.toNat % 65536)]
    else return parts
  | none => return parts

/-- The places of empty parts that have parts on both sides. -/
def gaps (parts : List Text) : List Nat :=
  (List.range parts.length).filter
    (fun i => 0 < i && i + 1 < parts.length && parts[i]? == some [])

/-- The parts on one side of the gap; the outermost may be empty only if it stands alone. -/
def besideGap (outermost : Option Text) (fault : AddressFault) (parts : List Text) :
    Except AddressFault (List Text) :=
  if outermost = some [] then (if parts.length = 1 then .ok [] else .error fault) else .ok parts

def read (t : Text) : Except AddressFault Bits := do
  if t.isEmpty then throw .empty
  let parts := Text.pieces (· == ':') t
  if parts.length < 3 then throw (.fewGroups t)
  let parts ← expandTail t parts
  if 9 < parts.length then throw (.manyColons t)
  match gaps parts with
  | [] =>
    if parts.length ≠ 8 then throw (.groupCount t)
    if parts.head? = some [] then throw (.leadingColon t)
    if parts.getLast? = some [] then throw (.trailingColon t)
    let all ← AddressFault.within t (parts.mapM readGroup)
    return ofGroups all
  | [gap] =>
    let high ← besideGap parts.head? (.leadingColon t) (parts.take gap)
    let low ← besideGap parts.getLast? (.trailingColon t) (parts.drop (gap + 1))
    if 8 ≤ high.length + low.length then throw (.emptyGap t)
    let high ← AddressFault.within t (high.mapM readGroup)
    let low ← AddressFault.within t (low.mapM readGroup)
    return ofGroups (high ++ List.replicate (8 - (high.length + low.length)) 0 ++ low)
  | _ => throw (.manyGaps t)

def mapped? (bits : Bits) : Option Ipv4.Bits :=
  if bits.toNat / 0x100000000 = 0xFFFF then some (BitVec.ofNat 32 (bits.toNat % 0x100000000)) else none

end SenderPolicy.Ipv6
