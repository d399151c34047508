import SenderPolicy.Address.Ipv6

/-!
The name under which an address is looked up in reverse. The reader of addresses here is the plain one of
name servers: it knows no zones, and of empty parts it allows one.
-/
namespace SenderPolicy.ReverseName

def readOctet? (t : Text) : Option Nat :=
  if !t.isEmpty && t.all Char.isDigit && (t.length == 1 || t.head? != some '0') &&
      Ipv4.readDigits t ≤ 255 then
    some (Ipv4.readDigits t)
  else none

def octets? (t : Text) : Option (List Nat) :=
  let parts := Text.pieces (· == '.') t
  if parts.length = 4 then parts.mapM readOctet? else none

def isDotted (t : Text) : Bool :=
  let parts := Text.pieces (· == '.') t
  parts.length == 4 && parts.all (fun p => !p.isEmpty && p.all Char.isDigit)

def withoutFinalNewline (t : Text) : Text :=
  if t.getLast? = some '\n' then t.dropLast else t

/-- A dotted tail behind the last colon is rewritten as two groups. -/
def expandTail? (t : Text) : Option Text :=
  match Text.cutAtLast ':' (withoutFinalNewline t) with
  | (some front, tail) =>
    if isDotted tail && !front.contains '\n' then
      match octets? tail with
      | some [a, b, c, d] =>
        some (front ++ ':' :: Text.hexadecimal 2 a ++ Text.hexadecimal 2 b ++
          ':' :: Text.hexadecimal 2 c ++ Text.hexadecimal 2 d)
      | _ => none
    else some t
  | (none, _) => some t

def dropOuterColon (t : Text) : Text :=
  if "::".toList.isPrefixOf t then t.drop 1
  else if "::".toList.isSuffixOf t then t.dropLast
  else t

/-- The groups, each padded to four digits; the empty part stands for those left out. -/
def padGroups? (left : Nat) : Bool → List Text → Option (List Text)
  | _, [] => some []
  | gapSeen, t :: rest =>
    if t.isEmpty then
      if gapSeen then none
      else (padGroups? left true rest).map (List.replicate left "0000".toList ++ ·)
    else if 4 < t.length then none
    else (padGroups? left gapSeen rest).map ((List.replicate (4 - t.length) '0' ++ t) :: ·)

def nibbles? (t : Text) : Option Text := do
  let loneColon := (t.head? = some ':' ∧ ¬ "::".toList.isPrefixOf t) ∨
    (t.getLast? = some ':' ∧ ¬ "::".toList.isSuffixOf t)
  if t.isEmpty ∨ loneColon then none
  let t := if t = "::".toList then "0::".toList else t
  let t ← expandTail? t
  let chunks := Text.pieces (· == ':') (dropOuterColon t)
  if 8 < chunks.length then none
  if chunks.length < 8 ∧ ¬ chunks.contains [] then none
  let digits := (← padGroups? (9 - chunks.length) false chunks).flatten
  if digits.all (fun c => (Ipv6.digitValue? c).isSome) then some (digits.map Char.toLower) else none

def mappedOctets? (nibbles : Text) : Option (List Nat) :=
  if (List.replicate 20 '0' ++ List.replicate 4 'f').isPrefixOf nibbles then
    let values := (nibbles.drop 24).map (fun c => (Ipv6.digitValue? c).getD 0)
    match values with
    | [a, b, c, d, e, f, g, h] => some [16 * a + b, 16 * c + d, 16 * e + f, 16 * g + h]
    | _ => none
  else none

def ofOctets (octets : List Nat) : Text :=
  Text.joined ['.'] (octets.reverse.map Text.decimal) ++ ".in-addr.arpa."

def ofNibbles (nibbles : Text) : Text :=
  Text.joined ['.'] (nibbles.reverse.map (fun c => [c])) ++ ".ip6.arpa."

def ofAddress? (t : Text) : Option Text :=
  match nibbles? t with
  | some nibbles =>
    match mappedOctets? nibbles with
    | some octets => some (ofOctets octets)
    | none => some (ofNibbles nibbles)
  | none => (octets? t).map ofOctets

end SenderPolicy.ReverseName
