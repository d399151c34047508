import SenderPolicy.Text.Quoted

/-!
Why a text is no address.
-/
namespace SenderPolicy

inductive AddressFault
  | empty
  | octetCount (text : Text)
  | octetEmpty
  | octetDigits (octet : Text)
  | octetLength (octet : Text)
  | octetZero (octet : Text)
  | octetRange (value : Nat)
  | slash (text : Text)
  | fewGroups (text : Text)
  | manyColons (text : Text)
  | manyGaps (text : Text)
  | leadingColon (text : Text)
  | trailingColon (text : Text)
  | emptyGap (text : Text)
  | groupCount (text : Text)
  | groupDigits (group : Text)
  | groupLength (group : Text)
  | zone (text : Text)
  | inside (fault : AddressFault) (text : Text)
  deriving DecidableEq

open Text in
def AddressFault.message : AddressFault → Text
  | .empty => "Address cannot be empty"
  | .octetCount t => phrase ["Expected 4 octets in ", quoted t]
  | .octetEmpty => "Empty octet not permitted"
  | .octetDigits t => phrase ["Only decimal digits permitted in ", quoted t]
  | .octetLength t => phrase ["At most 3 characters permitted in ", quoted t]
  | .octetZero t => phrase ["Leading zeros are not permitted in ", quoted t]
  | .octetRange n => phrase ["Octet ", decimal n, " (> 255) not permitted"]
  | .slash t => phrase ["Unexpected '/' in ", quoted t]
  | .fewGroups t => phrase ["At least 3 parts expected in ", quoted t]
  | .manyColons t => phrase ["At most 8 colons permitted in ", quoted t]
  | .manyGaps t => phrase ["At most one '::' permitted in ", quoted t]
  | .leadingColon t => phrase ["Leading ':' only permitted as part of '::' in ", quoted t]
  | .trailingColon t => phrase ["Trailing ':' only permitted as part of '::' in ", quoted t]
  | .emptyGap t => phrase ["Expected at most 7 other parts with '::' in ", quoted t]
  | .groupCount t => phrase ["Exactly 8 parts expected without '::' in ", quoted t]
  | .groupDigits t => phrase ["Only hex digits permitted in ", quoted t]
  | .groupLength t => phrase ["At most 4 characters permitted in ", quoted t]
  | .zone t => phrase ["Invalid IPv6 address: \"", quoted t, "\""]
  | .inside f t => phrase [f.message, " in ", quoted t]

def AddressFault.within {α : Type} (text : Text) : Except AddressFault α → Except AddressFault α
  | .ok a => .ok a
  | .error f => .error (.inside f text)

end SenderPolicy
