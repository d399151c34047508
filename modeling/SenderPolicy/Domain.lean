import SenderPolicy.Text.Blank
import SenderPolicy.Text.Case
import SenderPolicy.Text.Composition

/-!
Names of domains. Names that differ in case, in blanks or dots around them or in characters without
width are brought to one form.
-/
namespace SenderPolicy.Domain

def isZeroWidth (c : Char) : Bool :=
  (0x200B ≤ c.toNat && c.toNat ≤ 0x200D) || c.toNat == 0xFEFF

/-- Composed, without characters of no width, blanks around it and final dots, in lower case. -/
def normalized (name : Text) : Text :=
  let visible := (Text.composed name).filter (fun c => !isZeroWidth c)
  Text.lower (Text.dropTrailing (· == '.') (Text.trim visible))

def labels (name : Text) : List Text := Text.pieces (· == '.') name

def isWithin (domain name : Text) : Bool :=
  name == domain || Text.endsWith ('.' :: domain) name

end SenderPolicy.Domain
