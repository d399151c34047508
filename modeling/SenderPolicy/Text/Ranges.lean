import SenderPolicy.Text.Basic

/-!
Classes of characters as ranges of code points.
-/
namespace SenderPolicy.Text

/-- Ranges of code points, both ends included. -/
abbrev Ranges := List (Nat × Nat)

def Ranges.covers (ranges : Ranges) (c : Char) : Bool :=
  ranges.any (fun (first, last) => first ≤ c.toNat && c.toNat ≤ last)

end SenderPolicy.Text
