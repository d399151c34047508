/-!
Text is the list of its characters: every rule about text is then a recursion on a list. Here are the
cuts, joins and numerals that all other modules share.
-/
namespace SenderPolicy

abbrev Text := List Char

namespace Text

instance : Coe String Text := ⟨String.toList⟩

def phrase (parts : List Text) : Text := parts.flatten

def joined (separator : Text) : List Text → Text
  | [] => []
  | [t] => t
  | t :: u :: rest => t ++ separator ++ joined separator (u :: rest)

/-- Cuts at every character of the class; the result has one part more than there are cuts. -/
def pieces (cuts : Char → Bool) : Text → List Text
  | [] => [[]]
  | c :: r =>
    if cuts c then [] :: pieces cuts r
    else match pieces cuts r with
      | [] => [[c]]
      | t :: rest => (c :: t) :: rest

def cutAtFirst (cuts : Char → Bool) (t : Text) : Text × Option Text :=
  match t.dropWhile (fun c => !cuts c) with
  | [] => (t, none)
  | _ :: rest => (t.takeWhile (fun c => !cuts c), some rest)

/-- The text before the last such character, if there is one, and the text after it. -/
def cutAtLast (mark : Char) (t : Text) : Option Text × Text :=
  match cutAtFirst (· == mark) t.reverse with
  | (_, none) => (none, t)
  | (after, some before) => (some before.reverse, after.reverse)

def dropTrailing (drops : Char → Bool) (t : Text) : Text :=
  (t.reverse.dropWhile drops).reverse

def trimmed (drops : Char → Bool) (t : Text) : Text :=
  dropTrailing drops (t.dropWhile drops)

def endsWith (ending t : Text) : Bool := ending.isSuffixOf t

def decimal (n : Nat) : Text := Nat.toDigits 10 n

def signedDecimal : Int → Text
  | .ofNat n => decimal n
  | .negSucc n => '-' :: decimal (n + 1)

/-- Lower-case hexadecimal digits, with zeros in front up to the width. -/
def hexadecimal (width n : Nat) : Text :=
  let digits := Nat.toDigits 16 n
  List.replicate (width - digits.length) '0' ++ digits

def precedes (t u : Text) : Bool := decide (t < u)

theorem pieces_ne_nil (cuts : Char → Bool) (t : Text) : pieces cuts t ≠ [] := by
  induction t with
  | nil => simp [pieces]
  | cons c r ih =>
    simp only [pieces]
    split
    · simp
    · split <;> simp

end Text
end SenderPolicy
