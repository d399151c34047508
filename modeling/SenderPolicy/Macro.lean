import SenderPolicy.Text.Case
import SenderPolicy.Text.Integer

/-!
Macros in a text, found from left to right. A percent sign that begins no macro is a character like any
other.
-/
namespace SenderPolicy

/-- A macro in braces. The value of its letter is split at the delimiters; of the parts, reversed if the
flag is given, as many as the digits say are kept. -/
structure Macro where
  letter : Char
  digits : Text
  isReversed : Bool
  delimiters : Text
  deriving DecidableEq

namespace Macro

inductive Piece
  | character (c : Char)
  | percent
  | space
  | encodedSpace
  | expansion (m : Macro)
  deriving DecidableEq

def isDelimiter (c : Char) : Bool := ['.', '-', '+', ',', '/', '_', '='].contains c

def takeFlag : Text → Bool × Text
  | 'r' :: rest => (true, rest)
  | 'R' :: rest => (true, rest)
  | rest => (false, rest)

/-- Reads the inside of the braces, and the brace that closes them. The number counts the characters
read. -/
def body? : Text → Option (Macro × Nat)
  | [] => none
  | letter :: r =>
    if Text.isLatin letter then
      let digits := r.takeWhile Text.isDecimal
      let (isReversed, rest) := takeFlag (r.dropWhile Text.isDecimal)
      let delimiters := rest.takeWhile isDelimiter
      match rest.dropWhile isDelimiter with
      | '}' :: behind =>
        some (⟨letter, digits, isReversed, delimiters⟩, (letter :: r).length - behind.length)
      | _ => none
    else none

def front? : Text → Option (Piece × Nat)
  | '%' :: '%' :: _ => some (.percent, 2)
  | '%' :: '_' :: _ => some (.space, 2)
  | '%' :: '-' :: _ => some (.encodedSpace, 2)
  | '%' :: '{' :: r => (body? r).map (fun (m, n) => (.expansion m, n + 2))
  | _ => none

def scanFrom : Nat → Text → List Piece
  | _, [] => []
  | n + 1, _ :: r => scanFrom n r
  | 0, c :: r =>
    match front? (c :: r) with
    | some (piece, width) => piece :: scanFrom (width - 1) r
    | none => .character c :: scanFrom 0 r

def scan (t : Text) : List Piece := scanFrom 0 t

end Macro
end SenderPolicy
