import SenderPolicy.Text.Basic

/-!
The bytes of text: their number, how they are read back, and how they are written in addresses of the
web.
-/
namespace SenderPolicy.Text

def bytes (t : Text) : List UInt8 := t.flatMap String.utf8EncodeChar

def byteLength (t : Text) : Nat := t.foldl (fun n c => n + c.utf8Size) 0

/-- What a reader of bytes waits for: the value so far, how many more bytes, and the range that the next
byte must lie in. -/
structure Awaited where
  value : Nat
  more : Nat
  least : Nat
  greatest : Nat

def replacement : Char := '\uFFFD'

/-- The characters a byte completes as the first of a character, and what it makes the reader wait for. -/
def firstByte (b : Nat) : Text × Option Awaited :=
  if b < 0x80 then ([Char.ofNat b], none)
  else if 0xC2 ≤ b ∧ b ≤ 0xDF then ([], some ⟨b - 0xC0, 1, 0x80, 0xBF⟩)
  else if 0xE0 ≤ b ∧ b ≤ 0xEF then
    ([], some ⟨b - 0xE0, 2, if b = 0xE0 then 0xA0 else 0x80, if b = 0xED then 0x9F else 0xBF⟩)
  else if 0xF0 ≤ b ∧ b ≤ 0xF4 then
    ([], some ⟨b - 0xF0, 3, if b = 0xF0 then 0x90 else 0x80, if b = 0xF4 then 0x8F else 0xBF⟩)
  else ([replacement], none)

def nextByte (awaited : Option Awaited) (b : Nat) : Text × Option Awaited :=
  match awaited with
  | none => firstByte b
  | some w =>
    if w.least ≤ b ∧ b ≤ w.greatest then
      let value := w.value * 64 + (b - 0x80)
      if w.more ≤ 1 then ([Char.ofNat value], none)
      else ([], some ⟨value, w.more - 1, 0x80, 0xBF⟩)
    else
      let (t, next) := firstByte b
      (replacement :: t, next)

def readBytes (awaited : Option Awaited) : List UInt8 → Text
  | [] => if awaited.isSome then [replacement] else []
  | b :: r =>
    let (t, next) := nextByte awaited b.toNat
    t ++ readBytes next r

/-- Reads bytes as text; each longest beginning of a character that is not completed, and each byte that
begins none, is read as the replacement character. -/
def ofBytes (bs : List UInt8) : Text := readBytes none bs

def isUnreserved (c : Char) : Bool :=
  c.isAlphanum || c == '_' || c == '.' || c == '-' || c == '~'

def percentByte (b : UInt8) : Text :=
  '%' :: (hexadecimal 2 b.toNat).map Char.toUpper

def percentEncoded (t : Text) : Text :=
  t.flatMap (fun c => if isUnreserved c then [c] else (String.utf8EncodeChar c).flatMap percentByte)

end SenderPolicy.Text
