import SenderPolicy.Text.Ranges

/-!
Blank characters: the white space of every script and the four separators of ASCII. Words are what
stands between them.
-/
namespace SenderPolicy.Text

def blankRanges : Ranges := [
  (0x9, 0xD), (0x1C, 0x20), (0x85, 0x85), (0xA0, 0xA0), (0x1680, 0x1680), (0x2000, 0x200A),
  (0x2028, 0x2029), (0x202F, 0x202F), (0x205F, 0x205F), (0x3000, 0x3000)]

def isBlank (c : Char) : Bool := blankRanges.covers c

def trim (t : Text) : Text := trimmed isBlank t

def words (t : Text) : List Text := (pieces isBlank t).filter (fun w => !w.isEmpty)

end SenderPolicy.Text
