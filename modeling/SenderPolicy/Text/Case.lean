import SenderPolicy.Text.Case.Table

/-!
Lower case. Each letter is lowered on its own, but for the capital sigma, which at the end of a word
becomes a final sigma, and for the capital I with a dot, which becomes two characters.
-/
namespace SenderPolicy.Text

def isCased (c : Char) : Bool := casedRanges.covers c

def isIgnorable (c : Char) : Bool := ignorableRanges.covers c

def lowerLetter (c : Char) : Char :=
  if c.toNat < 128 then c.toLower
  else match lowerRuns.findSome? (·.image? c.toNat) with
    | some n => Char.ofNat n
    | none => c

/-- Is the first character that casing does not ignore a cased one? -/
def beginsCased : Text → Bool
  | [] => false
  | c :: r => if isIgnorable c then beginsCased r else isCased c

def lowerForm (afterCased : Bool) (c : Char) (rest : Text) : Text :=
  if c = 'Σ' then (if afterCased && !beginsCased rest then ['ς'] else ['σ'])
  else if c = 'İ' then ['i', '\u0307']
  else [lowerLetter c]

def lowerFrom (afterCased : Bool) : Text → Text
  | [] => []
  | c :: r =>
    lowerForm afterCased c r ++ lowerFrom (if isIgnorable c then afterCased else isCased c) r

def lower (t : Text) : Text := lowerFrom false t

/-- The Latin letter that a character stands for where case is ignored: besides the capitals, the dotted
capital and the dotless small I, the long S and the Kelvin sign. -/
def folded (c : Char) : Char :=
  if c = 'İ' ∨ c = 'ı' then 'i'
  else if c = 'ſ' then 's'
  else if c = '\u212A' then 'k'
  else c.toLower

def isLatin (c : Char) : Bool := (folded c).isLower

/-- Is the letter a capital one? Meant for the characters of `isLatin`. -/
def isCapital (c : Char) : Bool := c.isUpper || c == 'İ' || c == '\u212A'

end SenderPolicy.Text
