import SenderPolicy.Text.Integer

/-!
Numerals with a point and an exponent, in the digits of every script. Only their form matters here.
-/
namespace SenderPolicy.Text

/-- Every low line has a digit on either side; the flag tells whether a digit stands before the text. -/
def hasGroupedDigits (afterDigit : Bool) : Text → Bool
  | [] => true
  | c :: r =>
    if c = '_' then afterDigit && (r.head?.any isDecimal && hasGroupedDigits false r)
    else hasGroupedDigits (isDecimal c) r

def withoutSign : Text → Text
  | '-' :: r => r
  | '+' :: r => r
  | t => t

def isExponent : Text → Bool
  | [] => true
  | c :: r =>
    let digits := withoutSign r
    c.toLower = 'e' && !digits.isEmpty && digits.all isDecimal

/-- Digits with a point among them or at either end, and an exponent. -/
def isPointed (t : Text) : Bool :=
  let whole := t.takeWhile isDecimal
  match t.dropWhile isDecimal with
  | '.' :: r =>
    !(whole ++ r.takeWhile isDecimal).isEmpty && isExponent (r.dropWhile isDecimal)
  | r => !whole.isEmpty && isExponent r

def namedNumerals : List Text := ["inf", "infinity", "nan"]

/-- A numeral has margins and a sign like an integer, and single low lines between its digits. -/
def isNumeral (t : Text) : Bool :=
  let body := trimmed isMargin t
  let unsigned := withoutSign (body.filter (· != '_'))
  hasGroupedDigits false body &&
    (namedNumerals.contains (unsigned.map Char.toLower) || isPointed unsigned)

end SenderPolicy.Text
