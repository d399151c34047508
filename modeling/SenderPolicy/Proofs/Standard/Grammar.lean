import SenderPolicy.Proofs.Audit.Prefixes

/-!
The grammar of records as the standard has it (RFC 7208 § 12), production by production. Names and letters are
written in either case. A term is kept with its parts, and a text is derived with the list of its terms.
-/
namespace SenderPolicy.Standard
open Text

/-! Macros -/

/-- A visible character other than the percent sign. -/
def IsLiteral (c : Char) : Prop := 0x21 ≤ c.toNat ∧ c.toNat ≤ 0x7E ∧ c ≠ '%'

/-- A macro. If there are digits, they mean a number other than zero. -/
inductive IsMacro : Text → Prop
  | escape {c} : c = '%' ∨ c = '_' ∨ c = '-' → IsMacro ['%', c]
  | expansion {letter digits flag delimiters} : letter.toLower ∈ "slodiphcrtv".toList →
      (∀ c ∈ digits, c.isDigit = true) → (digits ≠ [] → ∃ c ∈ digits, c ≠ '0') →
      (flag = [] ∨ flag = ['r'] ∨ flag = ['R']) → (∀ c ∈ delimiters, c ∈ ".-+,/_=".toList) →
      IsMacro ('%' :: '{' :: letter :: (digits ++ (flag ++ (delimiters ++ ['}']))))

inductive IsMacroString : Text → Prop
  | nil : IsMacroString []
  | literal {c rest} : IsLiteral c → IsMacroString rest → IsMacroString (c :: rest)
  | expanded {m rest} : IsMacro m → IsMacroString rest → IsMacroString (m ++ rest)

/-! Domain names -/

/-- The last label of a name: it has a letter, or a hyphen that stands neither first nor last. -/
inductive IsTopLabel : Text → Prop
  | lettered {x c y} : (∀ d ∈ x, d.isAlphanum = true) → c.isAlpha = true → (∀ d ∈ y, d.isAlphanum = true) →
      IsTopLabel (x ++ c :: y)
  | hyphened {x y c} : x ≠ [] → (∀ d ∈ x, d.isAlphanum = true) → (∀ d ∈ y, d.isAlphanum = true ∨ d = '-') →
      c.isAlphanum = true → IsTopLabel (x ++ '-' :: (y ++ [c]))

inductive IsDomainEnd : Text → Prop
  | label {l} : IsTopLabel l → IsDomainEnd ('.' :: l)
  | dotted {l} : IsTopLabel l → IsDomainEnd ('.' :: (l ++ ['.']))
  | expanded {m} : IsMacro m → IsDomainEnd m

def IsDomainSpec (t : Text) : Prop := ∃ front ending, t = front ++ ending ∧ IsMacroString front ∧ IsDomainEnd ending

/-! Networks -/

def IsDottedQuad (t : Text) : Prop :=
  ∃ a < 256, ∃ b < 256, ∃ c < 256, ∃ d < 256, t = joined ['.'] [decimal a, decimal b, decimal c, decimal d]

def IsHexDigit (c : Char) : Prop := c.isDigit = true ∨ c.toLower ∈ "abcdef".toList

def IsGroup (t : Text) : Prop := t ≠ [] ∧ t.length ≤ 4 ∧ ∀ c ∈ t, IsHexDigit c

/-- Parts that stand for so many groups. The last one may be dotted; it stands for two. -/
inductive Spans : List Text → Nat → Prop
  | nil : Spans [] 0
  | group {g rest n} : IsGroup g → Spans rest n → Spans (g :: rest) (n + 1)
  | quad {q} : IsDottedQuad q → Spans [q] 2

/-- An address of eight groups (RFC 4291 § 2.2), of which two colons may stand for one or more. -/
inductive IsIp6Network : Text → Prop
  | full {parts} : Spans parts 8 → IsIp6Network (joined [':'] parts)
  | gap {high low n} : (∀ g ∈ high, IsGroup g) → Spans low n → high.length + n ≤ 7 →
      IsIp6Network (joined [':'] high ++ ':' :: ':' :: joined [':'] low)

/-! Prefix lengths -/

inductive IsLength (most : Nat) : Text → Prop
  | absent : IsLength most []
  | present {n} : n ≤ most → IsLength most ('/' :: decimal n)

inductive IsDualLength : Text → Prop
  | absent : IsDualLength []
  | present {cidr} : Audit.IsDual (Audit.IsPrefixLength 32) (Audit.IsPrefixLength 128) cidr → IsDualLength ('/' :: cidr)

/-! Terms -/

/-- A term as it is written: a qualifier or none, a name, the value behind a mark, and prefix lengths. -/
structure Written where
  kind : Kind
  sign : Option Qualifier := none
  name : Text
  value : Option Text := none
  lengths : Text := []

namespace Written

def tail (w : Written) : Text :=
  (match w.value with | some v => (if w.kind.isModifier then '=' else ':') :: v | none => []) ++ w.lengths

def text (w : Written) : Text := (w.sign.map Qualifier.symbol).toList ++ (w.name ++ w.tail)

end Written

/-- The word in either case. -/
def IsNamed (word : String) (name : Text) : Prop := name.map Char.toLower = word.toList

/-- The name of a modifier that is not known. -/
structure IsOtherName (name : Text) : Prop where
  first : ∃ c rest, name = c :: rest ∧ c.isAlpha = true
  characters : ∀ c ∈ name, c.isAlphanum = true ∨ c = '-' ∨ c = '_' ∨ c = '.'
  unknown : ¬ IsNamed "redirect" name ∧ ¬ IsNamed "exp" name

/-- The directives and modifiers. The standard has a domain name for the explanation; any macro string that is not empty
is one here. -/
inductive Derived : Written → Prop
  | all {sign name} : IsNamed "all" name → Derived { kind := .all, sign, name }
  | inclusion {sign name spec} : IsNamed "include" name → IsDomainSpec spec →
      Derived { kind := .inclusion, sign, name, value := some spec }
  | a {sign name value lengths} : IsNamed "a" name → (∀ spec, value = some spec → IsDomainSpec spec) →
      IsDualLength lengths → Derived { kind := .a, sign, name, value, lengths }
  | mx {sign name value lengths} : IsNamed "mx" name → (∀ spec, value = some spec → IsDomainSpec spec) →
      IsDualLength lengths → Derived { kind := .mx, sign, name, value, lengths }
  | ptr {sign name value} : IsNamed "ptr" name → (∀ spec, value = some spec → IsDomainSpec spec) →
      Derived { kind := .ptr, sign, name, value }
  | ip4 {sign name network lengths} : IsNamed "ip4" name → IsDottedQuad network → IsLength 32 lengths →
      Derived { kind := .ip4, sign, name, value := some network, lengths }
  | ip6 {sign name network lengths} : IsNamed "ip6" name → IsIp6Network network → IsLength 128 lengths →
      Derived { kind := .ip6, sign, name, value := some network, lengths }
  | existence {sign name spec} : IsNamed "exists" name → IsDomainSpec spec →
      Derived { kind := .existence, sign, name, value := some spec }
  | redirect {name spec} : IsNamed "redirect" name → IsDomainSpec spec →
      Derived { kind := .redirect, name, value := some spec }
  | explanation {name spec} : IsNamed "exp" name → IsMacroString spec → spec ≠ [] →
      Derived { kind := .exp, name, value := some spec }
  | other {name spec} : IsOtherName name → IsMacroString spec →
      Derived { kind := .unknownModifier, name, value := some spec }

/-- What stands behind the version: terms with spaces in front of each, and spaces at the end. -/
inductive IsTerms : List Written → Text → Prop
  | ending {n} : IsTerms [] (List.replicate n ' ')
  | term {n w ws rest} : Derived w → IsTerms ws rest →
      IsTerms (w :: ws) (List.replicate (n + 1) ' ' ++ (w.text ++ rest))

end SenderPolicy.Standard
