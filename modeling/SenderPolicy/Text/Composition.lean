import SenderPolicy.Text.Composition.Table

/-!
The composed form of text: every character is decomposed, marks on one base are put in the order of
their classes, and pairs are composed again where a single character stands for them.
-/
namespace SenderPolicy.Text

/-- The class of a mark; zero for every character that is no mark. -/
def markClass (c : Char) : Nat :=
  match markClasses.find? (fun (first, last, _) => first ≤ c.toNat && c.toNat ≤ last) with
  | some (_, _, k) => k
  | none => 0

/-! Hangul syllables are counted off from a leading consonant, a vowel and a trailing consonant. -/

def syllableBase : Nat := 0xAC00
def leadBase : Nat := 0x1100
def vowelBase : Nat := 0x1161
def trailBase : Nat := 0x11A7
def leadCount : Nat := 19
def vowelCount : Nat := 21
def trailCount : Nat := 28

def splitSyllable? (n : Nat) : Option Text :=
  if syllableBase ≤ n ∧ n < syllableBase + leadCount * vowelCount * trailCount then
    let s := n - syllableBase
    let lead := leadBase + s / (vowelCount * trailCount)
    let vowel := vowelBase + s % (vowelCount * trailCount) / trailCount
    let trail := s % trailCount
    some ([Char.ofNat lead, Char.ofNat vowel] ++
      (if trail = 0 then [] else [Char.ofNat (trailBase + trail)]))
  else none

def joinSyllable? (a b : Nat) : Option Nat :=
  if leadBase ≤ a ∧ a < leadBase + leadCount ∧ vowelBase ≤ b ∧ b < vowelBase + vowelCount then
    some (syllableBase + ((a - leadBase) * vowelCount + (b - vowelBase)) * trailCount)
  else if syllableBase ≤ a ∧ a < syllableBase + leadCount * vowelCount * trailCount ∧
      (a - syllableBase) % trailCount = 0 ∧ trailBase < b ∧ b < trailBase + trailCount then
    some (a + (b - trailBase))
  else none

def split? (c : Char) : Option Text :=
  match splitSyllable? c.toNat with
  | some t => some t
  | none =>
    match (compositePairs ++ splitPairs).find? (fun (n, _, _) => n == c.toNat) with
    | some (_, a, b) => some [Char.ofNat a, Char.ofNat b]
    | none =>
      match singletons.find? (fun (n, _) => n == c.toNat) with
      | some (_, a) => some [Char.ofNat a]
      | none => none

def maxSplits : Nat := 3

def decomposed : Nat → Char → Text
  | 0, c => [c]
  | n + 1, c =>
    match split? c with
    | some t => t.flatMap (decomposed n)
    | none => [c]

def insertMark (c : Char) : Text → Text
  | [] => [c]
  | d :: r =>
    if markClass d ≠ 0 ∧ markClass d < markClass c then d :: insertMark c r else c :: d :: r

/-- Marks between two bases in the order of their classes; those of one class stay in order. -/
def markOrdered : Text → Text
  | [] => []
  | c :: r => if markClass c = 0 then c :: markOrdered r else insertMark c (markOrdered r)

def join? (a b : Char) : Option Char :=
  match joinSyllable? a.toNat b.toNat with
  | some n => some (Char.ofNat n)
  | none =>
    (compositePairs.find? (fun (_, x, y) => x == a.toNat && y == b.toNat)).map
      (fun (n, _, _) => Char.ofNat n)

/-- Composes onto the base; `marks` are those behind it that did not compose, the last one first. A
character composes only if no mark of its class or a higher one stands between. -/
def composeOnto (base : Char) (marks : Text) : Text → Text
  | [] => base :: marks.reverse
  | c :: r =>
    let free := match marks with
      | [] => true
      | m :: _ => markClass m < markClass c
    match (if free then join? base c else none) with
    | some joint => composeOnto joint marks r
    | none =>
      if markClass c = 0 then base :: marks.reverse ++ composeOnto c [] r
      else composeOnto base (c :: marks) r

/-- Marks before the first base stay as they are. -/
def compose : Text → Text
  | [] => []
  | c :: r => if markClass c = 0 then composeOnto c [] r else c :: compose r

/-- Below the first combining mark every text is composed. -/
def isPlain (c : Char) : Bool := c.toNat < 0x300

def composed (t : Text) : Text :=
  if t.all isPlain then t else compose (markOrdered (t.flatMap (decomposed maxSplits)))

end SenderPolicy.Text
