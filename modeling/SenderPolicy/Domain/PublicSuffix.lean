import SenderPolicy.Domain

/-!
Public suffixes: the names below which anyone may register a name. Which these are, a list of rules tells, which
is handed in. The base domain of a name is its public suffix with one more label.
-/
namespace SenderPolicy.Domain

/-- A rule names a suffix, all names right below one, or a name that such a rule does not concern. -/
inductive SuffixRule
  | itself (suffix : List Text)
  | below (suffix : List Text)
  | exempt (suffix : List Text)
  deriving DecidableEq

/-- The number of labels that the rules for this suffix make public; `more` tells whether the name has
labels in front of it. -/
def ruledLength? (rules : List SuffixRule) (suffix : List Text) (more : Bool) : Option Nat :=
  if rules.contains (.exempt suffix) then some (suffix.length - 1)
  else if rules.contains (.below suffix) then some (if more then suffix.length + 1 else suffix.length)
  else if rules.contains (.itself suffix) then some suffix.length
  else none

/-- The longest suffix that a rule concerns decides; without one the last label is public. -/
def publicLengthFrom (rules : List SuffixRule) (more : Bool) : List Text → Nat
  | [] => 1
  | label :: rest =>
    match ruledLength? rules (label :: rest) more with
    | some n => n
    | none => publicLengthFrom rules true rest

def publicLength (rules : List SuffixRule) (labels : List Text) : Nat :=
  if labels.length = 1 then 1 else publicLengthFrom rules false labels

def privateSuffix? (rules : List SuffixRule) (name : Text) : Option Text :=
  let name := if name.getLast? = some '.' then name.dropLast else name
  let all := labels name
  if all.contains [] then none
  else
    let publicLabels := publicLength rules all
    if all.length ≤ publicLabels then none
    else some (Text.joined ['.'] (all.drop (all.length - (publicLabels + 1))))

/-- The base domain of a name; a name without one is its own. -/
def base (rules : List SuffixRule) (name : Text) : Text :=
  let name := normalized name
  match privateSuffix? rules name with
  | some [] => name
  | some suffix => suffix
  | none => name

end SenderPolicy.Domain
