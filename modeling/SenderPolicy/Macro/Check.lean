import SenderPolicy.Macro

/-!
Checking a text for macros that are out of order. The check looks at each percent sign by itself and
tells the place of the first character that is wrong.
-/
namespace SenderPolicy.Macro

/-- A character that is out of place, or digits that cannot be read. -/
inductive Flaw
  | misplaced (position : Nat)
  | integer (fault : Text.IntegerFault)
  deriving DecidableEq

def isLetter (c : Char) : Bool :=
  ['s', 'l', 'o', 'd', 'i', 'p', 'h', 'c', 'r', 't', 'v'].contains c.toLower

def checkDigits (position : Nat) (digits : Text) : Except Flaw Unit :=
  if digits.isEmpty then .ok ()
  else
    match Text.readInteger digits with
    | .error f => .error (.integer f)
    | .ok n => if n = 0 then .error (.misplaced position) else .ok ()

def checkDelimiters (position : Nat) : Text → Except Flaw Unit
  | [] => .ok ()
  | c :: r =>
    if isDelimiter c then checkDelimiters (position + 1) r else .error (.misplaced position)

def checkBody (position : Nat) : Text → Except Flaw Unit
  | [] => .error (.misplaced (position - 2))
  | letter :: r => do
    if !isLetter letter then throw (.misplaced position)
    let digits := r.takeWhile Text.isDigit
    checkDigits (position + 1) digits
    let behind := r.dropWhile Text.isDigit
    let (flag, delimiters) := takeFlag behind
    checkDelimiters (position + 1 + digits.length + (if flag then 1 else 0)) delimiters

/-- Checks what follows a percent sign at the position; the answer counts the characters that belong to
it. -/
def checkPercent (position : Nat) : Text → Except Flaw Nat
  | [] => .error (.misplaced position)
  | c :: r =>
    if c = '%' ∨ c = '_' ∨ c = '-' then .ok 1
    else if c ≠ '{' then .error (.misplaced position)
    else
      match Text.cutAtFirst (· == '}') r with
      | (_, none) => .error (.misplaced position)
      | (body, some _) => (checkBody (position + 2) body).map (fun _ => body.length + 2)

def checkFrom (position : Nat) : Nat → Text → Except Flaw Unit
  | _, [] => .ok ()
  | n + 1, _ :: r => checkFrom (position + 1) n r
  | 0, c :: r =>
    if c = '%' then do
      let width ← checkPercent position r
      checkFrom (position + 1) width r
    else checkFrom (position + 1) 0 r

def check (t : Text) : Except Flaw Unit := checkFrom 0 0 t

def marked (marker : Text) (position : Nat) (t : Text) : Text :=
  t.take position ++ marker ++ t.drop position

def flawMessage (marker : Text) (position : Nat) (t : Text) : Text :=
  Text.phrase ["Invalid SPF macro syntax at position ", Text.decimal position, " (marked with ", marker,
    ") in value: ", marked marker position t]

end SenderPolicy.Macro
