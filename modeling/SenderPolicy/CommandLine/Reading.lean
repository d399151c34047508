import SenderPolicy.CommandLine.Usage
import SenderPolicy.Text.Integer

/-!
Reading a command line. Each argument is first looked at by itself: it is a switch, perhaps with a value
attached, or it is plain. Then switches and operands take their values from left to right. The first
argument `--` ends the switches: all that follow it are plain. As a value `--` stands for none, so that
a switch may be left blank.
-/
namespace SenderPolicy.CommandLine

def barText : Text := "--"

/-- What an argument is by itself. A switch stands there by one of its names, perhaps with a value in the
same argument. -/
inductive Role (κ : Type)
  | plain
  | bar
  | unknown
  | switch (s : Switch κ) (name : Text) (attached : Option Text)

structure Piece (κ : Type) where
  text : Text
  role : Role κ

namespace Piece

variable {κ : Type}

def isPlain (p : Piece κ) : Bool :=
  match p.role with
  | .plain => true
  | _ => false

def isBar (p : Piece κ) : Bool :=
  match p.role with
  | .bar => true
  | _ => false

end Piece

def isNegativeNumber (t : Text) : Bool :=
  let t := if t.getLast? = some '\n' then t.dropLast else t
  match t with
  | '-' :: r =>
    match r.dropWhile Text.isDecimal with
    | [] => !r.isEmpty
    | '.' :: fraction => !fraction.isEmpty && fraction.all Text.isDecimal
    | _ => false
  | _ => false

def isLong (name : Text) : Bool := barText.isPrefixOf name

/-- The value attached to a name, if the argument can stand for it. A long name may be cut short; a name
of one letter may have its value behind it. -/
def attachedTo? (argument name : Text) : Option (Option Text) :=
  if isLong argument then
    let (start, value) := Text.cutAtFirst (· == '=') argument
    if start.isPrefixOf name then some value else none
  else if name = argument.take 2 then some (some (argument.drop 2))
  else if argument.isPrefixOf name then some none
  else none

inductive Event (κ : Type)
  | setting (key : κ) (values : List Text)
  | stray (argument : Text)
  | refused (r : Refusal)

namespace Usage

variable {κ : Type}

def exactly? (u : Usage κ) (argument : Text) : Option (Role κ) :=
  match u.find? argument with
  | some s => some (.switch s argument none)
  | none =>
    match Text.cutAtFirst (· == '=') argument with
    | (name, some value) => (u.find? name).map (fun s => .switch s name (some value))
    | (_, none) => none

def candidates (u : Usage κ) (argument : Text) : List (Text × Role κ) :=
  u.named.filterMap (fun (name, s) =>
    (attachedTo? argument name).map (fun attached => (name, .switch s name attached)))

/-- What an argument is by itself. Without a known switch it is plain if it looks like a negative number
or holds a space. -/
def roleOf (u : Usage κ) (argument : Text) : Except Refusal (Role κ) :=
  if argument.head? ≠ some '-' ∨ argument = ['-'] then .ok .plain
  else match u.exactly? argument with
  | some role => .ok role
  | none =>
    match u.candidates argument with
    | [(_, role)] => .ok role
    | [] =>
      if isNegativeNumber argument || argument.contains ' ' then .ok .plain else .ok .unknown
    | several => .error (.ambiguous argument (several.map (·.1)))

def piecesOf (u : Usage κ) : List Text → Except Refusal (List (Piece κ))
  | [] => .ok []
  | t :: rest =>
    if t = barText then .ok (⟨t, .bar⟩ :: rest.map (fun t => ⟨t, .plain⟩))
    else do
      let role ← u.roleOf t
      let pieces ← piecesOf u rest
      return ⟨t, role⟩ :: pieces

def valuesAfter (s : Switch κ) (following : List (Piece κ)) : Except Refusal (List Text) :=
  match s.arity, (following.takeWhile (·.isPlain)).map (·.text) with
  | .flag, _ => .ok []
  | .value, [] => .error (.valueExpected s.title)
  | .value, t :: _ => .ok [t]
  | .values, [] => .error (.valuesExpected s.title)
  | .values, ts => .ok ts

abbrev Taken (κ : Type) := List (Event κ) × Nat

def takeAfter (s : Switch κ) (following : List (Piece κ)) : Except Refusal (Taken κ) :=
  (valuesAfter s following).map (fun values => ([.setting s.key values], values.length))

/-- The values without the first `--` among them: it never is a value. -/
def withoutBar (values : List Text) : List Text := values.erase barText

/-- What a switch of one letter comes to with characters behind it: behind a flag each must be the letter
of another switch, behind any other switch they are its value. -/
def takeLetters (u : Usage κ) (following : List (Piece κ)) :
    Switch κ → Text → Except Refusal (Taken κ)
  | s, [] => takeAfter s following
  | s, c :: r =>
    match s.arity with
    | .flag =>
      match u.find? ['-', c] with
      | none => .error (.valueIgnored s.title (c :: r))
      | some t => do
        let (events, count) ← takeLetters u following t r
        return (.setting s.key [] :: events, count)
    | _ => .ok ([.setting s.key (withoutBar [c :: r])], 0)

def takeAttached (u : Usage κ) (s : Switch κ) (name value : Text) (following : List (Piece κ)) :
    Except Refusal (Taken κ) :=
  match s.arity with
  | .flag =>
    if isLong name || value.isEmpty then .error (.valueIgnored s.title value)
    else u.takeLetters following s value
  | _ => .ok ([.setting s.key (withoutBar [value])], 0)

def take (u : Usage κ) (s : Switch κ) (name : Text) (attached : Option Text)
    (following : List (Piece κ)) : Except Refusal (Taken κ) :=
  match attached with
  | none => takeAfter s following
  | some value => u.takeAttached s name value following

/-- How many arguments an operand takes from the front: none, unless a plain one stands there. -/
def reach (o : Operand κ) (pieces : List (Piece κ)) : Nat :=
  let bars := (pieces.takeWhile (·.isBar)).length
  match pieces.drop bars with
  | [] => 0
  | p :: rest =>
    if p.isPlain then
      bars + 1 + match o.arity with
        | .value => (rest.takeWhile (·.isBar)).length
        | .values => (rest.takeWhile (fun p => p.isBar || p.isPlain)).length
        | .rest => rest.length
    else 0

def valuesOf (o : Operand κ) (pieces : List (Piece κ)) : List Text :=
  match o.arity with
  | .rest => pieces.map (·.text)
  | _ => withoutBar (pieces.map (·.text))

def eventsOf (u : Usage κ) : List (Operand κ) → List (Piece κ) → List (Event κ)
  | [], [] => []
  | operands, [] => [.refused (.missing (operands.map (·.name)))]
  | operands, p :: rest =>
    match p.role with
    | .unknown => .stray p.text :: eventsOf u operands rest
    | .switch s name attached =>
      match u.take s name attached rest with
      | .error r => [.refused r]
      | .ok (events, count) => events ++ eventsOf u operands (rest.drop count)
    | .plain | .bar =>
      match operands with
      | [] => .stray p.text :: eventsOf u [] rest
      | o :: others =>
        match reach o (p :: rest) with
        | 0 => .stray p.text :: eventsOf u (o :: others) rest
        | more + 1 =>
          .setting o.key (valuesOf o (p :: rest.take more)) :: eventsOf u others (rest.drop more)
termination_by _ pieces => pieces.length

def read (u : Usage κ) (arguments : List Text) : List (Event κ) :=
  match u.piecesOf arguments with
  | .error r => [.refused r]
  | .ok pieces => u.eventsOf u.operands pieces

end Usage
end SenderPolicy.CommandLine
