import SenderPolicy.Text.Quoted

/-!
What a command line may hold: switches, which begin with a hyphen, and operands in a fixed order. A
refusal is the reason why a command line is not accepted.
-/
namespace SenderPolicy.CommandLine

inductive SwitchArity
  | flag | value | values

/-- An operand is one argument, or at least one, or one and all that follows. -/
inductive OperandArity
  | value | values | rest

structure Switch (κ : Type) where
  key : κ
  names : List Text
  arity : SwitchArity := .value

def Switch.title {κ : Type} (s : Switch κ) : Text := Text.joined "/" s.names

structure Operand (κ : Type) where
  key : κ
  name : Text
  arity : OperandArity := .value

structure Usage (κ : Type) where
  switches : List (Switch κ)
  operands : List (Operand κ)

namespace Usage

variable {κ : Type}

def named (u : Usage κ) : List (Text × Switch κ) :=
  u.switches.flatMap (fun s => s.names.map (fun name => (name, s)))

def find? (u : Usage κ) (name : Text) : Option (Switch κ) :=
  (u.named.find? (fun entry => entry.1 = name)).map (·.2)

end Usage

inductive Refusal
  | valueExpected (title : Text)
  | valuesExpected (title : Text)
  | valueIgnored (title value : Text)
  | ambiguous (argument : Text) (names : List Text)
  | malformed (title kind value : Text)
  | noChoice (title value : Text) (choices : List Text)
  | missing (names : List Text)
  | unrecognized (arguments : List Text)
  deriving DecidableEq

def aboutArgument (title : Text) (parts : List Text) : Text :=
  Text.phrase ("argument " :: title :: ": " :: parts)

def Refusal.message : Refusal → Text
  | .valueExpected title => aboutArgument title ["expected one argument"]
  | .valuesExpected title => aboutArgument title ["expected at least one argument"]
  | .valueIgnored title value =>
    aboutArgument title ["ignored explicit argument ", Text.quoted value]
  | .ambiguous argument names =>
    Text.phrase ["ambiguous option: ", argument, " could match ", Text.joined ", " names]
  | .malformed title kind value =>
    aboutArgument title ["invalid ", kind, " value: ", Text.quoted value]
  | .noChoice title value choices =>
    aboutArgument title ["invalid choice: ", Text.quoted value, " (choose from ",
      Text.joined ", " (choices.map Text.quoted), ")"]
  | .missing names =>
    Text.phrase ["the following arguments are required: ", Text.joined ", " names]
  | .unrecognized arguments =>
    Text.phrase ["unrecognized arguments: ", Text.joined " " arguments]

end SenderPolicy.CommandLine
