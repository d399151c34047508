import SenderPolicy.Text.Quoted

/-!
Documents: nested values, and their text with two spaces to each level. The fields of a document keep
their order.
-/
namespace SenderPolicy

inductive Document
  | null
  | flag (b : Bool)
  | number (n : Int)
  | text (t : Text)
  | items (all : List Document)
  | fields (all : List (Text × Document))
  deriving Inhabited

namespace Document

def ofOption {α : Type} (f : α → Document) : Option α → Document
  | none => .null
  | some a => f a

def texts (ts : List Text) : Document := .items (ts.map .text)

def find? (name : Text) : List (Text × Document) → Option Document
  | [] => none
  | (n, d) :: rest => if n = name then some d else find? name rest

def escapedCharacter (c : Char) : Text :=
  if c = '"' ∨ c = '\\' then ['\\', c]
  else if c = '\n' then "\\n"
  else if c = '\r' then "\\r"
  else if c = '\t' then "\\t"
  else if c.toNat = 8 then "\\b"
  else if c.toNat = 12 then "\\f"
  else if c.toNat < 0x20 then "\\u" ++ Text.hexadecimal 4 c.toNat
  else [c]

def string (t : Text) : Text := '"' :: t.flatMap escapedCharacter ++ ['"']

def newline (level : Nat) : Text := '\n' :: List.replicate (2 * level) ' '

def flagText (b : Bool) : Text := if b then "true" else "false"

mutual

def render (level : Nat) : Document → Text
  | .null => "null"
  | .flag b => flagText b
  | .number n => Text.signedDecimal n
  | .text t => string t
  | .items [] => "[]"
  | .items (d :: rest) =>
    '[' :: newline (level + 1) ++ render (level + 1) d ++ renderItems (level + 1) rest ++
      newline level ++ [']']
  | .fields [] => ['\x7b', '\x7d']
  | .fields ((name, d) :: rest) =>
    '\x7b' :: newline (level + 1) ++ string name ++ ": " ++ render (level + 1) d ++
      renderFields (level + 1) rest ++ newline level ++ ['\x7d']

def renderItems (level : Nat) : List Document → Text
  | [] => []
  | d :: rest => ',' :: newline level ++ render level d ++ renderItems level rest

def renderFields (level : Nat) : List (Text × Document) → Text
  | [] => []
  | (name, d) :: rest =>
    ',' :: newline level ++ string name ++ ": " ++ render level d ++ renderFields level rest

end

def print (d : Document) : Text := render 0 d

end Document
end SenderPolicy
