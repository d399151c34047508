import SenderPolicy.Term
import SenderPolicy.Text.Blank

/-!
Records: a version and the terms in order. A record is read from its text, or from the quoted strings of
a zone file, and composed with one space between terms.
-/
namespace SenderPolicy

structure Record where
  version : Option Text
  terms : List Term
  deriving DecidableEq

namespace Record

def versionTag : Text := "v=spf1"

/-- Drops each pair of quotes with nothing but blanks between them. A quote that may be the first of a
pair is held back, with the blanks behind it in reverse. -/
def joinStringsFrom (held : Option Text) : Text → Text
  | [] =>
    match held with
    | some blanks => '"' :: blanks.reverse
    | none => []
  | c :: r =>
    match held with
    | none => if c = '"' then joinStringsFrom (some []) r else c :: joinStringsFrom none r
    | some blanks =>
      if c = '"' then joinStringsFrom none r
      else if Text.isBlank c then joinStringsFrom (some (c :: blanks)) r
      else '"' :: blanks.reverse ++ c :: joinStringsFrom none r

def joinStrings (t : Text) : Text := joinStringsFrom none t

def unquoted (t : Text) : Text :=
  let t := Text.trim t
  if t.head? = some '"' then Text.trimmed (· == '"') (joinStrings t) else t

/-- A text is a record if its first word is the version tag. -/
def parse? (t : Text) : Option Record :=
  match Text.words (unquoted t) with
  | [] => none
  | tag :: tokens =>
    if tag = versionTag then some ⟨some versionTag, tokens.map Term.parse⟩ else none

def compose (r : Record) : Text :=
  let version := match r.version with
    | none | some [] => versionTag
    | some v => v
  Text.joined [' '] (version :: r.terms.map Term.compose)

def valueOf (kind : Kind) (r : Record) : Option Text :=
  (r.terms.find? (fun t => t.kind == kind)).bind (·.value)

def redirect (r : Record) : Option Text := r.valueOf .redirect

def exp (r : Record) : Option Text := r.valueOf .exp

def withTerms (r : Record) (terms : List Term) : Record := { r with terms }

def readsBack (r : Record) : Bool := parse? r.compose == some r

end Record
end SenderPolicy
