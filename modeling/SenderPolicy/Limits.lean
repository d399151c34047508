import SenderPolicy.Text.Basic

/-!
The limits on what one check may cost, and the running tally that is held against them.
-/
namespace SenderPolicy

def maxExchanges : Nat := 10

def maxReverseNames : Nat := 10

/-- How many lookups, and how many of them in vain, a check may take. A limit below zero allows none. -/
structure Limits where
  lookups : Int := 10
  voids : Int := 2

structure Tally where
  lookups : Nat := 0
  voids : Nat := 0
  deriving DecidableEq

inductive Excess
  | lookups (count : Nat) (limit : Int) (term : Text)
  | voids (count : Nat) (limit : Int) (term : Text)
  deriving DecidableEq

open Text in
def Excess.message : Excess → Text
  | .lookups count limit term =>
    phrase ["Parsing the SPF record requires ", decimal count, "/", signedDecimal limit,
      " maximum DNS lookups, exceeding the limit at ", term, " (RFC 7208 § 4.6.4)"]
  | .voids count limit term =>
    phrase ["Parsing the SPF record has ", decimal count, "/", signedDecimal limit,
      " maximum void DNS lookups, exceeding the limit at ", term, " (RFC 7208 § 4.6.4)"]

namespace Tally

/-- One lookup more; what goes over the limit has been counted, too. -/
def count (limits : Limits) (term : Text) (t : Tally) : Except Excess Unit × Tally :=
  let t := { t with lookups := t.lookups + 1 }
  (if limits.lookups < t.lookups then .error (.lookups t.lookups limits.lookups term) else .ok (), t)

def countVoid (limits : Limits) (term : Text) (t : Tally) : Except Excess Unit × Tally :=
  let t := { t with voids := t.voids + 1 }
  (if limits.voids < t.voids then .error (.voids t.voids limits.voids term) else .ok (), t)

end Tally
end SenderPolicy
