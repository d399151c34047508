import SenderPolicy.Text.Basic

/-!
Questions to a resolver and its replies. A failure is a reply like any other.
-/
namespace SenderPolicy.Dns

/-- What is asked for: texts, addresses of either family, exchanges, or the names of an address. -/
inductive Topic
  | texts | shortAddresses | longAddresses | exchanges | names
  deriving DecidableEq

structure Query where
  topic : Topic
  name : Text
  deriving DecidableEq

inductive Datum
  | text (t : Text)
  | strings (parts : List Text)
  | exchange (priority : Int) (host : Text)
  deriving DecidableEq

namespace Datum

def parts : Datum → List Text
  | .text t => [t]
  | .strings ts => ts
  | .exchange _ _ => []

/-- The record as one text; of an exchange, its host. -/
def asText : Datum → Text
  | .text t => t
  | .strings ts => ts.flatten
  | .exchange _ host => host

end Datum

inductive Trouble
  | dns | system | timeout | value
  deriving DecidableEq

def Trouble.name : Trouble → Text
  | .dns => "DNSException"
  | .system => "OSError"
  | .timeout => "TimeoutError"
  | .value => "ValueError"

inductive Reply
  | records (all : List Datum)
  | nothing
  | noSuchDomain (name : Text)
  | failed (trouble : Trouble) (reason : Text)
  deriving DecidableEq

def noSuchDomainMessage (name : Text) : Text :=
  Text.phrase ["The domain ", name, " does not exist."]

structure Answer where
  records : List Datum := []
  error : Option Text := none
  isMissing : Bool := false
  deriving DecidableEq

namespace Answer

/-- A failure without a reason is told by its kind. -/
def ofReply : Reply → Answer
  | .records all => { records := all }
  | .nothing => {}
  | .noSuchDomain _ => { isMissing := true }
  | .failed trouble reason =>
    { error := some (if reason.isEmpty then trouble.name else reason) }

/-- A lookup in vain: it did not fail, and there is nothing. -/
def isVoid (a : Answer) : Bool := a.error.isNone && a.records.isEmpty

end Answer
end SenderPolicy.Dns
