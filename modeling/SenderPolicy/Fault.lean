import SenderPolicy.Address.Fault
import SenderPolicy.Text.Integer

/-!
What stops a computation for good: a numeral that cannot be read, or an address without a full form.
-/
namespace SenderPolicy

inductive Fault
  | integer (fault : Text.IntegerFault)
  | address (fault : AddressFault)
  deriving DecidableEq

def Fault.message : Fault → Text
  | .integer f => f.message
  | .address f => f.message

end SenderPolicy
