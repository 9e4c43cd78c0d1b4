import Headroom.Text.Quoted
/-!
# What can be wrong with resources

A quantity may not be a number, may not fit into an amount, and a resource may have a bad name.
-/

namespace Headroom

/-- Why a text is not a quantity. -/
inductive QuantityFault where
  | empty
  | tooManyDigits
  | notDecimal
  | unknownSuffix
  | exponentRange
deriving DecidableEq

/-- Why a resource and its quantity cannot be used. -/
inductive ResourceError where
  | invalidQuantity (text : String) (fault : QuantityFault)
  /-- The quantity is a number but no amount. -/
  | quantityOverflow (text : String)
  | invalidName (name : String)
deriving DecidableEq

/-- The reason in words. -/
def QuantityFault.message : QuantityFault → String
  | empty => "empty string"
  | tooManyDigits => "too many digits"
  | notDecimal => "expected a decimal number"
  | unknownSuffix => "unknown suffix"
  | exponentRange => "exponent out of range"

/-- The error in words. -/
def ResourceError.message : ResourceError → String
  | invalidQuantity text fault =>
      "invalid quantity " ++ Text.quoted text ++ ": " ++ fault.message
  | quantityOverflow text => "quantity " ++ Text.quoted text ++ " is out of range"
  | invalidName name => "invalid resource name: " ++ Text.quoted name

end Headroom
