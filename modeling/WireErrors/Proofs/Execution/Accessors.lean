import WireErrors.Proofs.Execution.Decoding
import WireErrors.Proofs.ErrorModule.Staging

/-!
# Running the functions around a decode routine

The functions of the error type choose by the variant of a value, those of the option set by its
constants. `firstValue?_variants` says what a choice among all variants gives for a decoded wire
identifier; the values of the accessors, of `Display` and of the constants follow from it.
-/

namespace WireErrors

open Source

namespace ErrorTypes

open Decoder ErrorModule

variable {scope : Scope} {locals : Variables} {policy : Policy} {names : List String}
  {unknown token : String}

/-! ## Patterns of variants -/

/-- An arm for each declared error. -/
def declaredArms (names : List String) (result : Declared → Expr) : List Arm :=
  (declaredFor names).map fun d => .plain (unitPattern d.variant) (result d)

end ErrorTypes

end WireErrors
