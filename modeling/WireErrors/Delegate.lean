import WireErrors.Decoder

/-!
# Delegates

A delegate is what a target brings to generation: its policy, the trait that its option set is said
to conform to, and the emission of its decode routine.
-/

namespace WireErrors

structure Delegate where
  /-- The target's name, to which broken contracts are attributed. -/
  name : String
  policy : Policy
  /-- The trait that the option set is said to conform to. -/
  conformance : String
  /-- Emits the decode routine for declared names and the variant for unknown errors. -/
  emit : List String → String → Emission Unit

/-- The delegate that emits a decode routine of the given shape. -/
def Strategy.delegate (strategy : Strategy) (name : String) (policy : Policy) : Delegate where
  name := name
  policy := policy
  conformance := policy.conformance.expected
  emit := Decoder.emit strategy name policy

end WireErrors
