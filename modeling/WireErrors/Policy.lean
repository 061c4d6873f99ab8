import WireErrors.Source.Identifier
import WireErrors.Text.Split
import WireErrors.Error

/-!
# Generation policies

What one target wants in its error modules: how the option set conforms to a trait, and which
optional parts of the error type are emitted. A custom conformance needs a trait that reads as an
identifier and a library that reads as a path.
-/

namespace WireErrors

/-- How the option set of declared identifiers conforms to a trait. -/
inductive Conformance where
  /-- The option set implements `std::fmt::Display`. -/
  | display
  /-- The option set implements a trait imported from a library. -/
  | custom (library interface : String)
  | none
deriving DecidableEq, Repr

namespace Conformance

/-- The trait that the option set is expected to conform to, also where nothing is emitted. -/
def expected : Conformance → String
  | custom _ interface => interface
  | display => "Display"
  | none => "Display"

def library? : Conformance → Option String
  | custom library _ => some library
  | display => .none
  | none => .none

end Conformance

structure Policy where
  conformance : Conformance
  /-- Whether the error type derives serialization. -/
  serializable : Bool
  /-- Whether the error type implements `Display` and `Error`. -/
  display : Bool
  /-- Whether decoding looks for validation errors first. -/
  validation : Bool
deriving DecidableEq, Repr

namespace Policy

/-- The policy with a conformance and nothing optional. -/
def plain (conformance : Conformance) : Policy := ⟨conformance, false, false, false⟩

/-- The variant that carries validation errors. -/
def validationVariant : String := "ValidationError"

/-- Names of variants that the error type uses for itself. -/
def reserved (policy : Policy) : List String :=
  if policy.validation then [validationVariant] else []

/-- What is wrong with the conformance that a policy asks for. -/
def check (policy : Policy) : Except Violation Unit :=
  match policy.conformance with
  | .custom library interface =>
    if (Text.trim interface.toList).isEmpty then .error .emptyConformance
    else if !Source.isIdentifier interface then .error (.invalidIdentifier interface)
    else if (Text.trim library.toList).isEmpty || (Source.Path.ofText? library).isNone then
      .error (.invalidImport library)
    else .ok ()
  | .display => .ok ()
  | .none => .ok ()

/-- Checks the policy of a target. -/
def validate (policy : Policy) (target : String) : Except GenerationError Unit :=
  policy.check.mapError (GenerationError.contract target)

end Policy

end WireErrors
