import WireErrors.Proofs.ErrorModule.Items
import WireErrors.Proofs.Source.Words

/-!
# Running an error module

What the functions of a module give for a decoded wire identifier: its own text back, the constant
of the option set for a declared error, and the text that is displayed.
-/

namespace WireErrors

open Source

namespace ErrorModule

open ErrorTypes Decoder

section

variable {program : Program} {comparison : Comparison}

/-! ## Finding functions -/

variable {type word owner name : String} {value : Value}

end

variable {program : Program} {strategy : Strategy} {policy : Policy} {expected : String}
  {model : Model} {unknown : String}

/-- A program of the items of a module whose names all stand for what they are meant for. -/
structure Runs (program : Program) (strategy : Strategy) (policy : Policy) (expected : String)
    (model : Model) (unknown : String) : Prop
    extends IsModule program strategy policy expected model unknown where
  separates : program.separates = true
  resolves : Resolves program.comparison policy model.sortedNames unknown

/-! ## The wire identifier -/

/-- The value of the constant of the option set for a declared error. -/
def identifier (model : Model) (name : String) : Value :=
  .record model.optionSetType [("description", .text name)]

/-- The text that a decoded error is displayed as. -/
def displayed (policy : Policy) (names : List String) (unknown token : String) : String :=
  if captures policy token then Policy.validationVariant ++ ": " ++ token
  else if token ∈ names then token
  else unknown ++ ": " ++ token

end ErrorModule

end WireErrors
