import WireErrors.Text.Words
import WireErrors.Source.Identifier
import WireErrors.Emission

/-!
# Declared errors

The errors that one service model declares, the identifiers derived from their names, and the
contract that names have to meet before anything is emitted for them.
-/

namespace WireErrors

open Source Text

/-! ## Derived names -/

/-- The variant of a declared error. -/
def variantName (name : String) : String := String.ofList (upperCamel name.toList)

/-- The constant of a declared error. -/
def constantName (name : String) : String := String.ofList (shoutySnake name.toList)

structure Model where
  /-- The name that the generated types are called after. -/
  baseName : String
  /-- The declared names, in the order of the model. -/
  errorNames : List String
deriving DecidableEq, Repr

namespace Model

/-- The declared names by code points, which is also the order of their bytes; repeated names
stay. -/
def sortedNames (model : Model) : List String :=
  model.errorNames.mergeSort fun a b => !decide (b < a)

def errorType (model : Model) : String := variantName model.baseName ++ "Error"

def optionSetType (model : Model) : String := variantName model.baseName ++ "ErrorTypes"

end Model

/-! ## The contract -/

/-- Checks declared names in order, after names that were accepted with their variants. -/
def checkDeclared (reserved : List String) (accepted : List (String × String)) :
    List String → Except Violation (List (String × String))
  | [] => .ok accepted
  | name :: rest =>
    let variant := variantName name
    if accepted.any (·.1 == name) then .error (.duplicateName name)
    else if !isIdentifier variant then .error (.invalidIdentifier name)
    else if reserved.contains variant then .error (.reservedName name)
    else
      match accepted.find? (·.2 == variant) with
      | some (first, _) => .error (.variantCollision first name variant)
      | none => checkDeclared reserved (accepted ++ [(name, variant)]) rest

/-- Checks that declared names have variants of their own, apart from the reserved ones, and that
the name for unknown errors is another identifier. -/
def checkNames (names : List String) (unknown : String) (reserved : List String) :
    Except Violation Unit :=
  match checkDeclared reserved [] names with
  | .error violation => .error violation
  | .ok accepted =>
    if !isIdentifier unknown then .error (.invalidIdentifier unknown)
    else if accepted.any fun (name, variant) => name == unknown || variant == unknown then
      .error (.unknownCollision unknown)
    else if reserved.contains unknown then .error (.reservedName unknown)
    else .ok ()

/-- Checks names for a target and logs a refusal. -/
def validateNames (target : String) (names : List String) (unknown : String)
    (reserved : List String) : Emission Unit :=
  match checkNames names unknown reserved with
  | .ok () => pure ()
  | .error violation => do
    Emission.log
      ⟨.warn, "error model rejected: " ++ violation.message, [("target_name", target)]⟩
    Emission.refuse (.contract target violation)

end WireErrors
