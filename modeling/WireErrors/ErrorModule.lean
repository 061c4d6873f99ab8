import WireErrors.ErrorTypes
import WireErrors.Draft

/-!
# Error modules

`emit` produces the blocks of a module for one model: the policy and the names are checked, every
block is staged, and only when all of them exist are they handed on. `generateFile` formats the
blocks as a source file.
-/

namespace WireErrors

open Source

namespace ErrorModule

/-! ## Staging -/

/-- The identifiers that the parts of the module share. -/
def typeNames (model : Model) (policy : Policy) (unknown : String) :
    Except Failure TypeNames := do
  return ⟨← spell model.errorType, ← spell model.optionSetType, ← spell unknown,
    if policy.validation then some Policy.validationVariant else none⟩

/-- Declared names with their identifiers. -/
def declare (names : List String) : Except Failure (List Declared) := do
  let constants ← spellAll (names.map constantName)
  let cases ← casesOf names
  return List.zipWith (fun c constant => ⟨c.name, c.variant, constant⟩) cases constants

/-- The import that the option set needs; a checked policy has a path for it. -/
def importBlock (conformance : Conformance) : Except Failure (List String) :=
  match conformance with
  | .custom library interface =>
    match Path.ofText? library with
    | some path => do
      return [ErrorTypes.text [ErrorTypes.conformanceImport path (← spell interface)]]
    | none => .error (.refused (.emission ("invalid library import '" ++ library ++ "'")))
  | .display => .ok []
  | .none => .ok []

/-- Checks everything and appends the blocks of the module. -/
def stage (delegate : Delegate) (model : Model) (unknown : String) : Emission Unit := do
  let policy := delegate.policy
  let names := model.sortedNames
  Emission.ofExcept ((policy.validate delegate.name).mapError .refused)
  validateNames delegate.name names unknown policy.reserved
  if !isIdentifier model.errorType then
    Emission.refuse (.contract delegate.name (.invalidIdentifier model.baseName))
  let types ← Emission.ofExcept (typeNames model policy unknown)
  Emission.appendAll (← Emission.ofExcept (importBlock policy.conformance))
  let declared ← Emission.ofExcept (declare names)
  Emission.block (ErrorTypes.text
    (ErrorTypes.optionSet types policy.conformance delegate.conformance declared))
  Emission.block (ErrorTypes.text [ErrorTypes.errorEnum types policy.serializable declared])
  Emission.block ("impl " ++ types.error ++ " \x7b")
  delegate.emit names unknown
  Emission.block (Decoder.text (ErrorTypes.accessors types declared))
  Emission.block "\x7d"
  if policy.display then Emission.block (ErrorTypes.text (ErrorTypes.display types declared))

/-! ## Emission -/

/-- Emits the module of a model: all of its blocks, or none. -/
def emit (delegate : Delegate) (model : Model) (unknown : String) : Emission Unit := do
  let staging := stage delegate model unknown
  staging.staged
  Emission.log ⟨.debug, "emitting error type " ++ model.errorType,
    [("target_name", delegate.name), ("blocks", toString staging.blocks.length)]⟩
  Emission.appendAll staging.blocks

/-! ## Whole files -/

/-- The attributes at the top of a file. -/
def header : String :=
  Token.render (attributeTokens
    [.docOfFile " Error types generated from the service model", .docOfFile " @generated",
     .allowInFile ["missing_docs"], .allowInFile ["dead_code"], .allowInFile ["clippy", "all"]])

/-- The blocks of a file for a model. -/
def emitFile (delegate : Delegate) (model : Model) (unknown : String) : Emission Unit := do
  Emission.block header
  emit delegate model unknown

/-- The formatted file for a model. -/
def generateFile (delegate : Delegate) (model : Model) (unknown : String) : Emission String := do
  let file := emitFile delegate model unknown
  file.staged
  let code ← Emission.ofExcept (Draft.finish ⟨file.blocks⟩)
  Emission.log ⟨.info, "generated model errors", [("target_name", delegate.name),
    ("error_type", model.errorType), ("errors", toString model.errorNames.length)]⟩
  return code

end ErrorModule

end WireErrors
