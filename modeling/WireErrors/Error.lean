import WireErrors.Text.Quoted

/-!
# Failures of generation

Each cause has its one-line `message`, and `inspect`, the form that shows the cause with its data.
-/

namespace WireErrors

open Text

/-! ## Broken contracts -/

/-- What is wrong with a policy or with the names to generate for. -/
inductive Violation where
  | duplicateName (name : String)
  | variantCollision (first second variant : String)
  | unknownCollision (name : String)
  | reservedName (name : String)
  | invalidIdentifier (name : String)
  | emptyConformance
  | invalidImport (path : String)
deriving DecidableEq, Repr

namespace Violation

def message : Violation → String
  | duplicateName name => "duplicate error name '" ++ name ++ "'"
  | variantCollision first second variant =>
    "error names '" ++ first ++ "' and '" ++ second ++ "' both map to variant '" ++ variant ++ "'"
  | unknownCollision name =>
    "unknown error name '" ++ name ++ "' collides with a declared error"
  | reservedName name => "error name '" ++ name ++ "' is reserved by the generated error type"
  | invalidIdentifier name => "'" ++ name ++ "' is not a valid identifier"
  | emptyConformance => "option_set custom conformance type is empty"
  | invalidImport path => "option_set library import is not a valid path: '" ++ path ++ "'"

/-- The name of a cause. -/
def label : Violation → String
  | duplicateName _ => "DuplicateErrorName"
  | variantCollision .. => "VariantCollision"
  | unknownCollision _ => "UnknownErrorCollision"
  | reservedName _ => "ReservedName"
  | invalidIdentifier _ => "InvalidIdentifier"
  | emptyConformance => "EmptyConformanceType"
  | invalidImport _ => "InvalidLibraryImport"

def inspect (violation : Violation) : String :=
  match violation with
  | variantCollision first second variant =>
    violation.label ++ " \x7b first: " ++ Text.inspect first ++ ", second: " ++
      Text.inspect second ++ ", variant: " ++ Text.inspect variant ++ " \x7d"
  | emptyConformance => violation.label
  | duplicateName text | unknownCollision text | reservedName text | invalidIdentifier text
  | invalidImport text => violation.label ++ "(" ++ Text.inspect text ++ ")"

end Violation

/-! ## Errors -/

inductive GenerationError where
  /-- Emitting code failed. -/
  | emission (text : String)
  /-- A parameter could not be understood. -/
  | parameter (text : String)
  /-- The emitted code could not be formatted. -/
  | formatting (text : String)
  | unknownTarget (name : String)
  /-- The policy of a target, or the names given to it, broke the contract of generation. -/
  | contract (target : String) (violation : Violation)
deriving DecidableEq, Repr

namespace GenerationError

def message : GenerationError → String
  | emission text => "code generation error: " ++ text
  | parameter text => "parse error: " ++ text
  | formatting text => "failed to format generated code: " ++ text
  | unknownTarget name => "unknown target: " ++ name
  | contract target violation => "target '" ++ target ++ "': " ++ violation.message

/-- The name of a cause; a broken contract goes by the name of its violation. -/
def label : GenerationError → String
  | emission _ => "CodeGenError"
  | parameter _ => "Parse"
  | formatting _ => "Format"
  | unknownTarget _ => "UnknownTarget"
  | contract _ violation => violation.label

def inspect (error : GenerationError) : String :=
  match error with
  | contract target violation =>
    "ContractViolation \x7b target: " ++ Text.inspect target ++ ", violation: " ++
      violation.inspect ++ " \x7d"
  | emission text | parameter text | formatting text | unknownTarget text =>
    error.label ++ "(" ++ Text.inspect text ++ ")"

end GenerationError

/-- Why generation stopped. -/
inductive Failure where
  | refused (error : GenerationError)
  /-- A text that was accepted as an identifier cannot be written as one. -/
  | unspellable (text : String)
  /-- The emitted code holds an item that can be read but not formatted. -/
  | noLayout
deriving DecidableEq, Repr

end WireErrors
