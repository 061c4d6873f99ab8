import WireErrors.Model
import WireErrors.Policy
import WireErrors.Source.Spelling.Item

/-!
# Decode routines

The routine that turns a wire identifier into a value of the error type, in two shapes: one `match`
over the declared names, or a chain of comparisons. With validation enabled, both first look for the
identifiers of validation errors.
-/

namespace WireErrors

open Source

/-- The shape of the emitted routine. -/
inductive Strategy where
  | matching
  | chain
deriving DecidableEq, Repr

/-! ## Validation errors -/

/-- Wire identifiers of validation errors. -/
def validationTokens : List String := ["ValidationError", "ValidationException"]

/-- What a wire identifier starts with that carries the message of a validation error. -/
def validationStarts : List String := ["ValidationError:", "ValidationException:"]

/-- Whether a wire identifier denotes a validation error. -/
def isValidationToken (token : String) : Bool :=
  validationTokens.contains token ||
    validationStarts.any fun start => start.toList.isPrefixOf token.toList

/-- Declared names that are decoded as validation errors and never as their own variant. -/
def shadowedNames (policy : Policy) (names : List String) : List String :=
  if policy.validation then names.filter isValidationToken else []

/-! ## Names placed into code -/

/-- A text as an identifier of emitted code. -/
def spell (text : String) : Except Failure String :=
  if isSpelled text then .ok text else .error (.unspellable text)

/-- Texts as identifiers of emitted code. -/
def spellAll : List String → Except Failure (List String)
  | [] => .ok []
  | text :: rest =>
    match spell text, spellAll rest with
    | .ok word, .ok words => .ok (word :: words)
    | .error failure, _ => .error failure
    | _, .error failure => .error failure

/-- A declared error together with its variant. -/
structure Case where
  name : String
  variant : String
deriving DecidableEq, Repr

/-- Declared names together with their variants. -/
def casesOf (names : List String) : Except Failure (List Case) :=
  (spellAll (names.map variantName)).map fun variants => List.zipWith Case.mk names variants

/-! ## Code -/

namespace Decoder

/-- The value of the error type without data, as an expression. -/
def unitValue (variant : String) : Expr := .names ["Self", variant]

/-- The value of a variant that carries a copy of the text in a variable. -/
def carrying (variant text : String) : Expr :=
  .call (.names ["Self", variant]) [.method (.names [text]) "to_string" []]

/-- The test whether the wire identifier starts with a text. -/
def startsWith (start : String) : Expr :=
  .method (.names ["error_type"]) "starts_with" [.literal (Text.quote start)]

/-- Texts as string literals with `|` between them. -/
def alternatives (texts : List String) : List Token :=
  List.intercalate (Token.sign "|") (texts.map fun text => [Token.text text])

/-- The emitted counterpart of `isValidationToken`. -/
def validationHelper : Member :=
  .function {
    attributes := [.doc " Whether a wire error identifier denotes a validation error"]
    name := "is_validation_error"
    parameters := [.named "error_type" .text]
    result := some (.named "bool")
    body := [.expr (validationStarts.foldl (fun tests start => .binary .or tests (startsWith start))
      (.invocation ⟨false, ["matches"]⟩ .paren
        (.ident "error_type" :: Token.sign "," ++ alternatives validationTokens))) false] }

/-- The check for validation errors in front of the lookup. -/
def validationCheck : Statement :=
  .expr (.conditional
    (.call (.names ["Self", "is_validation_error"]) [.names ["error_type"]])
    [.expr (.giveBack (some (carrying Policy.validationVariant "error_type"))) true] .none) false

/-- The routine with the given documentation and body. -/
def routine (documentation : List String) (body : List Statement) : Member :=
  .function {
    attributes := documentation.map Attribute.doc
    visibility := .everyone
    name := "from_error_type"
    parameters := [.named "error_type" .text]
    result := some (.named "Self")
    body := body }

/-- The statements that look a wire identifier up. -/
def lookup (strategy : Strategy) (cases : List Case) (unknown : String) : List Statement :=
  match strategy with
  | .matching =>
    [.expr (.select (.names ["error_type"]) []
      (cases.map (fun c => .plain (.literal (Text.quote c.name)) (unitValue c.variant)) ++
        [.plain (.binding "other") (carrying unknown "other")])) false]
  | .chain =>
    cases.map (fun c => .expr (.conditional
      (.binary .equal (.names ["error_type"]) (.literal (Text.quote c.name)))
      [.expr (.giveBack (some (unitValue c.variant))) true] .none) false) ++
    [.expr (carrying unknown "error_type") false]

def documentation : Strategy → List String
  | .matching =>
    [" Decode a wire error identifier", "", " Matching is exact and case-sensitive."]
  | .chain => [" Decode a wire error identifier, first match wins"]

/-- The members that make up a decode routine. -/
def members (strategy : Strategy) (policy : Policy) (cases : List Case) (unknown : String) :
    List Member :=
  if policy.validation then
    [validationHelper,
      routine (documentation strategy) (validationCheck :: lookup strategy cases unknown)]
  else [routine (documentation strategy) (lookup strategy cases unknown)]

/-- The text of a list of members. -/
def text (members : List Member) : String := Token.render (members.flatMap Member.tokens)

def announcement : Strategy → String
  | .matching => "emitting matching error initializer"
  | .chain => "emitting predicate chain error initializer"

/-- Checks the names and emits the routine for them as one block. -/
def emit (strategy : Strategy) (target : String) (policy : Policy) (names : List String)
    (unknown : String) : Emission Unit := do
  validateNames target names unknown policy.reserved
  (shadowedNames policy names).forM fun name => Emission.log
    ⟨.warn, "declared error is decoded as " ++ Policy.validationVariant ++
      ", its own variant is never constructed", [("target_name", target), ("error_name", name)]⟩
  let cases ← Emission.ofExcept (casesOf names)
  let unknown ← Emission.ofExcept (spell unknown)
  Emission.log ⟨.debug, announcement strategy,
    [("target_name", target), ("cases", toString cases.length)]⟩
  Emission.block (text (members strategy policy cases unknown))

end Decoder

end WireErrors
