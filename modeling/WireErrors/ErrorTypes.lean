import WireErrors.Delegate

/-!
# Emitted types

The parts of an error module around the decode routine: the option set of declared identifiers, the
error enum, the accessors of the enum and its `Display`.
-/

namespace WireErrors

open Source

/-- The identifiers that the parts of one module share. -/
structure TypeNames where
  error : String
  optionSet : String
  unknown : String
  /-- The variant for validation errors, if there is one. -/
  validation : Option String
deriving DecidableEq, Repr

/-- A declared error with both identifiers derived from it. -/
structure Declared where
  name : String
  variant : String
  constant : String
deriving DecidableEq, Repr

namespace ErrorTypes

/-! ## Small pieces -/

def staticReference (target : TypeExpr) : TypeExpr := .reference (some "static") false target

/-- A function that reads `self`. -/
def getter (visibility : Visibility) (constant : Bool) (documentation name : String)
    (result : TypeExpr) (body : Expr) : Member :=
  .function {
    attributes := if documentation.isEmpty then [] else [.doc documentation]
    visibility := visibility
    constant := constant
    name := name
    parameters := [.self]
    result := some result
    body := [.expr body false] }

/-- Members of a type, or those of the trait of a path. -/
def implementation (implemented : Option TypeExpr) (type : String) (members : List Member) : Item :=
  .implementation [] false false {} false implemented (.named type) members

/-- The type `std::fmt::Formatter<'_>`. -/
def formatter : TypeExpr :=
  .path (.plain false
    [.plain "std", .plain "fmt", .mk "Formatter" (.angled [.lifetime "_"])])

/-- The implementation of `std::fmt::Display` for a type. -/
def displayImpl (type : String) (body : Expr) : Item :=
  implementation (some (.names ["std", "fmt", "Display"])) type
    [.function {
      name := "fmt"
      parameters := [.self, .named "f" (.reference none true formatter)]
      result := some (.names ["std", "fmt", "Result"])
      body := [.expr body false] }]

def description : Expr := .field (.names ["self"]) "description"

/-- Writes a text to the formatter. -/
def writeText (text : Expr) : Expr := .method (.names ["f"]) "write_str" [text]

/-- The pattern of a variant without data. -/
def unitPattern (variant : String) : Pattern := .path (.names ["Self", variant])

/-- The pattern of a variant that carries a text. -/
def carrier (variant holder : String) : Pattern :=
  .tuple (.names ["Self", variant]) [.binding holder]

/-! ## The option set -/

/-- The import of the trait that the option set implements. -/
def conformanceImport (library : Path) (interface : String) : Item :=
  .use [] .inherited library.absolute (.ofNames (library.segments ++ [interface]))

def constantDeclaration (d : Declared) : Member :=
  .constant {
    visibility := .everyone
    name := d.constant
    type := .named "Self"
    value := .record (.names ["Self"]) [.plain "description" (.literal (Text.quote d.name))] none }

/-- The implementation of the trait that the option set conforms to. -/
def conformanceImpl (conformance : Conformance) (optionSet : String) : List Item :=
  match conformance with
  | .display => [displayImpl optionSet (writeText description)]
  | .custom _ interface =>
    [implementation (some (.named interface)) optionSet
      [getter .inherited false "" "description" .text description]]
  | .none => []

/-- The option set; `expected` is the trait named in its documentation. -/
def optionSet (types : TypeNames) (conformance : Conformance) (expected : String)
    (declared : List Declared) : List Item :=
  [.record
    { attributes :=
        [.doc " Identifiers of the errors declared by the service model", .doc "",
          .docText (" Expected to conform to `" ++ expected ++ "`."),
          .derive [["Debug"], ["Clone"], ["Copy"], ["PartialEq"], ["Eq"], ["Hash"]]]
      visibility := .everyone
      name := types.optionSet }
    (.named [{ name := some "description", type := staticReference (.named "str") }]),
   implementation none types.optionSet
    (declared.map constantDeclaration ++
      [.function {
        attributes := [.doc " Every declared error identifier"]
        visibility := .everyone
        name := "all"
        parameters := []
        result := some (staticReference (.slice (.named "Self")))
        body := [.expr (.reference false (.array
          (declared.map fun d => .names ["Self", d.constant]))) false] },
       getter .everyone true " Wire identifier of the error" "description"
        (staticReference (.named "str")) description])] ++
  conformanceImpl conformance types.optionSet

/-! ## The error enum -/

def derives (serializable : Bool) : Attribute :=
  .derive ([["Debug"], ["Clone"], ["PartialEq"], ["Eq"]] ++
    if serializable then [["serde", "Serialize"]] else [])

/-- A variant that carries a text. -/
def carryingVariant (documentation variant : String) : Variant :=
  { attributes := [.doc documentation]
    name := variant
    fields := .positional [{ name := none, type := .named "String" }] }

def errorEnum (types : TypeNames) (serializable : Bool) (declared : List Declared) : Item :=
  .enumeration
    { attributes := [.doc " Errors declared by the service model", derives serializable]
      visibility := .everyone
      name := types.error }
    (declared.map (fun d =>
        { attributes := [.docText (" The `" ++ d.name ++ "` error")], name := d.variant }) ++
      (types.validation.toList.map
        (carryingVariant " The request failed validation; carries the wire identifier")) ++
      [carryingVariant " An error identifier the model does not declare" types.unknown])

/-! ## Accessors and display -/

/-- The accessors placed after the decode routine. -/
def accessors (types : TypeNames) (declared : List Declared) : List Member :=
  [getter .everyone false " Wire identifier of the error" "error_type_name" .text
    (.select (.names ["self"]) []
      (declared.map (fun d => .plain (unitPattern d.variant) (.literal (Text.quote d.name))) ++
        (types.validation.toList ++ [types.unknown]).map fun variant =>
          .plain (carrier variant "error_type") (.method (.names ["error_type"]) "as_str" []))),
   getter .everyone false " Declared error identifier, if the error is one the model declares"
    "error_type"
    (.path (.plain false [.mk "Option" (.angled [.type (.named types.optionSet)])]))
    (.select (.names ["self"]) []
      (declared.map (fun d => .plain (unitPattern d.variant)
          (.call (.names ["Some"]) [.names [types.optionSet, d.constant]])) ++
        [.plain .wildcard (.names ["None"])]))]

/-- Writes the name of a variant, a colon and the text in a variable to the formatter. -/
def writeLabelled (variant holder : String) : Expr :=
  .invocation ⟨false, ["write"]⟩ .paren (.ident "f" :: Token.sign "," ++
    Token.text (variant ++ ": \x7b\x7d") :: Token.sign "," ++ [.ident holder])

/-- The implementations of `Display` and `Error` for the error enum. -/
def display (types : TypeNames) (declared : List Declared) : List Item :=
  [displayImpl types.error
    (.select (.names ["self"]) []
      (declared.map (fun d => .plain (unitPattern d.variant)
          (writeText (.literal (Text.quote d.name)))) ++
        (types.validation.toList.map fun variant =>
          .plain (carrier variant "reason") (writeLabelled variant "reason")) ++
        [.plain (carrier types.unknown "error_type")
          (writeLabelled types.unknown "error_type")])),
   implementation (some (.names ["std", "error", "Error"])) types.error []]

/-- The text of a list of items. -/
def text (items : List Item) : String := Token.render (items.flatMap Item.tokens)

end ErrorTypes

end WireErrors
