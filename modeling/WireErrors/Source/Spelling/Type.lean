import WireErrors.Source.Tree.Type

/-!
# Tokens of types

`tokens` spells a tree; here are attributes, types and what belongs to generic items.
-/

namespace WireErrors.Source

open Token

/-- Lists of tokens with a comma between two of them. -/
def commaSeparated (parts : List (List Token)) : List Token := List.intercalate (sign ",") parts

/-- Lists of tokens with a plus sign between two of them. -/
def plusSeparated (parts : List (List Token)) : List Token := List.intercalate (sign "+") parts

/-- A word where a condition holds. -/
def wordIf (condition : Bool) (word : String) : List Token :=
  if condition then [.ident word] else []

/-- A sign where a condition holds. -/
def signIf (condition : Bool) (text : String) : List Token := if condition then sign text else []

/-! ## Attributes and visibility -/

def AttributeArgument.tokens : AttributeArgument → List Token
  | .none => []
  | .value spelling => sign "=" ++ [.literal spelling]
  | .expr e => sign "=" ++ e.tokens
  | .list delimiter body => group delimiter body

def Attribute.tokens (a : Attribute) : List Token :=
  sign "#" ++ signIf a.inner "!" ++ group .bracket (a.path.tokens ++ a.argument.tokens)

def attributeTokens (attributes : List Attribute) : List Token :=
  attributes.flatMap Attribute.tokens

def Visibility.tokens : Visibility → List Token
  | .inherited => []
  | .everyone => [.ident "pub"]
  | .within path => .ident "pub" :: group .paren (.ident "in" :: path.tokens)

/-! ## Types -/

def Convention.tokens : Convention → List Token
  | .standard => []
  | .foreign none => [.ident "extern"]
  | .foreign (some name) => [.ident "extern", .literal name]

/-- A name with the colon after it, if one is given. -/
def namedTokens : Option String → List Token
  | none => []
  | some name => .ident name :: sign ":"

def FurtherInputs.tokens (further : FurtherInputs) : List Token :=
  attributeTokens further.attributes ++ namedTokens further.name ++ sign "..."

/-- The bounds after a colon, if there are any. -/
def boundTokens (bounds : List (List Token)) : List Token :=
  if bounds.isEmpty then [] else sign ":" ++ plusSeparated bounds

def Captured.tokens : Captured → List Token
  | .lifetime name => Token.lifetime name
  | .type name => [.ident name]

mutual

def TypeExpr.tokens : TypeExpr → List Token
  | .path route => route.tokens true
  | .reference lifetime mutable target =>
    sign "&" ++ (match lifetime with | some name => Token.lifetime name | none => []) ++
      wordIf mutable "mut" ++ target.tokens
  | .pointer mutable target =>
    sign "*" ++ [.ident (if mutable then "mut" else "const")] ++ target.tokens
  | .slice element => group .bracket element.tokens
  | .array element length => group .bracket (element.tokens ++ sign ";" ++ length.tokens)
  | .tuple [] => group .paren []
  | .tuple (first :: rest) =>
    group .paren (first.tokens ++ sign "," ++ commaSeparated (TypeExpr.listTokens rest))
  | .enclosed type => group .paren type.tokens
  | .never => sign "!"
  | .inferred => [.ident "_"]
  | .function binder unchecked convention inputs further result =>
    binderTokens binder ++ wordIf unchecked "unsafe" ++ convention.tokens ++ .ident "fn" ::
      group .paren (commaSeparated (FunctionInput.listTokens inputs ++
        (further.map FurtherInputs.tokens).toList)) ++ TypeExpr.resultTokens result
  | .object bounds => .ident "dyn" :: plusSeparated (Bound.listTokens bounds)
  | .hidden bounds => .ident "impl" :: plusSeparated (Bound.listTokens bounds)
  | .invocation path delimiter body => path.tokens ++ sign "!" ++ group delimiter body
  | .unformatted tokens => tokens

def TypeExpr.listTokens : List TypeExpr → List (List Token)
  | [] => []
  | type :: rest => type.tokens :: TypeExpr.listTokens rest

def FunctionInput.tokens : FunctionInput → List Token
  | .mk attributes name type => attributeTokens attributes ++ namedTokens name ++ type.tokens

def FunctionInput.listTokens : List FunctionInput → List (List Token)
  | [] => []
  | input :: rest => input.tokens :: FunctionInput.listTokens rest

def TypeExpr.resultTokens : Option TypeExpr → List Token
  | none => []
  | some type => sign "->" ++ type.tokens

/-- The tokens of a path; in expressions, `::` stands in front of arguments. -/
def Route.tokens (inType : Bool) : Route → List Token
  | .plain absolute segments =>
    signIf absolute "::" ++ List.intercalate (sign "::") (Segment.listTokens inType segments)
  | .within type absolute interface segments =>
    sign "<" ++ type.tokens ++
      (if interface.isEmpty then []
        else .ident "as" :: signIf absolute "::" ++
          List.intercalate (sign "::") (Segment.listTokens true interface)) ++
      sign ">" ++ sign "::" ++
      List.intercalate (sign "::") (Segment.listTokens inType segments)

def Segment.tokens (inType : Bool) : Segment → List Token
  | .mk name arguments => .ident name :: arguments.tokens inType

def Segment.listTokens (inType : Bool) : List Segment → List (List Token)
  | [] => []
  | segment :: rest => segment.tokens inType :: Segment.listTokens inType rest

def Arguments.tokens (inType : Bool) : Arguments → List Token
  | .none => []
  | .angled list =>
    signIf (!inType) "::" ++ sign "<" ++ commaSeparated (Argument.listTokens list) ++ sign ">"
  | .called inputs result =>
    group .paren (commaSeparated (TypeExpr.listTokens inputs)) ++ TypeExpr.resultTokens result

def Argument.tokens : Argument → List Token
  | .lifetime name => Token.lifetime name
  | .type type => type.tokens
  | .constant value => value.tokens
  | .equal segment type => segment.tokens true ++ sign "=" ++ type.tokens
  | .equalConstant segment value => segment.tokens true ++ sign "=" ++ value.tokens
  | .bounded segment bounds =>
    segment.tokens true ++ sign ":" ++ plusSeparated (Bound.listTokens bounds)

def Argument.listTokens : List Argument → List (List Token)
  | [] => []
  | argument :: rest => argument.tokens :: Argument.listTokens rest

def Bound.tokens : Bound → List Token
  | .lifetime name => Token.lifetime name
  | .interface enclosed binder isOptional absolute segments =>
    let inside := binderTokens binder ++ signIf isOptional "?" ++ signIf absolute "::" ++
      List.intercalate (sign "::") (Segment.listTokens true segments)
    if enclosed then group .paren inside else inside
  | .capture names =>
    .ident "use" :: sign "<" ++ commaSeparated (names.map Captured.tokens) ++ sign ">"
  | .unformatted tokens => tokens

def Bound.listTokens : List Bound → List (List Token)
  | [] => []
  | bound :: rest => bound.tokens :: Bound.listTokens rest

def GenericParameter.tokens : GenericParameter → List Token
  | .lifetime attributes name bounds =>
    attributeTokens attributes ++ Token.lifetime name ++ boundTokens (bounds.map Token.lifetime)
  | .type attributes name bounds standard =>
    attributeTokens attributes ++ .ident name :: boundTokens (Bound.listTokens bounds) ++
      (match standard with | some t => sign "=" ++ t.tokens | none => [])
  | .constant attributes name t standard =>
    attributeTokens attributes ++ [.ident "const", .ident name] ++ sign ":" ++ t.tokens ++
      (match standard with | some value => sign "=" ++ value.tokens | none => [])

def GenericParameter.listTokens : List GenericParameter → List (List Token)
  | [] => []
  | parameter :: rest => parameter.tokens :: GenericParameter.listTokens rest

/-- The parameters for any choice of which something holds. -/
def binderTokens : Option (List GenericParameter) → List Token
  | none => []
  | some parameters =>
    .ident "for" :: sign "<" ++ commaSeparated (GenericParameter.listTokens parameters) ++ sign ">"

end

/-! ## Generic items -/

def Condition.tokens : Condition → List Token
  | .lifetime name bounds =>
    Token.lifetime name ++ sign ":" ++ plusSeparated (bounds.map Token.lifetime)
  | .type binder t bounds =>
    binderTokens binder ++ t.tokens ++ sign ":" ++
      plusSeparated (Bound.listTokens bounds)

/-- The parameters of a generic item in angle brackets, if there are any. -/
def Generics.parameterTokens (generics : Generics) : List Token :=
  if generics.parameters.isEmpty then []
  else sign "<" ++ commaSeparated (generics.parameters.map GenericParameter.tokens) ++ sign ">"

/-- The conditions of a generic item, if there are any. -/
def Generics.conditionTokens (generics : Generics) : List Token :=
  if generics.conditions.isEmpty then []
  else .ident "where" :: commaSeparated (generics.conditions.map Condition.tokens)

end WireErrors.Source
