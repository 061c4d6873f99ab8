import WireErrors.Source.Tree.Item
import WireErrors.Source.Spelling.Expression

/-!
# Tokens of items

A comma follows every named field and every variant; the elements of other lists are separated by
commas. Attributes inside of an item are spelled after its first brace.
-/

namespace WireErrors.Source

open Token

/-- The attributes in front of an item. -/
def outerTokens (attributes : List Attribute) : List Token :=
  attributeTokens (attributes.filter fun a => !a.inner)

/-- The attributes inside of an item. -/
def innerTokens (attributes : List Attribute) : List Token :=
  attributeTokens (attributes.filter fun a => a.inner)

/-- The start of an item, from a word for its kind on, without conditions. -/
def Heading.tokens (heading : Heading) (words : List Token) : List Token :=
  outerTokens heading.attributes ++ heading.visibility.tokens ++ words ++ .ident heading.name ::
    heading.generics.parameterTokens

/-! ## Functions, constants and aliases -/

def Parameter.tokens : Parameter → List Token
  | .receiver attributes reference mutable type =>
    attributeTokens attributes ++ (match reference with
      | some lifetime => sign "&" ++ targetTokens lifetime
      | none => []) ++
      wordIf mutable "mut" ++ .ident "self" ::
      (match type with | some type => sign ":" ++ type.tokens | none => [])
  | .typed attributes pattern type =>
    attributeTokens attributes ++ pattern.tokens ++ sign ":" ++ type.tokens
  | .further attributes pattern =>
    attributeTokens attributes ++
      (match pattern with | some pattern => pattern.tokens ++ sign ":" | none => []) ++ sign "..."

def Signature.tokens (s : Signature) : List Token :=
  outerTokens s.attributes ++ s.visibility.tokens ++ wordIf s.replaceable "default" ++
    wordIf s.constant "const" ++ wordIf s.deferred "async" ++ wordIf s.unchecked "unsafe" ++
    s.convention.tokens ++ [.ident "fn", .ident s.name] ++ s.generics.parameterTokens ++
    group .paren (commaSeparated (s.parameters.map Parameter.tokens)) ++
    (match s.result with | some type => sign "->" ++ type.tokens | none => []) ++
    s.generics.conditionTokens

def Function.tokens (f : Function) : List Token :=
  f.toSignature.tokens ++
    group .brace (innerTokens f.attributes ++ Statement.listTokens f.body)

/-- A constant or static variable after its first words. -/
def Constant.declaration (c : Constant) : List Token :=
  .ident c.name :: sign ":" ++ c.type.tokens ++ sign "=" ++ c.value.tokens ++ sign ";"

def Constant.tokens (c : Constant) : List Token :=
  outerTokens c.attributes ++ c.visibility.tokens ++ wordIf c.replaceable "default" ++
    .ident "const" :: c.declaration

/-- Another name for a type; conditions stand in front of the type in an item and after it in a
member. -/
def Alias.tokens (isMember : Bool) (a : Alias) : List Token :=
  outerTokens a.attributes ++ a.visibility.tokens ++ wordIf a.replaceable "default" ++
    [.ident "type", .ident a.name] ++ a.generics.parameterTokens ++
    (if isMember then sign "=" ++ a.type.tokens ++ a.generics.conditionTokens
      else a.generics.conditionTokens ++ sign "=" ++ a.type.tokens) ++ sign ";"

def Invocation.tokens (i : Invocation) : List Token :=
  outerTokens i.attributes ++ i.path.tokens ++ sign "!" ++
    (match i.name with | some name => [.ident name] | none => []) ++ group i.delimiter i.body ++
    signIf (i.delimiter != .brace) ";"

def Member.tokens : Member → List Token
  | .function f => f.tokens
  | .constant c => c.tokens
  | .alias a => a.tokens true
  | .invocation i => i.tokens
  | .functionDeclaration s => s.tokens ++ sign ";"
  | .constantDeclaration attributes name type =>
    outerTokens attributes ++ [.ident "const", .ident name] ++ sign ":" ++ type.tokens ++ sign ";"
  | .typeDeclaration attributes name generics bounds standard =>
    outerTokens attributes ++ [.ident "type", .ident name] ++ generics.parameterTokens ++
      boundTokens (Bound.listTokens bounds) ++
      (match standard with | some type => sign "=" ++ type.tokens | none => []) ++
      generics.conditionTokens ++ sign ";"
  | .staticDeclaration attributes visibility mutable name type =>
    outerTokens attributes ++ visibility.tokens ++ .ident "static" :: wordIf mutable "mut" ++
      .ident name :: sign ":" ++ type.tokens ++ sign ";"
  | .foreignType heading =>
    heading.tokens [.ident "type"] ++ heading.generics.conditionTokens ++ sign ";"
  | .unformatted tokens => tokens

/-! ## Types with fields -/

def Field.tokens (field : Field) : List Token :=
  outerTokens field.attributes ++ field.visibility.tokens ++ namedTokens field.name ++
    field.type.tokens

def positionalTokens (fields : List Field) : List Token :=
  group .paren (commaSeparated (fields.map Field.tokens))

def fieldTokens (fields : List Field) : List Token :=
  group .brace (fields.flatMap fun field => field.tokens ++ sign ",")

def Variant.tokens (variant : Variant) : List Token :=
  outerTokens variant.attributes ++ .ident variant.name ::
    (match variant.fields with
      | .none => []
      | .positional fields => positionalTokens fields
      | .named fields => fieldTokens fields) ++
    (match variant.value with | some value => sign "=" ++ value.tokens | none => []) ++ sign ","

/-! ## Items -/

mutual

def Import.tokens : Import → List Token
  | .item name => [.ident name]
  | .renamed name newName => [.ident name, .ident "as", .ident newName]
  | .all => sign "*"
  | .inside name tree => .ident name :: sign "::" ++ tree.tokens
  | .several trees => group .brace (commaSeparated (Import.listTokens trees))

def Import.listTokens : List Import → List (List Token)
  | [] => []
  | tree :: rest => tree.tokens :: Import.listTokens rest

end

mutual

def Item.tokens : Item → List Token
  | .use attributes visibility absolute tree =>
    outerTokens attributes ++ visibility.tokens ++ .ident "use" :: signIf absolute "::" ++
      tree.tokens ++ sign ";"
  | .library attributes visibility name newName =>
    outerTokens attributes ++ visibility.tokens ++
      [.ident "extern", .ident "crate", .ident name] ++
      (match newName with | some newName => [.ident "as", .ident newName] | none => []) ++
      sign ";"
  | .record heading .none =>
    heading.tokens [.ident "struct"] ++ heading.generics.conditionTokens ++ sign ";"
  | .record heading (.positional fields) =>
    heading.tokens [.ident "struct"] ++ positionalTokens fields ++
      heading.generics.conditionTokens ++ sign ";"
  | .record heading (.named fields) =>
    heading.tokens [.ident "struct"] ++ heading.generics.conditionTokens ++ fieldTokens fields
  | .union heading fields =>
    heading.tokens [.ident "union"] ++ heading.generics.conditionTokens ++ fieldTokens fields
  | .enumeration heading variants =>
    heading.tokens [.ident "enum"] ++ heading.generics.conditionTokens ++
      group .brace (variants.flatMap Variant.tokens)
  | .implementation attributes replaceable unchecked generics negative implemented type members =>
    outerTokens attributes ++ wordIf replaceable "default" ++ wordIf unchecked "unsafe" ++
      .ident "impl" :: generics.parameterTokens ++ signIf negative "!" ++
      (match implemented with | some path => path.tokens ++ [.ident "for"] | none => []) ++
      type.tokens ++ generics.conditionTokens ++
      group .brace (innerTokens attributes ++ members.flatMap Member.tokens)
  | .interface heading unchecked automatic bounds members =>
    heading.tokens (wordIf unchecked "unsafe" ++ wordIf automatic "auto" ++ [.ident "trait"]) ++
      boundTokens (Bound.listTokens bounds) ++ heading.generics.conditionTokens ++
      group .brace (innerTokens heading.attributes ++ members.flatMap Member.tokens)
  | .interfaceAlias heading bounds =>
    heading.tokens [.ident "trait"] ++ sign "=" ++ plusSeparated (Bound.listTokens bounds) ++
      heading.generics.conditionTokens ++ sign ";"
  | .foreign attributes unchecked convention members =>
    outerTokens attributes ++ wordIf unchecked "unsafe" ++ convention.tokens ++
      group .brace (innerTokens attributes ++ members.flatMap Member.tokens)
  | .function f => f.tokens
  | .constant c => c.tokens
  | .static mutable c =>
    outerTokens c.attributes ++ c.visibility.tokens ++ .ident "static" :: wordIf mutable "mut" ++
      c.declaration
  | .alias a => a.tokens false
  | .invocation i => i.tokens
  | .module attributes visibility unchecked name items =>
    outerTokens attributes ++ visibility.tokens ++ wordIf unchecked "unsafe" ++
      [.ident "mod", .ident name] ++
      group .brace (innerTokens attributes ++ Item.listTokens items)
  | .moduleFile attributes visibility unchecked name =>
    outerTokens attributes ++ visibility.tokens ++ wordIf unchecked "unsafe" ++
      [.ident "mod", .ident name] ++ sign ";"
  | .unformatted tokens => tokens

def Item.listTokens : List Item → List Token
  | [] => []
  | item :: rest => item.tokens ++ Item.listTokens rest

end

end WireErrors.Source
