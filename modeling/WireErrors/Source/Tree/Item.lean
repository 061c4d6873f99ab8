import WireErrors.Source.Tree.Expression

/-!
# Items

Items, the members of `impl` blocks and traits, and whole files. Attributes that stand inside of an
item are kept together with those in front of it.
-/

namespace WireErrors.Source

/-- What stands at the start of an item with a name of its own. -/
structure Heading where
  attributes : List Attribute := []
  visibility : Visibility := .inherited
  name : String
  generics : Generics := {}

/-! ## Functions and constants -/

inductive Parameter where
  /-- The parameter `self`, borrowed if there is a `reference`, for which a lifetime may be
  given. -/
  | receiver (attributes : List Attribute) (reference : Option (Option String)) (mutable : Bool)
      (type : Option TypeExpr)
  | typed (attributes : List Attribute) (pattern : Pattern) (type : TypeExpr)
  /-- Any number of further parameters, always the last one. -/
  | further (attributes : List Attribute) (pattern : Option Pattern)

/-- The parameter `&self`. -/
abbrev Parameter.self : Parameter := .receiver [] (some none) false none

/-- A parameter with a plain name. -/
abbrev Parameter.named (name : String) (type : TypeExpr) : Parameter :=
  .typed [] (.binding name) type

structure Signature where
  attributes : List Attribute := []
  visibility : Visibility := .inherited
  /-- Whether an implementation may replace the function. -/
  replaceable : Bool := false
  constant : Bool := false
  deferred : Bool := false
  unchecked : Bool := false
  convention : Convention := .standard
  name : String
  generics : Generics := {}
  parameters : List Parameter
  result : Option TypeExpr

structure Function extends Signature where
  body : List Statement

structure Constant where
  attributes : List Attribute := []
  visibility : Visibility := .inherited
  replaceable : Bool := false
  name : String
  type : TypeExpr
  value : Expr

structure Alias where
  attributes : List Attribute := []
  visibility : Visibility := .inherited
  replaceable : Bool := false
  name : String
  generics : Generics := {}
  type : TypeExpr

/-- A use of a macro in place of an item or member, with the name given after the path. -/
structure Invocation where
  attributes : List Attribute
  path : Path
  name : Option String
  delimiter : Delimiter
  body : List Token

/-- The name of the macro that the use of a macro defines. -/
def Invocation.definition? (i : Invocation) : Option String :=
  if i.path = ⟨false, ["macro_rules"]⟩ then i.name else none

/-- A function, constant or other member of an `impl` block, a trait or a block of foreign items. -/
inductive Member where
  | function (f : Function)
  | constant (c : Constant)
  | alias (a : Alias)
  | invocation (i : Invocation)
  /-- A function without a body. -/
  | functionDeclaration (s : Signature)
  /-- A constant of a trait without a value. -/
  | constantDeclaration (attributes : List Attribute) (name : String) (type : TypeExpr)
  /-- A type of a trait with bounds on it and a type to take where none is given. -/
  | typeDeclaration (attributes : List Attribute) (name : String) (generics : Generics)
      (bounds : List Bound) (standard : Option TypeExpr)
  /-- A foreign variable. -/
  | staticDeclaration (attributes : List Attribute) (visibility : Visibility) (mutable : Bool)
      (name : String) (type : TypeExpr)
  /-- A foreign type. -/
  | foreignType (heading : Heading)
  /-- Tokens that are read as a member and have no layout. -/
  | unformatted (tokens : List Token)

/-! ## Types with fields -/

structure Field where
  attributes : List Attribute := []
  visibility : Visibility := .inherited
  /-- The name, unless the field goes by its position. -/
  name : Option String
  type : TypeExpr

inductive Fields where
  | none
  | positional (fields : List Field)
  | named (fields : List Field)

structure Variant where
  attributes : List Attribute := []
  name : String
  fields : Fields := .none
  value : Option Expr := Option.none

/-! ## Imports -/

inductive Import where
  | item (name : String)
  | renamed (name newName : String)
  | all
  | inside (name : String) (tree : Import)
  | several (trees : List Import)
deriving Repr

/-- The import of the item at the end of a path. -/
def Import.ofNames : List String → Import
  | [] => .several []
  | [name] => .item name
  | name :: rest => .inside name (ofNames rest)

/-! ## Items -/

inductive Item where
  | use (attributes : List Attribute) (visibility : Visibility) (absolute : Bool) (tree : Import)
  | library (attributes : List Attribute) (visibility : Visibility) (name : String)
      (newName : Option String)
  | record (heading : Heading) (fields : Fields)
  | union (heading : Heading) (fields : List Field)
  | enumeration (heading : Heading) (variants : List Variant)
  /-- Members of a type; with a path in `implemented`, which may be denied, those of a trait. -/
  | implementation (attributes : List Attribute) (replaceable unchecked : Bool)
      (generics : Generics) (negative : Bool) (implemented : Option TypeExpr) (type : TypeExpr)
      (members : List Member)
  | interface (heading : Heading) (unchecked automatic : Bool) (bounds : List Bound)
      (members : List Member)
  /-- Another name for bounds. -/
  | interfaceAlias (heading : Heading) (bounds : List Bound)
  /-- Declarations of what is defined elsewhere. -/
  | foreign (attributes : List Attribute) (unchecked : Bool) (convention : Convention)
      (members : List Member)
  | function (f : Function)
  | constant (c : Constant)
  | static (mutable : Bool) (c : Constant)
  | alias (a : Alias)
  | invocation (i : Invocation)
  | module (attributes : List Attribute) (visibility : Visibility) (unchecked : Bool)
      (name : String) (items : List Item)
  /-- A module whose items are in a file of their own. -/
  | moduleFile (attributes : List Attribute) (visibility : Visibility) (unchecked : Bool)
      (name : String)
  /-- Tokens that are read as an item and have no layout. -/
  | unformatted (tokens : List Token)

structure File where
  /-- A first line for the system's program loader. -/
  loader : Option String := none
  attributes : List Attribute
  items : List Item

end WireErrors.Source
