import WireErrors.Source.Tree.Attribute

/-!
# Types

Type expressions, the paths that occur in types, patterns and expressions, and the parameters and
conditions of generic items. `TypeExpr.last` says which token a type ends with.
-/

namespace WireErrors.Source

/-- How a function is called from outside: as usual, or by a foreign convention with its name. -/
inductive Convention where
  | standard
  | foreign (name : Option String)
deriving DecidableEq, Repr

/-- The dots for any number of further arguments of a function, and the name given for them. -/
structure FurtherInputs where
  attributes : List Attribute
  name : Option String
deriving DecidableEq, Repr

/-- What a type of which only bounds are known may depend on. -/
inductive Captured where
  | lifetime (name : String)
  | type (name : String)
deriving DecidableEq, Repr

mutual

inductive TypeExpr where
  | path (route : Route)
  | reference (lifetime : Option String) (mutable : Bool) (target : TypeExpr)
  | pointer (mutable : Bool) (target : TypeExpr)
  | slice (element : TypeExpr)
  /-- An array with the expression for its length. -/
  | array (element : TypeExpr) (length : Excerpt)
  | tuple (elements : List TypeExpr)
  | enclosed (type : TypeExpr)
  | never
  | inferred
  /-- The type of functions, for any choice of the parameters in `binder`. -/
  | function (binder : Option (List GenericParameter)) (unchecked : Bool) (convention : Convention)
      (inputs : List FunctionInput) (further : Option FurtherInputs) (result : Option TypeExpr)
  /-- A value of any type with some bounds, behind a table of its methods. -/
  | object (bounds : List Bound)
  /-- A type of which only bounds are known. -/
  | hidden (bounds : List Bound)
  /-- A use of a macro with the tokens between its delimiters. -/
  | invocation (path : Path) (delimiter : Delimiter) (body : List Token)
  /-- Tokens that are read as a type and have no layout. -/
  | unformatted (tokens : List Token)

/-- An input of a function type, for which a name may be given. -/
inductive FunctionInput where
  | mk (attributes : List Attribute) (name : Option String) (type : TypeExpr)

/-- A path whose segments may have arguments. -/
inductive Route where
  | plain (absolute : Bool) (segments : List Segment)
  /-- The path of `<type as interface>::segments`; without segments in `interface`, of
  `<type>::segments`. -/
  | within (type : TypeExpr) (absolute : Bool) (interface segments : List Segment)

inductive Segment where
  | mk (name : String) (arguments : Arguments)

inductive Arguments where
  | none
  | angled (list : List Argument)
  /-- The arguments of `Fn(A, B) -> C`. -/
  | called (inputs : List TypeExpr) (result : Option TypeExpr)

inductive Argument where
  /-- A lifetime, given without its apostrophe. -/
  | lifetime (name : String)
  | type (type : TypeExpr)
  /-- A literal or block. -/
  | constant (value : Excerpt)
  | equal (segment : Segment) (type : TypeExpr)
  | equalConstant (segment : Segment) (value : Excerpt)
  | bounded (segment : Segment) (bounds : List Bound)

inductive Bound where
  | lifetime (name : String)
  /-- A trait, for any choice of the parameters in `binder`; `optional` if the bound lifts a default
  one. -/
  | interface (enclosed : Bool) (binder : Option (List GenericParameter))
      (optional absolute : Bool) (segments : List Segment)
  /-- What a type may depend on. -/
  | capture (names : List Captured)
  /-- Tokens that are read as a bound and have no layout. -/
  | unformatted (tokens : List Token)

/-- A parameter of a generic item, or one for any choice of which something holds. -/
inductive GenericParameter where
  | lifetime (attributes : List Attribute) (name : String) (bounds : List String)
  | type (attributes : List Attribute) (name : String) (bounds : List Bound)
      (standard : Option TypeExpr)
  | constant (attributes : List Attribute) (name : String) (type : TypeExpr)
      (standard : Option Excerpt)

end

/-- A segment without arguments. -/
abbrev Segment.plain (name : String) : Segment := .mk name .none

/-- A path of names without arguments. -/
abbrev Route.names (names : List String) : Route := .plain false (names.map .plain)

/-- A type given by a path of names without arguments. -/
abbrev TypeExpr.names (names : List String) : TypeExpr := .path (.names names)

/-- A type with a one-word name. -/
abbrev TypeExpr.named (name : String) : TypeExpr := .names [name]

/-- The type `&str`. -/
def TypeExpr.text : TypeExpr := .reference none false (.named "str")

/-- The name that a path consists of, if it is one word without arguments. -/
def Route.word? : Route → Option String
  | .plain false [.mk name .none] => some name
  | _ => none

/-- The path without its arguments, if it has none. -/
def Route.path? : Route → Option Path
  | .plain absolute segments => (names? segments).map fun names => ⟨absolute, names⟩
  | .within .. => none
where
  names? : List Segment → Option (List String)
    | [] => some []
    | .mk name .none :: rest => (names? rest).map (name :: ·)
    | _ :: _ => none

/-! ## Last tokens -/

/-- What the last token of a type is, as far as that decides how to go on behind it. -/
inductive TypeEnd where
  | brace
  /-- A name in a path, which has no arguments. -/
  | name
  | other
deriving DecidableEq

/-- The end of a type that ends with some tokens. -/
def TypeEnd.ofTokens (tokens : List Token) : TypeEnd :=
  if tokens.getLast? = some (.closing .brace) then .brace else .other

mutual

/-- The last token of a type. -/
def TypeExpr.last : TypeExpr → TypeEnd
  | .path (.plain _ segments) | .path (.within _ _ _ segments) => Segment.listLast segments
  | .reference _ _ target | .pointer _ target => target.last
  | .function _ _ _ _ _ (some result) => result.last
  | .object bounds | .hidden bounds => Bound.listLast bounds
  | .invocation _ delimiter _ => if delimiter = .brace then .brace else .other
  | .unformatted tokens => .ofTokens tokens
  | _ => .other

def Segment.listLast : List Segment → TypeEnd
  | [] | [.mk _ (.called _ none)] | [.mk _ (.angled _)] => .other
  | [.mk _ .none] => .name
  | [.mk _ (.called _ (some result))] => result.last
  | _ :: rest => Segment.listLast rest

def Bound.listLast : List Bound → TypeEnd
  | [] | [.lifetime _] | [.capture _] => .other
  | [.interface _ _ _ _ segments] => Segment.listLast segments
  | [.unformatted tokens] => .ofTokens tokens
  | _ :: rest => Bound.listLast rest

end

/-! ## Generic items -/

/-- A condition on the parameters of a generic item. -/
inductive Condition where
  | lifetime (name : String) (bounds : List String)
  | type (binder : Option (List GenericParameter)) (type : TypeExpr) (bounds : List Bound)

structure Generics where
  parameters : List GenericParameter := []
  conditions : List Condition := []

end WireErrors.Source
