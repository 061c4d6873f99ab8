import WireErrors.Source.Tree.Item

/-!
# Words in items

The words that types go by in items, those of the types that the items define among them, the words
that longer paths start with, and the names that an import has at both ends.
-/

namespace WireErrors.Source

/-- The name of a path of one segment, whatever the arguments. -/
def Route.single? : Route → Option String
  | .plain false [.mk name _] => some name
  | _ => none

/-- The first name of a path of several segments that starts from what is around it. -/
def Route.root? : Route → Option String
  | .plain false (.mk name _ :: _ :: _) => some name
  | _ => none

section

variable (word? : Route → Option String)

mutual

/-- The words that the paths in a type have, those in its arguments included. Types of functions and
types given by bounds are left out. -/
def TypeExpr.words : TypeExpr → List String
  | .path (.plain absolute segments) =>
    (word? (.plain absolute segments)).toList ++ Segment.listWords segments
  | .path (.within type _ interface segments) =>
    type.words ++ Segment.listWords interface ++ Segment.listWords segments
  | .reference _ _ target | .pointer _ target | .slice target | .array target _ | .enclosed target =>
    target.words
  | .tuple elements => TypeExpr.listWords elements
  | _ => []

def TypeExpr.listWords : List TypeExpr → List String
  | [] => []
  | type :: rest => type.words ++ TypeExpr.listWords rest

def Segment.listWords : List Segment → List String
  | [] => []
  | .mk _ (.angled list) :: rest => Argument.listWords list ++ Segment.listWords rest
  | _ :: rest => Segment.listWords rest

def Argument.listWords : List Argument → List String
  | [] => []
  | .type type :: rest => type.words ++ Argument.listWords rest
  | _ :: rest => Argument.listWords rest

end

end

/-! ## Types in items -/

def Parameter.type? : Parameter → Option TypeExpr
  | .receiver _ _ _ type => type
  | .typed _ _ type => some type
  | .further .. => none

def Signature.types (s : Signature) : List TypeExpr :=
  s.parameters.filterMap Parameter.type? ++ s.result.toList

def Member.types : Member → List TypeExpr
  | .function f => f.toSignature.types
  | .constant c => [c.type]
  | _ => []

def Fields.types : Fields → List TypeExpr
  | .none => []
  | .positional fields | .named fields => fields.map (·.type)

/-- The types that are given in an item, without the trait that it may implement. -/
def Item.types : Item → List TypeExpr
  | .record _ fields => fields.types
  | .enumeration _ variants => variants.flatMap (·.fields.types)
  | .implementation _ _ _ _ _ _ type members => type :: members.flatMap Member.types
  | _ => []

/-- What stands at the start of a type that an item defines. -/
def Item.heading? : Item → Option Heading
  | .record heading _ | .enumeration heading _ => some heading
  | _ => none

/-- The type that an item defines. -/
def Item.definedType? (item : Item) : Option String := item.heading?.map (·.name)

/-- The words that types go by in some items, defined in them or not. -/
def typeWords (items : List Item) : List String :=
  items.filterMap Item.definedType? ++
    items.flatMap fun item => item.types.flatMap (TypeExpr.words Route.single?)

/-! ## Starts of paths -/

/-- The trait that an item implements. -/
def Item.implemented? : Item → Option TypeExpr
  | .implementation _ _ _ _ _ implemented _ _ => implemented
  | _ => none

/-- The words that paths of several segments start with in a list of paths; what is `behind` the start
of a path does not count. -/
def Token.roots (behind : Bool) : List Token → List String
  | .mark ',' _ :: rest => roots false rest
  | .mark ':' _ :: rest => roots true rest
  | .ident name :: .mark ':' joint :: rest =>
    (if behind then [] else [name]) ++ roots behind (.mark ':' joint :: rest)
  | _ :: rest => roots behind rest
  | [] => []

/-- The words that the paths of derived traits start with. -/
def Attribute.roots (a : Attribute) : List String :=
  match a.argument with
  | .list _ body => if a.path = ⟨false, ["derive"]⟩ then Token.roots false body else []
  | _ => []

/-- The words that paths of several segments start with in the types and traits of an item. -/
def Item.roots (item : Item) : List String :=
  (item.types ++ item.implemented?.toList).flatMap (TypeExpr.words Route.root?) ++
    (item.heading?.toList.flatMap (·.attributes)).flatMap Attribute.roots

/-- The words that paths of several segments start with in the types and traits of some items. -/
def pathRoots (items : List Item) : List String := items.flatMap Item.roots

/-! ## Imports -/

/-- The name at the end of an import of one item. -/
def Import.last? : Import → Option String
  | .item name => some name
  | .inside _ tree => tree.last?
  | _ => none

/-- The name that an item imports. -/
def Item.imported? : Item → Option String
  | .use _ _ _ tree => tree.last?
  | _ => none

/-- The name at the start of an import, if it stands for something around the item. -/
def Item.importRoot? : Item → Option String
  | .use _ _ false (.inside name _) => some name
  | _ => none

end WireErrors.Source
