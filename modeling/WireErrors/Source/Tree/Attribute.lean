import WireErrors.Layout.Piece
import WireErrors.Source.Identifier

/-!
# Attributes and visibility

What can stand in front of an item: attributes, documentation among them, and who can see the item.
-/

namespace WireErrors.Source

/-- A part of another kind inside of a tree: its tokens, and how they are laid out. -/
structure Excerpt where
  tokens : List Token
  layout : Layout
deriving DecidableEq, Repr

/-- What follows the path of an attribute. -/
inductive AttributeArgument where
  | none
  /-- A literal after an equals sign. -/
  | value (literal : String)
  /-- An expression after an equals sign. -/
  | expr (value : Excerpt)
  /-- The tokens between delimiters. -/
  | list (delimiter : Delimiter) (body : List Token)
deriving DecidableEq, Repr

structure Attribute where
  /-- Whether the attribute belongs to what it stands in, not to what follows it. -/
  inner : Bool
  path : Path
  argument : AttributeArgument
deriving DecidableEq, Repr

namespace Attribute

/-- A line of documentation, spelled as a raw string. -/
def doc (text : String) : Attribute :=
  ⟨false, ⟨false, ["doc"]⟩, .value ("r\"" ++ text ++ "\"")⟩

/-- A line of documentation of the whole file, spelled as a raw string. -/
def docOfFile (text : String) : Attribute := { doc text with inner := true }

/-- Documentation with an arbitrary text. -/
def docText (text : String) : Attribute :=
  ⟨false, ⟨false, ["doc"]⟩, .value (Text.quote text)⟩

def derive (traits : List (List String)) : Attribute :=
  ⟨false, ⟨false, ["derive"]⟩,
    .list .paren (List.intercalate (Token.sign ",") (traits.map Token.path))⟩

/-- An attribute of the whole file that allows a lint. -/
def allowInFile (lint : List String) : Attribute :=
  ⟨true, ⟨false, ["allow"]⟩, .list .paren (Token.path lint)⟩

/-- The text of an attribute with a one-word path and a string as its value. -/
def textOf? (word : String) (a : Attribute) : Option String :=
  match a.argument with
  | .value literal => if a.path = ⟨false, [word]⟩ then Text.literalValue? literal else none
  | _ => none

/-- The text of a documentation attribute. -/
def docText? (a : Attribute) : Option String := a.textOf? "doc"

end Attribute

/-- Who can see an item. -/
inductive Visibility where
  /-- Whoever can see what is around the item. -/
  | inherited
  | everyone
  /-- The module of a path. -/
  | within (path : Path)
deriving DecidableEq, Repr

end WireErrors.Source
