import WireErrors.Source.Identifier
import WireErrors.Text.Normalization

/-!
# Identity of identifiers

Two identifiers are the same if their raw forms and the ways to compose their characters are all that
they differ in. What stands around an identifier in a text does not count.
-/

namespace WireErrors.Source

open Text

/-- An identifier without the sign of its raw form. -/
def withoutRaw (name : String) : String :=
  match name.toList with
  | 'r' :: '#' :: plain => String.ofList plain
  | _ => name

/-- What identifiers are compared by. -/
def identity (name : String) : String := normalForm (withoutRaw name)

/-- The identifier that a text denotes. -/
def identifier? (text : String) : Option String :=
  match read text with
  | some [.ident name] => some (identity name)
  | _ => none

end WireErrors.Source
