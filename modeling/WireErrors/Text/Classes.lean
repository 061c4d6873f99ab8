import WireErrors.Text.Table.WhiteSpace
import WireErrors.Text.Table.Alphanumeric
import WireErrors.Text.Table.Lowercase
import WireErrors.Text.Table.Uppercase
import WireErrors.Text.Table.Cased
import WireErrors.Text.Table.CaseIgnorable
import WireErrors.Text.Table.IdentStart
import WireErrors.Text.Table.IdentContinue
import WireErrors.Text.Table.GraphemeExtend
import WireErrors.Text.Table.Unprintable

/-!
# Character classes

Membership of a character in the Unicode properties that names, source text and literals depend on.
-/

namespace WireErrors.Text

def isBlank (c : Char) : Bool := Table.whiteSpace.has c.toNat

def isAlphanumeric (c : Char) : Bool := Table.alphanumeric.has c.toNat

def isLowercase (c : Char) : Bool := Table.lowercase.has c.toNat

def isUppercase (c : Char) : Bool := Table.uppercase.has c.toNat

def isCased (c : Char) : Bool := Table.cased.has c.toNat

def isCaseIgnorable (c : Char) : Bool := Table.caseIgnorable.has c.toNat

/-- Whether an identifier may start with the character. -/
def isIdentStart (c : Char) : Bool := c == '_' || Table.identStart.has c.toNat

/-- Whether an identifier may go on with the character. -/
def isIdentContinue (c : Char) : Bool := Table.identContinue.has c.toNat

def isGraphemeExtend (c : Char) : Bool := Table.graphemeExtend.has c.toNat

def isPrintable (c : Char) : Bool := !Table.unprintable.has c.toNat

/-! ## Characters of a list -/

/-- What holds of the characters in a list is decided by looking at these, not at all that exist. -/
instance decidableForallChars {P : Char → Prop} [DecidablePred P] (chars : List Char) :
    Decidable (∀ c ∈ chars, P c) :=
  List.decidableBAll P chars

instance decidableExistsChar {P : Char → Prop} [DecidablePred P] (chars : List Char) :
    Decidable (∃ c ∈ chars, P c) :=
  List.decidableBEx P chars

end WireErrors.Text
