import WireErrors.Text.Casing
import WireErrors.Text.Split

/-!
# Words of a name

A name is cut at every character that is neither a letter nor a number, before a capital that
follows a small letter, and before the last capital of a row that a small letter follows. The words
are joined again in UpperCamelCase or SHOUTY_SNAKE_CASE.
-/

namespace WireErrors.Text

/-! ## Segmentation -/

/-- The letters of the current word that were seen last. -/
inductive Row where
  | start
  | small
  | capital
deriving DecidableEq

/-- The row after one more character; characters without case leave it as it is. -/
def Row.next (row : Row) (c : Char) : Row :=
  if isLowercase c then .small else if isUppercase c then .capital else row

/-- The words of one piece, given the row and the characters of the word so far. -/
def humps (row : Row) (word : List Char) : List Char → List (List Char)
  | [] => []
  | [c] => [word ++ [c]]
  | c :: d :: rest =>
    if row.next c = .small && isUppercase d then (word ++ [c]) :: humps .start [] (d :: rest)
    else if row = .capital && isUppercase c && isLowercase d then
      word :: humps .start [c] (d :: rest)
    else humps (row.next c) (word ++ [c]) (d :: rest)

/-- The words of a name, in order; none is empty. -/
def words (text : List Char) : List (List Char) :=
  (splitWhere (!isAlphanumeric ·) [] text).flatMap (humps .start [])

/-! ## Joined forms -/

/-- Lower case of the end of a word, whose last character may be a final sigma. -/
def lowerTail : List Char → List Char
  | [] => []
  | [c] => if c = 'Σ' then ['ς'] else lower c
  | c :: rest => lower c ++ lowerTail rest

def capitalized : List Char → List Char
  | [] => []
  | c :: rest => upper c ++ lowerTail rest

def upperCamel (text : List Char) : List Char := (words text).flatMap capitalized

def shoutySnake (text : List Char) : List Char :=
  List.intercalate ['_'] ((words text).map (List.flatMap upper))

end WireErrors.Text
