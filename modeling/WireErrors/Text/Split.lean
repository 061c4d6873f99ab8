import WireErrors.Text.Classes

/-!
# Trimming and splitting

Texts without the blank space around them, and the parts of a text that a mark separates. The parts
with the marks between them are the whole text again.
-/

namespace WireErrors.Text

/-- A text without the blank characters at both of its ends. -/
def trim (text : List Char) : List Char :=
  ((text.dropWhile isBlank).reverse.dropWhile isBlank).reverse

/-- The pieces between the characters that separate; always at least one. `piece` holds what has
been read of the first piece. -/
def splitWhere (separates : Char → Bool) (piece : List Char) : List Char → List (List Char)
  | [] => [piece]
  | c :: rest =>
    if separates c then piece :: splitWhere separates [] rest
    else splitWhere separates (piece ++ [c]) rest

/-- The pieces between the places where a mark stands. -/
def splitAt (mark : Char) (text : List Char) : List (List Char) := splitWhere (· == mark) [] text

/-- The text before and the text after the first place of a mark. -/
def splitFirst? (mark : Char) : List Char → Option (List Char × List Char)
  | [] => none
  | c :: rest =>
    if c = mark then some ([], rest)
    else (splitFirst? mark rest).map fun (before, after) => (c :: before, after)

/-- The text before and the text after the last place of a mark. -/
def splitLast? (mark : Char) : List Char → Option (List Char × List Char)
  | [] => none
  | c :: rest =>
    match splitLast? mark rest with
    | some (before, after) => some (c :: before, after)
    | none => if c = mark then some ([], rest) else none

end WireErrors.Text
