import WireErrors.Text.Ranges
import WireErrors.Text.Table.Decomposition
import WireErrors.Text.Table.CombiningClass
import WireErrors.Text.Table.Composition

/-!
# Composed normal form

Texts that only differ in how their characters are composed of base characters and marks have the
same composed normal form (Unicode normalization form C): characters are decomposed, marks are put
into the order of their classes, and what can be composed is composed again.
-/

namespace WireErrors.Text

/-! ## Decomposition -/

/-- The letters that a Hangul syllable is composed of. -/
def syllableLetters? (c : Char) : Option (List Char) :=
  if 0xAC00 ≤ c.toNat ∧ c.toNat < 0xD7A4 then
    let index := c.toNat - 0xAC00
    let first := Char.ofNat (0x1100 + index / 588)
    let second := Char.ofNat (0x1161 + index % 588 / 28)
    some (if index % 28 = 0 then [first, second]
      else [first, second, Char.ofNat (0x11A7 + index % 28)])
  else none

def decompositionTables : List (List (Nat × List Nat)) :=
  [Table.decompositions, Table.basicIdeographs, Table.supplementaryIdeographs]

/-- The characters that a character is composed of in the end. -/
def decompose (c : Char) : List Char :=
  match syllableLetters? c with
  | some letters => letters
  | none =>
    match decompositionTables.findSome? (expansion? · c.toNat) with
    | some image => image.map Char.ofNat
    | none => [c]

/-! ## Order of marks -/

/-- The class of a code point in an ascending list of ranges. -/
def classIn : List (Nat × Nat × Nat) → Nat → Nat
  | [], _ => 0
  | (lo, hi, number) :: rest, n => if n < lo then 0 else if n ≤ hi then number else classIn rest n

/-- The class of a mark; a character of class zero starts a new sequence of marks. -/
def combiningClass (c : Char) : Nat := classIn Table.combiningClasses c.toNat

/-- Puts a character in front, behind the marks that a mark is to follow. -/
def place (c : Char) : List Char → List Char
  | [] => [c]
  | first :: rest =>
    if combiningClass first ≠ 0 ∧ combiningClass first < combiningClass c then
      first :: place c rest
    else c :: first :: rest

/-- The characters with sequences of marks in the order of their classes. -/
def reorder : List Char → List Char
  | [] => []
  | c :: rest => place c (reorder rest)

/-! ## Composition -/

/-- The Hangul syllable that is composed of two letters, or of a syllable and a letter. -/
def syllable? (first second : Char) : Option Char :=
  let a := first.toNat
  let b := second.toNat
  if 0x1100 ≤ a ∧ a < 0x1113 ∧ 0x1161 ≤ b ∧ b < 0x1176 then
    some (Char.ofNat (0xAC00 + (a - 0x1100) * 588 + (b - 0x1161) * 28))
  else if 0xAC00 ≤ a ∧ a < 0xD7A4 ∧ (a - 0xAC00) % 28 = 0 ∧ 0x11A8 ≤ b ∧ b < 0x11C3 then
    some (Char.ofNat (a + (b - 0x11A7)))
  else none

/-- The character that two characters are composed to. -/
def composite? (first second : Char) : Option Char :=
  match syllable? first second with
  | some syllable => some syllable
  | none =>
    match Table.compositions.lookup second.toNat with
    | some pairs => (pairs.lookup first.toNat).map Char.ofNat
    | none => none

/-- Composes what follows a character with it, where no mark of the same or a higher class stands
between them; `marks` are those that stay uncomposed. -/
def composeWith (start : Char) (marks : List Char) : List Char → List Char
  | [] => start :: marks
  | c :: rest =>
    let blocked := marks.any fun mark => combiningClass c ≤ combiningClass mark
    match if blocked then none else composite? start c with
    | some composite => composeWith composite marks rest
    | none =>
      if combiningClass c = 0 then start :: marks ++ composeWith c [] rest
      else composeWith start (marks ++ [c]) rest

def compose : List Char → List Char
  | [] => []
  | c :: rest => if combiningClass c = 0 then composeWith c [] rest else c :: compose rest

/-- The composed normal form of a text. -/
def normalForm (text : String) : String :=
  String.ofList (compose (reorder (text.toList.flatMap decompose)))

end WireErrors.Text
