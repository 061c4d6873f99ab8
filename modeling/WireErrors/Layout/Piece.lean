/-!
# Layouts

A layout is a list of texts, gaps between them and boxes around both. A box that fits on its line is
written on it. In one that does not fit, each gap of a consistent box ends the line, and a gap of
another box ends it where the text up to the next gap would not fit.
-/

namespace WireErrors

/-- A place where a line may end. -/
structure Gap where
  /-- The number of blanks written where the line does not end. -/
  blank : Nat
  /-- Added to the indentation of the box for the new line. -/
  shift : Int
  /-- Written at the end of a line that ends here. -/
  lineEnd : String
  /-- Written at the start of the new line. -/
  lineStart : String
  /-- Written where the line does not end. -/
  inLine : String
  /-- Writes nothing as the last piece of a box, where it only ends what is measured before it. -/
  optional : Bool
  /-- The line never ends here. -/
  never : Bool
  /-- Writes a blank where the line does not end, if the text in front ends with a point. -/
  afterPoint : Bool
deriving DecidableEq, Repr

inductive Piece where
  | text (text : String)
  | gap (g : Gap)
  /-- Opens a box; `shift` is added to the indentation inside it if it does not fit. -/
  | opening (consistent : Bool) (shift : Int)
  | closing
  /-- Closes a box, which does not fit either if it is wider than a limit. -/
  | narrowClosing (limit : Nat)
  /-- A blank if the text in front ends with a point. -/
  | afterPoint
  /-- Stands for something that cannot be laid out. -/
  | missing
deriving DecidableEq, Repr

abbrev Layout := List Piece

namespace Layout

/-- The indentation of nested code. -/
def indent : Int := 4

/-- A width that fits on no line. -/
def tooWide : Nat := 0xFFFF

def word (text : String) : Layout := [.text text]

/-- A blank if the text in front ends with a point, for what starts with a point itself. -/
def blankAfterPoint : Layout := [.afterPoint]

/-- A layout in which it is settled which blanks stand after a point; `pointed` if the text in front
of the layout ends with one. -/
def settled (pointed : Bool) : Layout → Layout
  | [] => []
  | .text text :: rest => .text text :: settled (text.endsWith ".") rest
  | .gap g :: rest =>
    .gap (if g.afterPoint && pointed then { g with inLine := " " } else g) :: settled pointed rest
  | .afterPoint :: rest => if pointed then .text " " :: settled false rest else settled false rest
  | piece :: rest => piece :: settled pointed rest

/-- The layout of something that cannot be laid out. -/
def missing : Layout := [.missing]

/-- Whether everything in a layout can be laid out. -/
def isComplete (layout : Layout) : Bool := !layout.contains .missing

/-! ## Gaps -/

def zero : Gap := ⟨0, 0, "", "", "", false, false, false⟩

/-- A blank, or the end of the line. -/
def space : Layout := [.gap { zero with blank := 1 }]

/-- Nothing, or the end of the line. -/
def softBreak : Layout := [.gap zero]

/-- Nothing, or the end of the line; a blank behind a point. -/
def pointBreak : Layout := [.gap { zero with afterPoint := true }]

/-- The end of the line. -/
def hardBreak : Layout := [.gap { zero with blank := tooWide }]

/-- The end of the line, unless the box ends here. -/
def hardBreakIfMore : Layout := [.gap { zero with blank := tooWide, optional := true }]

/-- A blank or the end of the line, unless the box ends here. -/
def spaceIfMore : Layout := [.gap { zero with blank := 1, optional := true }]

/-- A mark for measuring: the text after it is not part of the box or gap before it. -/
def noBreak : Layout := [.gap { zero with never := true }]

/-- What follows an element of a list: a comma and a gap, or after the last element a comma only if
the line ends there; `blank` is the space after the last element on the same line. -/
def comma (last : Bool) (blank : Nat) : Layout :=
  if last then [.gap { zero with blank := blank, lineEnd := "," }] else word "," ++ space

/-- A layout whose last piece, if it is a gap, has its line shifted further. -/
def shiftLast (shift : Int) : Layout → Layout
  | [] => []
  | [.gap g] => [.gap { g with shift := g.shift + shift }]
  | piece :: rest => piece :: shiftLast shift rest

/-! ## Boxes -/

/-- A box around a layout; a gap alone needs no box and disappears with it. -/
def box (consistent : Bool) (shift : Int) (body : Layout) : Layout :=
  match body with
  | [.gap _] => []
  | _ => .opening consistent shift :: body ++ [.closing]

/-- A box whose gaps all end their line if it does not fit. -/
def group (shift : Int) (body : Layout) : Layout := box true shift body

/-- A box whose gaps end their line where they have to. -/
def fill (shift : Int) (body : Layout) : Layout := box false shift body

/-- A box whose gaps all end their line if it does not fit or is wider than a limit. -/
def narrowBox (limit : Nat) (shift : Int) (body : Layout) : Layout :=
  .opening true shift :: body ++ [.narrowClosing limit]

end Layout

end WireErrors
