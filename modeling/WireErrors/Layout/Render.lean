import WireErrors.Layout.Piece

/-!
# Writing layouts

`Layout.render` writes a layout to lines of 89 columns, counted in bytes; however deep a line is
indented, 60 columns are taken to be left on it.

How a box or gap is written depends on its measure: a box is measured up to the first gap behind it,
and a gap up to the next one of its box or a box around that. `Writer` holds pieces back until they
are measured. What is held back never exceeds the line: a piece in front of more text than the line
has space for is written as one that does not fit.
-/

namespace WireErrors

namespace Layout

def margin : Int := 89

def minimalSpace : Int := 60

/-! ## Writing measured pieces -/

/-- An open box: one that fits, or one that does not, with the indentation outside of it. -/
inductive Frame where
  | whole
  | split (outer : Int) (consistent : Bool)

/-- Where writing stands. -/
structure Pen where
  /-- The columns left on the line. -/
  space : Int
  /-- The indentation of new lines. -/
  indent : Int
  /-- Blanks to write before the next text. -/
  pending : Nat
  /-- The open boxes, innermost first. -/
  frames : List Frame

namespace Pen

def start : Pen := ⟨margin, 0, 0, []⟩

/-- Blanks that are due. -/
def blanks (pen : Pen) : String := String.ofList (List.replicate pen.pending ' ')

/-- Whether a line goes on at a gap with a measure. -/
def goesOn (pen : Pen) (g : Gap) (size : Int) : Bool :=
  g.never ||
    match pen.frames with
    | .whole :: _ => true
    | .split _ true :: _ => false
    | .split _ false :: _ => size ≤ pen.space
    | [] => size ≤ pen.space

/-- What a piece with a measure writes, and the pen after it. -/
def step (pen : Pen) (piece : Piece) (size : Int) : List String × Pen :=
  match piece with
  | .text text =>
    ([pen.blanks, text], { pen with space := pen.space - text.utf8ByteSize, pending := 0 })
  | .opening consistent shift =>
    if size ≤ pen.space then ([], { pen with frames := .whole :: pen.frames })
    else ([], { pen with
      indent := pen.indent + shift, frames := .split pen.indent consistent :: pen.frames })
  | .closing | .narrowClosing _ =>
    match pen.frames with
    | .split outer _ :: frames => ([], { pen with indent := outer, frames := frames })
    | .whole :: frames => ([], { pen with frames := frames })
    | [] => ([], pen)
  | .gap g =>
    if pen.goesOn g size then
      ([g.inLine], { pen with
        pending := pen.pending + g.blank, space := pen.space - g.blank - g.inLine.utf8ByteSize })
    else
      let indent := pen.indent + g.shift
      let before := if g.lineEnd.isEmpty then [] else [pen.blanks, g.lineEnd]
      let next : Pen :=
        { pen with pending := indent.toNat, space := max (margin - indent) minimalSpace }
      if g.lineStart.isEmpty then (before ++ ["\n"], next)
      else (before ++ ["\n", next.blanks, g.lineStart],
        { next with pending := 0, space := next.space - g.lineStart.utf8ByteSize })
  | .afterPoint | .missing => ([], pen)

end Pen

/-! ## Measuring -/

/-- A piece that is held back. -/
structure Held where
  piece : Piece
  /-- The columns of all that is in front of the piece. -/
  before : Int
  /-- The measure of the piece, if it is known. -/
  size : Option Int

namespace Held

/-- The columns that a piece takes on a line. -/
def width (held : Held) : Int :=
  match held.piece with
  | .text _ => held.size.getD 0
  | .gap g => g.blank
  | _ => 0

/-- Measures held pieces, the last one first, in front of a gap: the boxes closed in front of it
and the gap before it in the same box. So many boxes as `depth` says are closed behind the pieces;
`total` are the columns up to here. -/
def measured (total : Int) : Nat → List Held → List Held
  | _, [] => []
  | depth, held :: rest =>
    let sized : Held := { held with size := some (total - held.before) }
    match held.size, held.piece with
    | some _, _ => held :: measured total depth rest
    | none, .opening .. =>
      if depth = 0 then held :: rest else sized :: measured total (depth - 1) rest
    | none, .gap _ => if depth = 0 then sized :: rest else sized :: measured total depth rest
    | none, _ => { held with size := some 0 } :: measured total (depth + 1) rest

/-- The columns in front of the innermost box that is open behind the held pieces, unless its start
is measured or written; so many boxes as `depth` says are closed behind the pieces. -/
def openBox? : Nat → List Held → Option Int
  | _, [] => none
  | depth, held :: rest =>
    match held.size, held.piece with
    | none, .opening .. => if depth = 0 then some held.before else openBox? (depth - 1) rest
    | none, .closing | none, .narrowClosing _ => openBox? (depth + 1) rest
    | _, _ => openBox? depth rest

end Held

/-- A pen with the pieces that are held back. -/
structure Writer where
  pen : Pen := .start
  /-- The held pieces, the last one first. -/
  held : List Held := []
  /-- The columns of all pieces that are written. -/
  written : Int := 0
  /-- The columns of all pieces. -/
  total : Int := 0

namespace Writer

/-- Writes the held pieces of a writer, now given from the first one on, up to a piece without a
measure behind which there is no more text than the line has space for. -/
def release (writer : Writer) : List Held → List String × Writer
  | [] => ([], { writer with held := [] })
  | held :: rest =>
    if held.size.isNone && writer.total - writer.written ≤ writer.pen.space then
      ([], { writer with held := (held :: rest).reverse })
    else
      let (texts, pen) := writer.pen.step held.piece (held.size.getD tooWide)
      let (more, last) :=
        release { writer with pen := pen, written := writer.written + held.width } rest
      (texts ++ more, last)

/-- Holds a piece back. -/
def hold (writer : Writer) (piece : Piece) (size : Option Int) (width : Int) : Writer :=
  { writer with
    held := ⟨piece, writer.total, size⟩ :: writer.held
    total := writer.total + width }

/-- A text is written at once if nothing in front of it is held back. -/
def text (writer : Writer) (text : String) : List String × Writer :=
  let size : Int := text.utf8ByteSize
  if writer.held.isEmpty then
    let (texts, pen) := writer.pen.step (.text text) size
    (texts, { writer with pen := pen })
  else
    let next := writer.hold (.text text) (some size) size
    if next.total - next.written ≤ next.pen.space then ([], next)
    else next.release next.held.reverse

/-- A gap, with which what is in front of it is measured. -/
def gap (writer : Writer) (g : Gap) : Writer :=
  { writer with held := Held.measured writer.total 0 writer.held }.hold (.gap g) none g.blank

/-- The writer without an optional gap at the end of a box. -/
def withoutOptional (writer : Writer) : Writer :=
  match writer.held with
  | ⟨.gap g, before, _⟩ :: rest =>
    if g.optional then { writer with held := rest, total := before } else writer
  | _ => writer

/-- The end of a box. -/
def closing (writer : Writer) : Writer :=
  if writer.held.isEmpty then { writer with pen := (writer.pen.step .closing 0).2 }
  else writer.withoutOptional.hold .closing none 0

/-- The end of a box that is too wide if it is wider than a limit, in case that matters yet. -/
def narrowClosing (writer : Writer) (limit : Nat) : Writer :=
  match Held.openBox? 0 writer.held with
  | some before =>
    if limit < writer.total - before then (writer.hold (.text "") (some tooWide) tooWide).closing
    else writer.closing
  | none => writer.closing

/-- What is written when a piece comes next, and the writer after it. -/
def step (writer : Writer) : Piece → List String × Writer
  | .text text => writer.text text
  | .gap g => ([], writer.gap g)
  | .opening consistent shift => ([], writer.hold (.opening consistent shift) none 0)
  | .closing => ([], writer.closing)
  | .narrowClosing limit => ([], writer.narrowClosing limit)
  | .afterPoint | .missing => ([], writer)

/-- The texts that a layout writes. -/
def write : Writer → Layout → List String
  | writer, [] =>
    (writer.release (Held.measured writer.total 0 writer.held).reverse).1
  | writer, piece :: rest =>
    let (texts, next) := writer.step piece
    texts ++ write next rest

end Writer

/-- The text of a layout. -/
def render (layout : Layout) : String := String.join (Writer.write {} (settled false layout))

end Layout

end WireErrors
