import WireErrors.Layout.Render

/-!
# What a layout can be written as

`Layout.Runs pen layout out` is an account of what a layout writes that does not measure anything:
each box fits or not, and each gap goes on or ends the line as its box has it, whatever their
measures. Only this much is known of them: a box with a gap in it that always ends the line is
measured as too wide for any line.

`runs_render`: a layout in which all boxes are closed is written in one of these ways. The pieces that
the writer holds back are written later as they would be at once, for what it knows of them is kept by
each of its steps (`Writer.Holds`).
-/

namespace WireErrors

namespace Layout

/-! ## Boxes -/

/-- Whether a gap that always ends its line comes before the end of the box that a layout is the rest
of; so many further boxes as the number says are open. -/
def tallAt : Nat → Layout → Bool
  | _, [] => false
  | depth, .gap g :: rest => (!g.optional && decide (tooWide ≤ g.blank)) || tallAt depth rest
  | depth, .opening .. :: rest => tallAt (depth + 1) rest
  | depth, .closing :: rest | depth, .narrowClosing _ :: rest =>
    depth != 0 && tallAt (depth - 1) rest
  | depth, .text _ :: rest | depth, .afterPoint :: rest | depth, .missing :: rest =>
    tallAt depth rest

/-- How many boxes are open behind a layout, with so many open in front of it as the number says. -/
def openAfter : Nat → Layout → Nat
  | depth, [] => depth
  | depth, .opening .. :: rest => openAfter (depth + 1) rest
  | depth, .closing :: rest | depth, .narrowClosing _ :: rest => openAfter (depth - 1) rest
  | depth, .gap _ :: rest | depth, .text _ :: rest | depth, .afterPoint :: rest
  | depth, .missing :: rest => openAfter depth rest

/-! ## Runs -/

/-- The characters of some texts. -/
def chars (texts : List String) : List Char := texts.flatMap String.toList

theorem chars_append (first second : List String) :
    chars (first ++ second) = chars first ++ chars second := List.flatMap_append

/-- The ways to write a layout from where a pen stands. -/
inductive Runs : Pen → Layout → List Char → Prop
  | nil (pen : Pen) : Runs pen [] []
  /-- A piece with any measure, unless it is known to be too wide. -/
  | step {pen : Pen} {piece : Piece} {rest : Layout} {out : List Char} (size : Int)
      (hsize : ∀ consistent shift, piece = .opening consistent shift → tallAt 0 rest = true →
        tooWide ≤ size)
      (h : Runs (pen.step piece size).2 rest out) :
      Runs pen (piece :: rest) (chars (pen.step piece size).1 ++ out)
  /-- A gap that disappears at the end of its box. -/
  | dropped {pen : Pen} {g : Gap} {rest : Layout} {out : List Char} (hoptional : g.optional = true)
      (h : Runs pen rest out) : Runs pen (.gap g :: rest) out
  /-- Blanks that are written in front of the end of a box. -/
  | flushed {pen : Pen} {limit : Nat} {rest : Layout} {out : List Char}
      (h : Runs { pen with pending := 0 } (.closing :: rest) out) :
      Runs pen (.narrowClosing limit :: rest) (pen.blanks.toList ++ out)
  /-- A gap with a blank, behind a point. -/
  | pointed {pen : Pen} {g : Gap} {rest : Layout} {out : List Char} (hpoint : g.afterPoint = true)
      (h : Runs pen (.gap { g with inLine := " " } :: rest) out) : Runs pen (.gap g :: rest) out
  | spaced {pen : Pen} {rest : Layout} {out : List Char} (h : Runs pen (.text " " :: rest) out) :
      Runs pen (.afterPoint :: rest) out

/-! ## Replacing the end of a layout -/

theorem tallAt_append_congr {first second : Layout}
    (h : ∀ depth, tallAt depth first = tallAt depth second) (depth : Nat) (front : Layout) :
    tallAt depth (front ++ first) = tallAt depth (front ++ second) := by
  induction front generalizing depth with
  | nil => exact h depth
  | cons piece front ih => cases piece <;> simp only [List.cons_append, tallAt, ih]

/-- An end of a layout can be replaced by one that is written in the same ways. -/
theorem Runs.replace {first second : Layout}
    (htall : ∀ depth, tallAt depth first = tallAt depth second)
    (h : ∀ pen out, Runs pen first out → Runs pen second out) {front : Layout} {pen : Pen}
    {out : List Char} (hruns : Runs pen (front ++ first) out) : Runs pen (front ++ second) out := by
  generalize hwhole : front ++ first = whole at hruns
  induction hruns generalizing front with
  | nil pen =>
    obtain ⟨rfl, rfl⟩ := List.append_eq_nil_iff.mp hwhole
    exact h pen [] (.nil pen)
  | @step pen piece rest out size hsize hrest ih =>
    cases front with
    | nil =>
      obtain rfl : first = piece :: rest := hwhole
      exact h _ _ (.step size hsize hrest)
    | cons other front =>
      obtain ⟨rfl, rfl⟩ := List.cons.inj hwhole
      refine .step size (fun consistent shift hpiece hhigh => ?_) (ih rfl)
      exact hsize consistent shift hpiece ((tallAt_append_congr htall 0 front).trans hhigh)
  | @dropped pen g rest out hoptional hrest ih =>
    cases front with
    | nil =>
      obtain rfl : first = .gap g :: rest := hwhole
      exact h _ _ (.dropped hoptional hrest)
    | cons other front =>
      obtain ⟨rfl, rfl⟩ := List.cons.inj hwhole
      exact .dropped hoptional (ih rfl)
  | @flushed pen limit rest out hrest ih =>
    cases front with
    | nil =>
      obtain rfl : first = .narrowClosing limit :: rest := hwhole
      exact h _ _ (.flushed hrest)
    | cons other front =>
      obtain ⟨rfl, rfl⟩ := List.cons.inj hwhole
      exact .flushed (@ih (.closing :: front) rfl)
  | @pointed pen g rest out hpoint hrest ih =>
    cases front with
    | nil =>
      obtain rfl : first = .gap g :: rest := hwhole
      exact h _ _ (.pointed hpoint hrest)
    | cons other front =>
      obtain ⟨rfl, rfl⟩ := List.cons.inj hwhole
      exact .pointed hpoint (@ih (.gap _ :: front) rfl)
  | @spaced pen rest out hrest ih =>
    cases front with
    | nil =>
      obtain rfl : first = .afterPoint :: rest := hwhole
      exact h _ _ (.spaced hrest)
    | cons other front =>
      obtain ⟨rfl, rfl⟩ := List.cons.inj hwhole
      exact .spaced (@ih (.text " " :: front) rfl)

theorem Runs.insert_optional {g : Gap} (hoptional : g.optional = true) {front rest : Layout}
    {pen : Pen} {out : List Char} (h : Runs pen (front ++ .closing :: rest) out) :
    Runs pen (front ++ .gap g :: .closing :: rest) out :=
  h.replace (fun depth => by simp [tallAt, hoptional]) fun _ _ h => .dropped hoptional h

theorem Runs.narrow {limit : Nat} {front rest : Layout} {pen : Pen} {out : List Char}
    (h : Runs pen (front ++ .closing :: rest) out) :
    Runs pen (front ++ .narrowClosing limit :: rest) out := by
  have hend : ∀ pen out, Runs pen (.closing :: rest) out →
      Runs pen (.narrowClosing limit :: rest) out := by
    rintro pen _ (_ | ⟨size, -, h⟩)
    exact .step size nofun h
  exact h.replace (fun _ => by rfl) hend

theorem Runs.narrow_wide {limit : Nat} {front rest : Layout} {pen : Pen} {out : List Char}
    (h : Runs pen (front ++ .text "" :: .closing :: rest) out) :
    Runs pen (front ++ .narrowClosing limit :: rest) out := by
  have hend : ∀ pen out, Runs pen (.text "" :: .closing :: rest) out →
      Runs pen (.narrowClosing limit :: rest) out := by
    rintro pen _ (_ | ⟨size, -, h⟩)
    have hchars : chars (pen.step (.text "") size).1 = pen.blanks.toList := by
      simp [Pen.step, chars]
    have hpen : (pen.step (.text "") size).2 = { pen with pending := 0 } := by
      simp [Pen.step]
    rw [hchars]
    rw [hpen] at h
    exact .flushed h
  exact h.replace (fun _ => by rfl) hend

/-! ## Blanks behind points -/

theorem tallAt_settled (pointed : Bool) (depth : Nat) (layout : Layout) :
    tallAt depth (settled pointed layout) = tallAt depth layout := by
  induction layout generalizing pointed depth with
  | nil => rfl
  | cons piece layout ih =>
    cases piece with
    | gap g =>
      rw [settled]
      split <;> simp only [tallAt, ih]
    | afterPoint =>
      rw [settled]
      split <;> simp only [tallAt, ih]
    | _ => simp only [settled, tallAt, ih]

theorem Runs.of_settled {pointed : Bool} {layout : Layout} {pen : Pen} {out : List Char}
    (h : Runs pen (settled pointed layout) out) : Runs pen layout out := by
  induction layout generalizing pointed pen out with
  | nil => exact h
  | cons piece layout ih =>
    have hbehind : ∀ {piece : Piece} {pointed : Bool} {pen : Pen} {out : List Char},
        Runs pen ([piece] ++ settled pointed layout) out → Runs pen ([piece] ++ layout) out :=
      fun h => h.replace (fun depth => tallAt_settled _ depth layout) fun _ _ => ih
    cases piece with
    | gap g =>
      rw [settled] at h
      split at h
      next hpoint =>
        exact .pointed (Bool.and_eq_true_iff.mp hpoint).1 (hbehind h)
      next => exact hbehind h
    | afterPoint =>
      rw [settled] at h
      split at h
      · exact .spaced (hbehind h)
      · exact @Runs.step pen .afterPoint _ _ 0 nofun (ih h)
    | _ => exact hbehind h

/-! ## What is held back -/

namespace Held

/-- The pieces that are held back, the last one first, in the order of the layout. -/
def layout (held : List Held) : Layout := held.reverse.map Held.piece

theorem layout_cons (first : Held) (held : List Held) (rest : Layout) :
    layout (first :: held) ++ rest = layout held ++ first.piece :: rest := by
  simp [layout]

theorem layout_measured (total : Int) (depth : Nat) (held : List Held) :
    layout (measured total depth held) = layout held := by
  have hpieces : (measured total depth held).map Held.piece = held.map Held.piece := by
    fun_induction measured total depth held <;> simp_all +zetaDelta
  rw [layout, layout, List.map_reverse, List.map_reverse, hpieces]

/-- Up to some columns, each piece stands behind the ones before it. -/
def Columns : Int → List Held → Prop
  | _, [] => True
  | total, first :: held => 0 ≤ first.width ∧ first.before + first.width = total ∧
    Columns first.before held

/-- Behind each measured start of a box comes the measured end of it; the number says how many ends
come behind all pieces. Only gaps, starts and ends wait for their measure. -/
def Paired : Nat → List Held → Prop
  | _, [] => True
  | ends, ⟨.opening .., _, some _⟩ :: held => 0 < ends ∧ Paired (ends - 1) held
  | ends, ⟨.closing, _, some _⟩ :: held => Paired (ends + 1) held
  | ends, ⟨.gap _, _, _⟩ :: held | ends, ⟨.opening .., _, none⟩ :: held
  | ends, ⟨.closing, _, none⟩ :: held | ends, ⟨.text _, _, some _⟩ :: held => Paired ends held
  | _, _ :: _ => False

/-- The measured start of a box that has to be split says that it is too wide; `rest` comes behind
all pieces. -/
def Tops : Layout → List Held → Prop
  | _, [] => True
  | rest, first :: held =>
    (∀ size ∈ first.size, ∀ consistent shift, first.piece = .opening consistent shift →
      tallAt 0 rest = true → tooWide ≤ size) ∧ Tops (first.piece :: rest) held

/-- In each open box, a single gap at most has no measure, and in front of it everything has one. At
most `opened` boxes are open; behind the pieces, so many boxes as `depth` says are closed, and if the
innermost open box is `settled`, its gap is behind the pieces. -/
def Ready : Nat → Bool → Nat → List Held → Prop
  | _, _, _, [] => True
  | opened, settled, depth, ⟨_, _, some _⟩ :: held => Ready opened settled depth held
  | opened, _, 0, ⟨.opening .., _, none⟩ :: held => 0 < opened ∧ Ready (opened - 1) false 0 held
  | opened, settled, depth + 1, ⟨.opening .., _, none⟩ :: held => Ready opened settled depth held
  | opened, settled, 0, ⟨.gap _, _, none⟩ :: held => settled = false ∧ Ready opened true 0 held
  | opened, settled, depth + 1, ⟨.gap _, _, none⟩ :: held => Ready opened settled (depth + 1) held
  | opened, settled, depth, ⟨_, _, none⟩ :: held =>
    settled = false ∧ Ready opened false (depth + 1) held

theorem Columns.measured {columns total : Int} {depth : Nat} {held : List Held}
    (h : Columns columns held) : Columns columns (measured total depth held) := by
  fun_induction Held.measured total depth held generalizing columns <;>
    grind [Columns, Held.width]

theorem Paired.measured {total : Int} {ends depth : Nat} {held : List Held}
    (h : Paired ends held) : Paired (ends + depth) (measured total depth held) := by
  induction held generalizing ends depth with
  | nil => exact h
  | cons first held ih =>
    obtain ⟨piece, before, _ | size⟩ := first <;> cases piece <;> grind [Held.measured, Paired]

theorem Ready.measured {total : Int} {opened depth : Nat} {held : List Held}
    (h : Ready opened false depth held) : Ready opened true 0 (measured total depth held) := by
  induction held generalizing opened depth with
  | nil => exact h
  | cons first held ih =>
    obtain ⟨piece, before, _ | size⟩ := first
    · cases piece <;> cases depth <;> simp_all [Held.measured, Ready]
    · simp_all [Held.measured, Ready]

/-- A start that is measured now is measured by the end of its box behind it: what has to be split is
wider than a line, as all boxes that are closed behind the pieces are. -/
theorem Tops.measured {columns total : Int} {ends depth : Nat} {rest : Layout} {held : List Held}
    (hcolumns : Columns columns held) (hpaired : Paired ends held) (htops : Tops rest held)
    (htotal : columns ≤ total)
    (hwide : ∀ box < ends + depth, tallAt box rest = true → tooWide ≤ total - columns) :
    Tops rest (measured total depth held) := by
  induction held generalizing columns ends depth rest with
  | nil => exact htops
  | cons first held ih =>
    obtain ⟨hwidth, hbefore, hcolumns⟩ := hcolumns
    obtain ⟨hfirst, htops⟩ := htops
    have htotal' : first.before ≤ total := by omega
    have hwide' : ∀ box < ends + depth, tallAt box rest = true → tooWide ≤ total - first.before := by
      intro box hbox htall
      have := hwide box hbox htall
      omega
    obtain ⟨piece, before, size⟩ := first
    cases piece with
    | text text =>
      cases size with
      | none => cases hpaired
      | some size => exact ⟨nofun, ih hcolumns hpaired htops htotal' hwide'⟩
    | gap g =>
      have hpaired : Paired ends held := by cases size <;> exact hpaired
      have hgap : ∀ box < ends + depth, tallAt box (.gap g :: rest) = true →
          tooWide ≤ total - before := by
        intro box hbox htall
        rw [tallAt, Bool.or_eq_true, Bool.and_eq_true, decide_eq_true_eq] at htall
        rcases htall with htall | htall
        · have hblank : before + g.blank = columns := hbefore
          have := htall.2
          omega
        · exact hwide' box hbox htall
      have hmeasured : Tops (.gap g :: rest) (Held.measured total depth held) :=
        ih hcolumns hpaired htops htotal' hgap
      cases size with
      | some size => exact ⟨nofun, hmeasured⟩
      | none =>
        rw [Held.measured]
        dsimp only
        split
        · exact ⟨nofun, htops⟩
        · exact ⟨nofun, hmeasured⟩
    | opening consistent shift =>
      cases size with
      | some size =>
        refine ⟨hfirst, ih hcolumns hpaired.2 htops htotal' fun box hbox htall => ?_⟩
        have hends := hpaired.1
        exact hwide' (box + 1) (by omega) htall
      | none =>
        rw [Held.measured]
        dsimp only
        split
        next => exact ⟨hfirst, htops⟩
        next hdepth =>
          refine ⟨?_, ih hcolumns hpaired htops htotal' fun box hbox htall => ?_⟩
          · intro size hsize _ _ _ htall
            cases hsize
            exact hwide' 0 (by omega) htall
          · exact hwide' (box + 1) (by omega) htall
    | closing =>
      have hclosing : ∀ box < ends + depth + 1, tallAt box (.closing :: rest) = true →
          tooWide ≤ total - before := by
        intro box hbox htall
        rw [tallAt, Bool.and_eq_true, bne_iff_ne] at htall
        exact hwide' (box - 1) (by omega) htall.2
      cases size with
      | some size =>
        exact ⟨nofun, ih hcolumns hpaired htops htotal' fun box hbox => hclosing box (by omega)⟩
      | none =>
        exact ⟨nofun, ih hcolumns hpaired htops htotal' fun box hbox => hclosing box (by omega)⟩
    | narrowClosing limit => cases size <;> cases hpaired
    | afterPoint => cases size <;> cases hpaired
    | missing => cases size <;> cases hpaired

theorem Ready.closed {opened depth : Nat} {settled : Bool} {held : List Held}
    (h : Ready opened settled depth held) : Ready (opened - 1) false (depth + 1) held := by
  induction held generalizing opened settled depth with
  | nil => exact h
  | cons first held ih =>
    obtain ⟨piece, before, _ | size⟩ := first
    · cases piece <;> cases depth <;> grind [Ready]
    · exact ih h

theorem Ready.unsettled {opened depth : Nat} {held : List Held}
    (h : Ready opened true depth held) : Ready opened false depth held := by
  induction held generalizing opened depth with
  | nil => exact h
  | cons first held ih =>
    obtain ⟨piece, before, _ | size⟩ := first
    · cases piece <;> cases depth <;> grind [Ready]
    · exact ih h

/-- Where no box is open, everything has a measure. -/
theorem Ready.sized {held : List Held} (h : Ready 0 true 0 held) : ∀ p ∈ held, p.size.isSome := by
  induction held with
  | nil => nofun
  | cons first held ih =>
    obtain ⟨piece, before, _ | size⟩ := first
    · cases piece <;> grind [Ready]
    · exact List.forall_mem_cons.mpr ⟨rfl, ih h⟩

/-! ### The pieces behind others -/

variable {later earlier : List Held}

theorem Columns.latest {columns : Int} (h : Columns columns (later ++ earlier)) :
    Columns columns later := by
  induction later generalizing columns with
  | nil => trivial
  | cons first later ih => exact ⟨h.1, h.2.1, ih h.2.2⟩

theorem Paired.latest {ends : Nat} (h : Paired ends (later ++ earlier)) : Paired ends later := by
  induction later generalizing ends with
  | nil => trivial
  | cons first later ih =>
    obtain ⟨piece, before, _ | size⟩ := first <;> cases piece <;> simp_all [Paired]

theorem Ready.latest {opened depth : Nat} {settled : Bool}
    (h : Ready opened settled depth (later ++ earlier)) : Ready opened settled depth later := by
  induction later generalizing opened settled depth with
  | nil => trivial
  | cons first later ih =>
    obtain ⟨piece, before, _ | size⟩ := first
    · cases piece <;> cases depth <;> grind [Ready]
    · exact ih h

theorem tops_append {rest : Layout} :
    Tops rest (later ++ earlier) ↔ Tops rest later ∧ Tops (layout later ++ rest) earlier := by
  induction later generalizing rest with
  | nil => exact (iff_of_eq (true_and _)).symm
  | cons first later ih => rw [List.cons_append, Tops, Tops, ih, layout_cons, and_assoc]

theorem Tops.congr {first second : Layout} (h : Tops first later)
    (htall : ∀ depth, tallAt depth first = tallAt depth second) : Tops second later := by
  induction later generalizing first second with
  | nil => trivial
  | cons held later ih =>
    refine ⟨fun size hsize consistent shift hpiece hhigh => ?_, ih h.2 fun depth => ?_⟩
    · exact h.1 size hsize consistent shift hpiece ((htall 0).trans hhigh)
    · exact tallAt_append_congr htall depth [held.piece]

end Held

/-! ## The writer -/

namespace Writer

open Held

/-- What a writer knows of the pieces that it holds back, with `rest` behind them. -/
structure Holds (writer : Writer) (rest : Layout) : Prop where
  columns : Columns writer.total writer.held
  paired : Paired 0 writer.held
  tops : Tops rest writer.held
  ready : ∃ opened, Ready opened false 0 writer.held ∧ openAfter opened rest = 0

/-- Released pieces are written as they would be at once. -/
theorem runs_release {rest : Layout} (writer : Writer) (list : List Held)
    (htops : Tops rest list.reverse) :
    ∃ front back, list = front ++ back ∧ (writer.release list).2.held = back.reverse ∧
      (writer.release list).2.total = writer.total ∧
      ((∀ p ∈ list, p.size.isSome) → back = []) ∧
      ∀ out, Runs (writer.release list).2.pen (back.map Held.piece ++ rest) out →
        Runs writer.pen (list.map Held.piece ++ rest) (chars (writer.release list).1 ++ out) := by
  induction list generalizing writer with
  | nil => exact ⟨[], [], rfl, rfl, rfl, fun _ => rfl, fun out h => h⟩
  | cons first list ih =>
    rw [List.reverse_cons, tops_append] at htops
    rw [release]
    split
    next hwaits =>
      refine ⟨[], first :: list, rfl, rfl, rfl, fun hsized => ?_, fun out h => h⟩
      have hfirst := hsized first List.mem_cons_self
      rw [Bool.and_eq_true] at hwaits
      rw [Option.isSome_iff_ne_none] at hfirst
      exact absurd (Option.isNone_iff_eq_none.mp hwaits.1) hfirst
    next =>
      dsimp only
      generalize hpen : writer.pen.step first.piece (first.size.getD tooWide) = written
      obtain ⟨front, back, hlist, hheld, htotal, hsized, hruns⟩ := ih
        { writer with pen := written.2, written := writer.written + first.width } htops.1
      refine ⟨first :: front, back, congrArg _ hlist, hheld, htotal, fun hall => ?_,
        fun out hout => ?_⟩
      · exact hsized fun p hp => hall p (List.mem_cons_of_mem _ hp)
      · rw [chars_append, List.append_assoc, List.map_cons, List.cons_append, ← hpen]
        refine .step _ (fun consistent shift hpiece htall => ?_) (hpen ▸ hruns out hout)
        cases hsize : first.size with
        | none => exact Int.le_refl _
        | some size =>
          have hbehind : layout list.reverse = list.map Held.piece := by simp [layout]
          rw [hbehind] at htops
          exact htops.2.1 size hsize consistent shift hpiece htall

/-- What a step of a writer keeps: it knows as much of what it holds back, and its texts are written in
front of whatever is written from there. -/
structure Steps (writer : Writer) (piece : Piece) (rest : Layout) (texts : List String)
    (next : Writer) : Prop where
  holds : next.Holds rest
  runs : ∀ out, Runs next.pen (layout next.held ++ rest) out →
    Runs writer.pen (layout writer.held ++ piece :: rest) (chars texts ++ out)

variable {writer : Writer} {rest : Layout}

theorem Holds.released (h : writer.Holds rest) :
    (writer.release writer.held.reverse).2.Holds rest ∧
      ∀ out, Runs (writer.release writer.held.reverse).2.pen
          (layout (writer.release writer.held.reverse).2.held ++ rest) out →
        Runs writer.pen (layout writer.held ++ rest)
          (chars (writer.release writer.held.reverse).1 ++ out) := by
  obtain ⟨front, back, hlist, hheld, htotal, -, hruns⟩ :=
    runs_release writer writer.held.reverse (by rw [List.reverse_reverse]; exact h.tops)
  have hwhole : writer.held = back.reverse ++ front.reverse := by
    rw [← List.reverse_append, ← hlist, List.reverse_reverse]
  have hback : layout back.reverse = back.map Held.piece := by simp [layout]
  obtain ⟨hcolumns, hpaired, htops, opened, hready, hopen⟩ := h
  rw [hwhole] at hcolumns hpaired htops hready
  refine ⟨⟨?_, ?_, ?_, opened, ?_, hopen⟩, fun out hout => hruns out ?_⟩
  · rw [htotal, hheld]
    exact hcolumns.latest
  · rw [hheld]
    exact hpaired.latest
  · rw [hheld]
    exact (tops_append.mp htops).1
  · rw [hheld]
    exact hready.latest
  · rwa [hheld, hback] at hout

theorem steps_text {text : String} (h : writer.Holds (.text text :: rest)) :
    Steps writer (.text text) rest (writer.text text).1 (writer.text text).2 := by
  obtain ⟨hcolumns, hpaired, htops, opened, hready, hopen⟩ := h
  let size : Int := text.utf8ByteSize
  have hsize : 0 ≤ size := Int.natCast_nonneg _
  have hheld : (writer.hold (.text text) (some size) size).Holds rest :=
    ⟨⟨hsize, rfl, hcolumns⟩, hpaired, ⟨nofun, htops⟩, opened, hready, hopen⟩
  rw [Writer.text]
  split
  next hempty =>
    have hnil : writer.held = [] := List.isEmpty_iff.mp hempty
    refine ⟨⟨hcolumns, hpaired, ?_, opened, hready, hopen⟩, fun out hout => ?_⟩
    · rw [hnil]
      trivial
    · rw [hnil] at hout ⊢
      exact .step size nofun hout
  next =>
    dsimp only
    split
    · refine ⟨hheld, fun out hout => ?_⟩
      rw [← layout_cons ⟨.text text, writer.total, some size⟩]
      exact hout
    · refine ⟨hheld.released.1, fun out hout => ?_⟩
      rw [← layout_cons ⟨.text text, writer.total, some size⟩]
      exact hheld.released.2 out hout

theorem steps_gap {g : Gap} (h : writer.Holds (.gap g :: rest)) :
    Steps writer (.gap g) rest [] (writer.gap g) := by
  obtain ⟨hcolumns, hpaired, htops, opened, hready, hopen⟩ := h
  have hmeasured : Tops (.gap g :: rest) (measured writer.total 0 writer.held) :=
    htops.measured hcolumns hpaired (Int.le_refl _) nofun
  have hpaired' : Paired (0 + 0) (measured writer.total 0 writer.held) := hpaired.measured
  refine ⟨⟨⟨Int.natCast_nonneg _, rfl, hcolumns.measured⟩, hpaired', ⟨nofun, hmeasured⟩,
    opened, ⟨rfl, hready.measured⟩, hopen⟩, fun out hout => ?_⟩
  rw [← layout_measured writer.total 0]
  rw [← layout_cons ⟨.gap g, writer.total, none⟩]
  exact hout

theorem steps_opening {consistent : Bool} {shift : Int}
    (h : writer.Holds (.opening consistent shift :: rest)) :
    Steps writer (.opening consistent shift) rest []
      (writer.hold (.opening consistent shift) none 0) := by
  obtain ⟨hcolumns, hpaired, htops, opened, hready, hopen⟩ := h
  refine ⟨⟨⟨Int.le_refl 0, rfl, ?_⟩, hpaired, ⟨nofun, htops⟩, opened + 1,
    ⟨Nat.succ_pos _, hready⟩, hopen⟩, fun out hout => ?_⟩
  · exact hcolumns
  · rw [← layout_cons ⟨.opening consistent shift, writer.total, none⟩]
    exact hout

theorem steps_hold_closing {front : Writer} (h : front.Holds (.closing :: rest)) :
    Steps front .closing rest [] (front.hold .closing none 0) := by
  obtain ⟨hcolumns, hpaired, htops, opened, hready, hopen⟩ := h
  refine ⟨⟨⟨Int.le_refl 0, rfl, ?_⟩, hpaired, ⟨nofun, htops⟩, opened - 1,
    ⟨rfl, hready.closed⟩, hopen⟩, fun out hout => ?_⟩
  · exact hcolumns
  · rw [← layout_cons ⟨.closing, front.total, none⟩]
    exact hout

theorem holds_withoutOptional (h : writer.Holds (.closing :: rest)) :
    writer.withoutOptional.Holds (.closing :: rest) ∧ writer.withoutOptional.pen = writer.pen ∧
      ∀ out, Runs writer.pen (layout writer.withoutOptional.held ++ .closing :: rest) out →
        Runs writer.pen (layout writer.held ++ .closing :: rest) out := by
  unfold withoutOptional
  split
  next g before size held hheld =>
    split
    next hoptional =>
      obtain ⟨hcolumns, hpaired, htops, opened, hready, hopen⟩ := h
      rw [hheld] at hcolumns hpaired htops hready
      refine ⟨⟨hcolumns.2.2, ?_, ?_, opened, ?_, hopen⟩, rfl, fun out hout => ?_⟩
      · cases size <;> exact hpaired
      · exact htops.2.congr fun depth => by simp [tallAt, hoptional]
      · cases size with
        | none => exact hready.2.unsettled
        | some size => exact hready
      · rw [hheld, layout_cons]
        exact hout.insert_optional hoptional
    next => exact ⟨h, rfl, fun out hout => hout⟩
  next => exact ⟨h, rfl, fun out hout => hout⟩

theorem steps_closing (h : writer.Holds (.closing :: rest)) :
    Steps writer .closing rest [] writer.closing := by
  rw [closing]
  split
  next hempty =>
    have hnil : writer.held = [] := List.isEmpty_iff.mp hempty
    obtain ⟨hcolumns, hpaired, htops, opened, hready, hopen⟩ := h
    refine ⟨⟨hcolumns, hpaired, ?_, opened - 1, ?_, hopen⟩, fun out hout => ?_⟩
    · rw [hnil]
      trivial
    · rw [hnil]
      trivial
    · rw [hnil] at hout ⊢
      have htexts : (writer.pen.step .closing 0).1 = [] := by
        rw [Pen.step]
        split <;> rfl
      rw [← htexts]
      exact .step 0 nofun hout
  next =>
    obtain ⟨hholds, hpen, hruns⟩ := holds_withoutOptional h
    obtain ⟨hheld, hclosing⟩ := steps_hold_closing hholds
    refine ⟨hheld, fun out hout => hruns _ ?_⟩
    rw [← hpen]
    exact hclosing out hout

theorem steps_narrowClosing {limit : Nat} (h : writer.Holds (.narrowClosing limit :: rest)) :
    Steps writer (.narrowClosing limit) rest [] (writer.narrowClosing limit) := by
  obtain ⟨hcolumns, hpaired, htops, opened, hready, hopen⟩ := h
  have hplain : writer.Holds (.closing :: rest) :=
    ⟨hcolumns, hpaired, htops.congr fun depth => rfl, opened, hready, hopen⟩
  have hclosing : Steps writer (.narrowClosing limit) rest [] writer.closing := by
    obtain ⟨hholds, hruns⟩ := steps_closing hplain
    exact ⟨hholds, fun out hout => (hruns out hout).narrow⟩
  unfold narrowClosing
  split
  · split
    · let wide : Writer := writer.hold (.text "") (some tooWide) tooWide
      have hwide : wide.Holds (.closing :: rest) :=
        ⟨⟨Int.natCast_nonneg _, rfl, hcolumns⟩, hpaired, ⟨nofun, htops.congr fun depth => rfl⟩, opened, hready,
          hopen⟩
      obtain ⟨hholds, hruns⟩ := steps_closing hwide
      refine ⟨hholds, fun out hout => ?_⟩
      have hout := hruns out hout
      have hlayout : layout wide.held ++ .closing :: rest =
          layout writer.held ++ .text "" :: .closing :: rest := layout_cons _ _ _
      rw [hlayout] at hout
      exact hout.narrow_wide
    · exact hclosing
  · exact hclosing

theorem steps_nothing {piece : Piece} (hpiece : piece = .afterPoint ∨ piece = .missing)
    (h : writer.Holds (piece :: rest)) : Steps writer piece rest [] writer := by
  obtain ⟨hcolumns, hpaired, htops, opened, hready, hopen⟩ := h
  have hopens : openAfter opened (piece :: rest) = openAfter opened rest := by
    rcases hpiece with rfl | rfl <;> rfl
  have htall : ∀ depth, tallAt depth rest = tallAt depth (piece :: rest) := fun depth => by
    rcases hpiece with rfl | rfl <;> rfl
  refine ⟨⟨hcolumns, hpaired, htops.congr fun depth => (htall depth).symm, opened, hready,
    hopens ▸ hopen⟩, fun out hout => hout.replace htall fun pen out hrest => ?_⟩
  rcases hpiece with rfl | rfl
  · exact @Runs.step pen .afterPoint _ _ 0 nofun hrest
  · exact @Runs.step pen .missing _ _ 0 nofun hrest

theorem runs_write {layout : Layout} (writer : Writer) (h : writer.Holds layout) :
    Runs writer.pen (Held.layout writer.held ++ layout) (chars (writer.write layout)) := by
  induction layout generalizing writer with
  | nil =>
    obtain ⟨hcolumns, hpaired, htops, opened, hready, rfl⟩ := h
    have hmeasured : Tops [] (measured writer.total 0 writer.held) :=
      htops.measured hcolumns hpaired (Int.le_refl _) nofun
    obtain ⟨front, back, -, -, -, hsized, hruns⟩ := runs_release writer
      (measured writer.total 0 writer.held).reverse (by rwa [List.reverse_reverse])
    obtain rfl : back = [] :=
      hsized fun p hp => hready.measured.sized p (List.mem_reverse.mp hp)
    have hall := hruns [] (.nil _)
    rw [← layout_measured writer.total 0]
    simp only [List.append_nil] at hall ⊢
    exact hall
  | cons piece rest ih =>
    have hsteps : Steps writer piece rest (writer.step piece).1 (writer.step piece).2 := by
      cases piece with
      | text text => exact steps_text h
      | gap g => exact steps_gap h
      | opening consistent shift => exact steps_opening h
      | closing => exact steps_closing h
      | narrowClosing limit => exact steps_narrowClosing h
      | afterPoint => exact steps_nothing (.inl rfl) h
      | missing => exact steps_nothing (.inr rfl) h
    rw [write, chars_append]
    exact hsteps.runs _ (ih _ hsteps.holds)

end Writer

/-- **The text of a layout is a way to write it**, if each box in it is closed. -/
theorem runs_render {layout : Layout} (h : openAfter 0 layout = 0) :
    Runs .start layout (render layout).toList := by
  have hopen : ∀ pointed depth, openAfter depth (settled pointed layout) = openAfter depth layout := by
    clear h
    induction layout with
    | nil => exact fun _ _ => rfl
    | cons piece layout ih =>
      intro pointed depth
      cases piece with
      | afterPoint =>
        rw [settled]
        split <;> exact ih _ _
      | _ => exact ih _ _
  have hholds : Writer.Holds {} (settled false layout) :=
    ⟨trivial, trivial, trivial, 0, trivial, (hopen false 0).trans h⟩
  have hruns := (Writer.runs_write {} hholds).of_settled
  rw [render, String.toList_join]
  exact hruns

end Layout

end WireErrors
