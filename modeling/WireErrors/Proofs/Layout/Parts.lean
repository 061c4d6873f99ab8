import WireErrors.Proofs.Layout.Runs

/-!
# Parts of layouts

A part of a layout that closes the boxes that it opens leaves the boxes around it as they are: how many
are open (`openAfter_append`), which of them are tall (`tallAt_append`), and how the pen is indented
(`Pen.unwound`).
-/

namespace WireErrors

namespace Layout

/-! ## Gaps -/

/-- A gap disappears, or it has a measure, and then perhaps a blank is written for a point. -/
theorem Runs.gap_cases {pen : Pen} {g : Gap} {rest : Layout} {out : List Char}
    (h : Runs pen (.gap g :: rest) out) :
    (g.optional = true ∧ Runs pen rest out) ∨
      ∃ inLine size behind, (inLine = g.inLine ∨ g.afterPoint = true ∧ inLine = " ") ∧
        Runs (pen.step (.gap { g with inLine }) size).2 rest behind ∧
        out = chars (pen.step (.gap { g with inLine }) size).1 ++ behind := by
  generalize hlayout : .gap g :: rest = layout at h
  induction h generalizing g with
  | nil => cases hlayout
  | step size _ h =>
    obtain ⟨rfl, rfl⟩ := List.cons.inj hlayout
    exact .inr ⟨g.inLine, size, _, .inl rfl, h, rfl⟩
  | dropped hoptional h =>
    cases hlayout
    exact .inl ⟨hoptional, h⟩
  | flushed => cases hlayout
  | pointed hpoint h ih =>
    cases hlayout
    rcases ih rfl with hdropped | ⟨inLine, size, behind, hinLine, hruns, hout⟩
    · exact .inl hdropped
    · have hblank : inLine = " " := hinLine.elim id And.right
      exact .inr ⟨inLine, size, behind, .inr ⟨hpoint, hblank⟩, hruns, hout⟩
  | spaced => cases hlayout

theorem Pen.step_gap_of_goesOn {pen : Pen} {g : Gap} {size : Int} (h : pen.goesOn g size = true) :
    pen.step (.gap g) size = ([g.inLine], { pen with
      pending := pen.pending + g.blank
      space := pen.space - g.blank - g.inLine.utf8ByteSize }) := by
  rw [Pen.step, if_pos h]

/-- What a gap writes where the line ends, if nothing stands at the start of the new one. -/
theorem Pen.step_gap_of_not_goesOn {pen : Pen} {g : Gap} {size : Int}
    (h : pen.goesOn g size = false) (hstart : g.lineStart.isEmpty = true) :
    pen.step (.gap g) size =
      ((if g.lineEnd.isEmpty then [] else [pen.blanks, g.lineEnd]) ++ ["\n"], { pen with
        pending := (pen.indent + g.shift).toNat
        space := max (margin - (pen.indent + g.shift)) minimalSpace }) := by
  rw [Pen.step, h]
  simp only [Bool.false_eq_true, if_false, hstart, if_true]

theorem Pen.step_gap_frames (pen : Pen) (g : Gap) (size : Int) :
    (pen.step (.gap g) size).2.frames = pen.frames ∧
      (pen.step (.gap g) size).2.indent = pen.indent := by
  rw [Pen.step]
  dsimp only
  split
  · exact ⟨rfl, rfl⟩
  · split <;> exact ⟨rfl, rfl⟩

/-! ## Closed parts -/

/-- Whether a part of a layout closes so many boxes as the number says and those that it opens. -/
def closesAt : Nat → Layout → Bool
  | depth, [] => depth == 0
  | depth, .opening .. :: rest => closesAt (depth + 1) rest
  | depth, .closing :: rest | depth, .narrowClosing _ :: rest =>
    depth != 0 && closesAt (depth - 1) rest
  | depth, .gap _ :: rest | depth, .text _ :: rest | depth, .afterPoint :: rest
  | depth, .missing :: rest => closesAt depth rest

theorem closesAt_append {depth more : Nat} {first second : Layout}
    (hfirst : closesAt depth first = true) (hsecond : closesAt more second = true) :
    closesAt (depth + more) (first ++ second) = true := by
  induction first generalizing depth with
  | nil =>
    obtain rfl : depth = 0 := beq_iff_eq.mp hfirst
    rwa [Nat.zero_add]
  | cons piece first ih =>
    have hclosing : (depth != 0 && closesAt (depth - 1) first) = true →
        (depth + more != 0 && closesAt (depth + more - 1) (first ++ second)) = true := by
      intro h
      obtain ⟨hdepth, h⟩ := Bool.and_eq_true_iff.mp h
      obtain ⟨depth, rfl⟩ := Nat.exists_eq_succ_of_ne_zero (bne_iff_ne.mp hdepth)
      rw [Nat.succ_add]
      exact ih h
    cases piece with
    | closing => exact hclosing hfirst
    | narrowClosing limit => exact hclosing hfirst
    | opening consistent shift =>
      rw [List.cons_append, closesAt, ← Nat.succ_eq_add_one, ← Nat.succ_add]
      exact ih hfirst
    | _ => exact ih hfirst

theorem openAfter_append {depth : Nat} {part : Layout} (h : closesAt depth part = true)
    (outer : Nat) (rest : Layout) :
    openAfter (outer + depth) (part ++ rest) = openAfter outer rest := by
  induction part generalizing depth with
  | nil =>
    obtain rfl : depth = 0 := beq_iff_eq.mp h
    rfl
  | cons piece part ih =>
    have hclosing : (depth != 0 && closesAt (depth - 1) part) = true →
        openAfter (outer + depth - 1) (part ++ rest) = openAfter outer rest := by
      intro h
      obtain ⟨hdepth, h⟩ := Bool.and_eq_true_iff.mp h
      obtain ⟨depth, rfl⟩ := Nat.exists_eq_succ_of_ne_zero (bne_iff_ne.mp hdepth)
      exact ih h
    cases piece with
    | closing => exact hclosing h
    | narrowClosing limit => exact hclosing h
    | _ => exact ih h

theorem tallAt_append {depth : Nat} {part : Layout} (h : closesAt depth part = true) {outer : Nat}
    {rest : Layout} (hrest : tallAt outer rest = true) :
    tallAt (outer + depth) (part ++ rest) = true := by
  induction part generalizing depth with
  | nil =>
    obtain rfl : depth = 0 := beq_iff_eq.mp h
    exact hrest
  | cons piece part ih =>
    have hclosing : (depth != 0 && closesAt (depth - 1) part) = true →
        (outer + depth != 0 && tallAt (outer + depth - 1) (part ++ rest)) = true := by
      intro h
      obtain ⟨hdepth, h⟩ := Bool.and_eq_true_iff.mp h
      obtain ⟨depth, rfl⟩ := Nat.exists_eq_succ_of_ne_zero (bne_iff_ne.mp hdepth)
      exact ih h
    cases piece with
    | closing => exact hclosing h
    | narrowClosing limit => exact hclosing h
    | gap g =>
      rw [List.cons_append, tallAt, ih h, Bool.or_true]
    | _ => exact ih h

/-- The open boxes and the indentation behind the ends of some boxes. -/
def unwound : Nat → List Frame → Int → List Frame × Int
  | 0, frames, indent => (frames, indent)
  | _ + 1, [], indent => ([], indent)
  | depth + 1, .whole :: frames, indent => unwound depth frames indent
  | depth + 1, .split outer _ :: frames, _ => unwound depth frames outer

/-- The open boxes and the indentation of a pen behind the ends of some boxes. -/
def Pen.unwound (pen : Pen) (depth : Nat) : List Frame × Int :=
  Layout.unwound depth pen.frames pen.indent

theorem Pen.step_opening (pen : Pen) (consistent : Bool) (shift size : Int) :
    (pen.step (.opening consistent shift) size).1 = [] ∧
      (pen.step (.opening consistent shift) size).2.pending = pen.pending := by
  rw [Pen.step]
  split <;> exact ⟨rfl, rfl⟩

theorem Pen.step_closing (pen : Pen) {piece : Piece}
    (hpiece : piece = .closing ∨ ∃ limit, piece = .narrowClosing limit) (size : Int) :
    (pen.step piece size).1 = [] ∧ (pen.step piece size).2.pending = pen.pending := by
  rcases hpiece with rfl | ⟨limit, rfl⟩ <;> rw [Pen.step] <;> split <;> exact ⟨rfl, rfl⟩

theorem unwound_opening (pen : Pen) (consistent : Bool) (shift size : Int) (depth : Nat) :
    (pen.step (.opening consistent shift) size).2.unwound (depth + 1) = pen.unwound depth := by
  rw [Pen.step]
  split <;> rfl

theorem unwound_closing {pen : Pen} {piece : Piece}
    (hpiece : piece = .closing ∨ ∃ limit, piece = .narrowClosing limit) (size : Int) (depth : Nat) :
    (pen.step piece size).2.unwound depth = pen.unwound (depth + 1) := by
  obtain ⟨space, indent, pending, frames⟩ := pen
  rcases hpiece with rfl | ⟨limit, rfl⟩ <;> rcases frames with _ | ⟨_ | _, frames⟩ <;>
    cases depth <;> rfl

/-! ## Starts and ends of boxes -/

variable {pen : Pen} {rest : Layout} {out : List Char}

/-- The start of a box writes nothing; a box with a gap in it that always ends its line does not fit. -/
theorem Runs.of_opening {consistent : Bool} {shift : Int}
    (h : Runs pen (.opening consistent shift :: rest) out) :
    ∃ next, Runs next rest out ∧ next.pending = pen.pending ∧ next.unwound 1 = pen.unwound 0 ∧
      (next.frames = .whole :: pen.frames ∨
        next.frames = .split pen.indent consistent :: pen.frames) ∧
      (tallAt 0 rest = true → pen.space < tooWide →
        next = { pen with
          indent := pen.indent + shift, frames := .split pen.indent consistent :: pen.frames }) := by
  obtain _ | ⟨size, hsize, hrest⟩ := h
  obtain ⟨htexts, hpending⟩ := pen.step_opening consistent shift size
  refine ⟨_, ?_, hpending, unwound_opening pen consistent shift size 0, ?_, fun htall hspace => ?_⟩
  · rwa [htexts]
  · rw [Pen.step]
    split
    · exact .inl rfl
    · exact .inr rfl
  · have hwide : ¬size ≤ pen.space := by
      have := hsize consistent shift rfl htall
      omega
    rw [Pen.step, if_neg hwide]

theorem Runs.of_closing (h : Runs pen (.closing :: rest) out) :
    ∃ next, Runs next rest out ∧ next.pending = pen.pending ∧ next.unwound 0 = pen.unwound 1 := by
  obtain _ | ⟨size, -, hrest⟩ := h
  obtain ⟨htexts, hpending⟩ := pen.step_closing (.inl rfl) size
  refine ⟨_, ?_, hpending, unwound_closing (.inl rfl) size 0⟩
  rwa [htexts]

/-! ## Texts -/

theorem chars_step_text (pen : Pen) (text : String) (size : Int) (behind : List Char) :
    chars (pen.step (.text text) size).1 ++ behind =
      pen.blanks.toList ++ (text.toList ++ behind) := by
  simp [Pen.step, chars]

theorem Runs.written_of_mem {text : String} {layout : Layout} (hruns : Runs pen layout out)
    (h : .text text ∈ layout) : text.toList <:+: out := by
  induction hruns with
  | nil => cases h
  | @step pen piece rest out size _ _ ih =>
    rcases List.mem_cons.mp h with rfl | h
    · rw [chars_step_text]
      exact ⟨_, out, List.append_assoc ..⟩
    · exact (ih h).trans (List.suffix_append _ _).isInfix
  | dropped _ _ ih =>
    rcases List.mem_cons.mp h with hgap | h
    · cases hgap
    · exact ih h
  | flushed _ ih =>
    rcases List.mem_cons.mp h with hclosing | h
    · cases hclosing
    · exact (ih (List.mem_cons_of_mem _ h)).trans (List.suffix_append _ _).isInfix
  | pointed _ _ ih =>
    rcases List.mem_cons.mp h with hgap | h
    · cases hgap
    · exact ih (List.mem_cons_of_mem _ h)
  | spaced _ ih =>
    rcases List.mem_cons.mp h with hpoint | h
    · cases hpoint
    · exact ih (List.mem_cons_of_mem _ h)

end Layout

end WireErrors
