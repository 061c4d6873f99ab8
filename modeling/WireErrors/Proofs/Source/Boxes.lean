import WireErrors.Proofs.Source.Readback

/-!
# What boxes are read as

Lines in braces behind a heading, the arms of a `match` and the lines of a file, each read as tokens of
what it is put together from.
-/

namespace WireErrors.Source

open Layout

variable {split legal : Bool} {P Q : List Token → Prop} {body heading parts : Layout}

/-! ## Braces -/

theorem box_eq {consistent : Bool} {shift : Int} (h : ∀ g, body ≠ [.gap g]) :
    box consistent shift body = .opening consistent shift :: body ++ [.closing] := by
  unfold box
  split
  next g => exact absurd rfl (h g)
  next => rfl

theorem ne_gap_of_mem {text : String} (h : .text text ∈ body) (g : Gap) : body ≠ [.gap g] := by
  rintro rfl
  simp at h

theorem mem_braceBox {text : String} (h : .text text ∈ parts) :
    .text text ∈ braceBox heading parts := by
  have hbody : .text text ∈ heading ++ word "\x7b" ++ shiftLast (-indent) (hardBreakIfMore ++ parts) :=
    List.mem_append_right _ (mem_shiftLast (List.mem_append_right _ h) _)
  rw [braceBox, group, box_eq (ne_gap_of_mem hbody)]
  exact List.mem_append_left _ (List.mem_append_left _
    (List.mem_append_left _ (List.mem_cons_of_mem _ hbody)))

/-- Some tokens in front of others in braces. -/
def Braced (P Q : List Token → Prop) (tokens : List Token) : Prop :=
  ∃ front inside, P front ∧ Q inside ∧ tokens = front ++ Token.group .brace inside

theorem readsAs_opening (split : Bool) :
    ReadsAs (word "\x7b" ++ hardBreakIfMore) .unknown split true (· = [.opening .brace]) := by
  have hscore : outcomes .unknown [.text [.fixed "\x7b"],
      .gap { zero with blank := tooWide, optional := true }] =
        some [(.apart, [.opening .brace])] := rfl
  refine (readsAs_score hscore (by decide) rfl split).imp ?_
  rintro tokens ⟨o, ho, rfl⟩
  rw [List.mem_singleton.mp ho]

theorem readsAs_closing (stop : Edge) (split : Bool) :
    ReadsAs (word "\x7d") stop split true (· = [.closing .brace]) := by
  have hscore : outcomes stop [.text [.fixed "\x7d"]] = some [(.apart, [.closing .brace])] := rfl
  refine (readsAs_score hscore (by decide) rfl split).imp ?_
  rintro tokens ⟨o, ho, rfl⟩
  rw [List.mem_singleton.mp ho]

/-- The inside of the box of a heading with lines in braces behind it. -/
def braceBody (heading parts : Layout) : Layout :=
  heading ++ (word "\x7b" ++ hardBreakIfMore) ++ shiftLast (-indent) parts

theorem braceBox_eq (heading : Layout) (hne : parts ≠ []) :
    braceBox heading parts = .opening true indent :: braceBody heading parts ++ [.closing] ++
      word "\x7d" ++ hardBreak := by
  have hword : .text "\x7b" ∈ heading ++ word "\x7b" ++ shiftLast (-indent) (hardBreakIfMore ++ parts) :=
    List.mem_append_left _ (List.mem_append_right _ (List.mem_singleton_self _))
  rw [braceBox, group, box_eq (ne_gap_of_mem hword), shiftLast_append _ _ hne, braceBody]
  simp only [List.append_assoc, List.cons_append]

theorem readsAs_braceBody (hheading : ReadsAs heading .unknown split true P)
    (hparts : Lines parts split legal Q) :
    ReadsAs (braceBody heading parts) .unknown split legal
      (Concat (Concat P (· = [.opening .brace])) Q) := by
  have hbody := (hheading.append (readsAs_opening split)).append (hparts.reads (-indent))
  rwa [Bool.true_and, Bool.true_and] at hbody

theorem braced_of_concat {tokens : List Token}
    (h : Concat (Concat (Concat P (· = [.opening .brace])) Q) (· = [.closing .brace]) tokens) :
    Braced P Q tokens := by
  obtain ⟨_, _, ⟨_, inside, ⟨front, _, hP, rfl, rfl⟩, hQ, rfl⟩, rfl, rfl⟩ := h
  exact ⟨front, inside, hP, hQ, by simp [Token.group]⟩

theorem lines_braceBox (hheading : ReadsAs heading .unknown false true P)
    (hparts : Lines parts false legal Q) :
    Lines (braceBox heading parts) split legal (Braced P Q) := by
  have hbox := (readsAs_braceBody hheading hparts).box true indent split
  have hline := (hbox.append (readsAs_closing .apart split)).line
  rw [Bool.and_true] at hline
  rw [braceBox_eq heading hparts.nonempty]
  exact hline.imp fun tokens htokens => braced_of_concat htokens

/-! ## Arms -/

/-- Where a value starts that may move to a line of its own, and there in braces. -/
def movedStart : Gap := { zero with lineEnd := "\x7b" }

/-- Where such a value ends. -/
def movedEnd : Gap := { zero with shift := -indent, lineStart := "\x7d", inLine := "," }

/-- The arm of a match behind its arrow. -/
def movedBox (value : Layout) : Layout :=
  .opening true indent :: .gap movedStart :: value ++ [.gap movedEnd, .closing]

variable {pen : Pen} {frames : List Frame} {rest : Layout} {out : List Char} {value : List Note}
  {all : List Outcome}

theorem Runs.of_gap {g : Gap} (hruns : Runs pen (.gap g :: rest) out) (hoptional : g.optional = false)
    (hpoint : g.afterPoint = false) :
    ∃ size behind, After pen rest (pen.step (.gap g) size).2 behind ∧
      out = chars (pen.step (.gap g) size).1 ++ behind := by
  rcases hruns.gap_cases with ⟨hno, -⟩ | ⟨inLine, size, behind, rfl | ⟨hno, -⟩, hrest, hout⟩
  · rw [hoptional] at hno
    cases hno
  · obtain ⟨hframes, hindent⟩ := pen.step_gap_frames g size
    exact ⟨size, behind, ⟨hrest, hframes, hindent⟩, hout⟩
  · rw [hpoint] at hno
    cases hno

theorem Runs.gap_whole {g : Gap} (hruns : Runs pen (.gap g :: rest) out)
    (hframes : pen.frames = .whole :: frames) (hoptional : g.optional = false)
    (hpoint : g.afterPoint = false) :
    ∃ next behind, After pen rest next behind ∧ next.pending = pen.pending + g.blank ∧
      out = g.inLine.toList ++ behind := by
  obtain ⟨size, behind, hafter, rfl⟩ := Runs.of_gap hruns hoptional hpoint
  have hgoes : pen.goesOn g size = true := by
    rw [Pen.goesOn, hframes, Bool.or_true]
  refine ⟨_, behind, hafter, ?_, ?_⟩ <;> rw [Pen.step_gap_of_goesOn hgoes]
  simp [chars]

theorem goesOn_split {outer : Int} (h : pen.frames = .split outer true :: frames) {g : Gap}
    (hnever : g.never = false) (size : Int) : pen.goesOn g size = false := by
  rw [Pen.goesOn, h, hnever]
  rfl

theorem Runs.movedStart_split {outer : Int} (hruns : Runs pen (.gap movedStart :: rest) out)
    (hframes : pen.frames = .split outer true :: frames) :
    ∃ next behind, After pen rest next behind ∧
      out = pen.blanks.toList ++ '\x7b' :: '\n' :: behind := by
  obtain ⟨size, behind, hafter, rfl⟩ := Runs.of_gap hruns rfl rfl
  refine ⟨_, behind, hafter, ?_⟩
  rw [Pen.step_gap_of_not_goesOn (goesOn_split hframes rfl size) rfl]
  simp [chars, movedStart]

theorem Runs.movedEnd_split {outer : Int} (hruns : Runs pen (.gap movedEnd :: rest) out)
    (hframes : pen.frames = .split outer true :: frames) :
    ∃ next behind line, After pen rest next behind ∧
      out = '\n' :: (Pen.blanks line).toList ++ '\x7d' :: behind := by
  obtain ⟨size, behind, hafter, rfl⟩ := Runs.of_gap hruns rfl rfl
  refine ⟨_, behind, { pen with
      space := max (margin - (pen.indent + movedEnd.shift)) minimalSpace
      pending := (pen.indent + movedEnd.shift).toNat }, hafter, ?_⟩
  rw [Pen.step, goesOn_split hframes rfl size]
  simp [chars, movedEnd, zero]

theorem reading_kept (h : outcomes ⟨true, none, true⟩ value = some all)
    (hlegal : ∀ note ∈ value, note.isLegal = true) (hclosed : closesAt 0 (layoutOf value) = true)
    (htight : value.foldl Note.isTight false = true) (hframes : pen.frames = .whole :: frames)
    (hruns : Runs pen (.gap movedStart :: layoutOf value ++ .gap movedEnd :: rest) out) :
    ∃ next behind, After pen rest next behind ∧ ∀ result, Edge.apart.At next behind →
      Reading behind result →
        ∃ o ∈ all, o.1.At pen out ∧ Reading out (result.map ((o.2 ++ Token.sign ",") ++ ·)) := by
  obtain ⟨first, _, hfirst, hsame, rfl⟩ := Runs.gap_whole hruns hframes rfl rfl
  obtain ⟨middle, _, hscore, hsaid⟩ := plays_score h hlegal hclosed hfirst.runs
  have hpending : middle.pending = 0 := hscore.tight false nofun htight
  have hmiddle := hfirst.trans hscore.after
  obtain ⟨next, behind, hnext, hnone, rfl⟩ :=
    Runs.gap_whole hmiddle.runs (hmiddle.frames.trans hframes) rfl rfl
  refine ⟨next, behind, hmiddle.trans hnext, fun result hat hread => ?_⟩
  have hzero : ¬0 < next.pending := by
    rw [hnone, hpending]
    decide
  rw [Edge.At, if_neg hzero] at hat
  have hcomma : Reading ([','] ++ behind) (result.map ([.mark ',' false] ++ ·)) := by
    have hstarts := starts_mark (c := ',') (by decide) behind
    rw [hat.joint false rfl] at hstarts
    exact .token hstarts (List.cons_ne_nil _ _) hread
  have hedge : Edge.At ⟨true, none, true⟩ middle (',' :: behind) := by
    rw [Edge.At, if_neg (by rw [hpending]; decide)]
    exact (Sign.holds_mark (c := ',') (by decide) behind).of_isWithin rfl
  obtain ⟨o, ho, hat, hread⟩ := hsaid _ hedge hcomma
  refine ⟨o, ho, hat.congr hsame.symm, ?_⟩
  have htokens : ((o.2 ++ ·) ∘ ([.mark ',' false] ++ ·) : List Token → List Token) =
      ((o.2 ++ Token.sign ",") ++ ·) := funext fun tokens => (List.append_assoc ..).symm
  rwa [Option.map_map, htokens] at hread

theorem reading_moved {outer : Int} (h : outcomes ⟨true, none, true⟩ value = some all)
    (hlegal : ∀ note ∈ value, note.isLegal = true) (hclosed : closesAt 0 (layoutOf value) = true)
    (hframes : pen.frames = .split outer true :: frames)
    (hruns : Runs pen (.gap movedStart :: layoutOf value ++ .gap movedEnd :: rest) out) :
    ∃ next behind, After pen rest next behind ∧ ∀ result, Reading behind result →
      ∃ o ∈ all, Edge.unknown.At pen out ∧ Reading out (result.map (Token.group .brace o.2 ++ ·)) := by
  obtain ⟨first, _, hfirst, rfl⟩ := Runs.movedStart_split hruns hframes
  obtain ⟨middle, _, hscore, hsaid⟩ := plays_score h hlegal hclosed hfirst.runs
  have hmiddle := hfirst.trans hscore.after
  obtain ⟨next, behind, line, hnext, rfl⟩ :=
    Runs.movedEnd_split hmiddle.runs (hmiddle.frames.trans hframes)
  refine ⟨next, behind, hmiddle.trans hnext, fun result hread => ?_⟩
  have hclosing : Reading ([Token.closingChar .brace] ++ behind)
      (result.map ([.closing .brace] ++ ·)) :=
    .token (starts_closing .brace behind) (List.cons_ne_nil _ _) hread
  have hline : Reading ('\n' :: (line.blanks.toList ++ '\x7d' :: behind))
      (result.map ([.closing .brace] ++ ·)) := .blank (by decide) (hclosing.blanks line)
  have hedge : Edge.At ⟨true, none, true⟩ middle ('\n' :: (line.blanks.toList ++ '\x7d' :: behind)) :=
    Edge.at_of_apart (Edge.apart_cons (by decide) _) rfl middle
  obtain ⟨o, ho, -, hread⟩ := hsaid _ hedge hline
  have hopening : Reading ([Token.openingChar .brace] ++ '\n' :: _)
      (Option.map ([.opening .brace] ++ ·) _) :=
    .token (starts_opening .brace nofun) (List.cons_ne_nil _ _) (.blank (by decide) hread)
  refine ⟨o, ho, Edge.unknown_at_blanks pen _, ?_⟩
  have htokens : (([.opening .brace] ++ ·) ∘ (o.2 ++ ·)) ∘ ([.closing .brace] ++ ·) =
      (Token.group .brace o.2 ++ ·) := funext fun tokens => by simp [Token.group]
  rw [Option.map_map, Option.map_map, htokens] at hopening
  exact hopening.blanks pen

/-- A value behind an arrow is read in braces if it moves to a line of its own, and else with a comma
behind it. -/
theorem readsAs_movedBox (h : outcomes ⟨true, none, true⟩ value = some all)
    (hlegal : ∀ note ∈ value, note.isLegal = true) (hclosed : closesAt 0 (layoutOf value) = true)
    (htight : value.foldl Note.isTight false = true) (split : Bool) :
    ReadsAs (movedBox (layoutOf value)) .apart split true fun tokens =>
      ∃ o ∈ all, tokens = o.2 ++ Token.sign "," ∨ tokens = Token.group .brace o.2 where
  closed := by
    have hend : closesAt 1 [.gap movedEnd, .closing] = true := rfl
    have hvalue := closesAt_append hclosed hend
    exact hvalue
  reads := by
    intro pen rest out hruns _
    have hlayout : movedBox (layoutOf value) ++ rest = .opening true indent ::
        (.gap movedStart :: layoutOf value ++ .gap movedEnd :: .closing :: rest) := by
      simp [movedBox]
    rw [hlayout] at hruns
    obtain ⟨first, hfirst, hpending, hopened, hframes, -⟩ := Runs.of_opening hruns
    rcases hframes with hwhole | hsplit
    · obtain ⟨middle, behind, hmiddle, hsaid⟩ :=
        reading_kept h hlegal hclosed htight hwhole hfirst
      obtain ⟨next, hnext, hsame⟩ := hmiddle.box hopened
      refine ⟨next, behind, hnext, fun result hat hread => ?_⟩
      obtain ⟨o, ho, hat, hread⟩ := hsaid result (hat.congr hsame.symm) hread
      exact ⟨(hat.congr hpending.symm).of_isWithin rfl, _, ⟨o, ho, .inl rfl⟩, hread⟩
    · obtain ⟨middle, behind, hmiddle, hsaid⟩ :=
        reading_moved h hlegal hclosed hsplit hfirst
      obtain ⟨next, hnext, -⟩ := hmiddle.box hopened
      refine ⟨next, behind, hnext, fun result _ hread => ?_⟩
      obtain ⟨o, ho, hat, hread⟩ := hsaid result hread
      exact ⟨hat.congr hpending.symm, _, ⟨o, ho, .inr rfl⟩, hread⟩

/-! ## Lines of a file -/

/-- A pen at the start of a line of a file. -/
def fileLine : Pen := ⟨margin, 0, 0, [.split 0 true]⟩

/-- What some lines of a file are read as in front of anything: some tokens with a property, or nothing
at all if not everything in them is `legal`. -/
structure FileLines (layout : Layout) (legal : Bool) (P : List Token → Prop) : Prop where
  closed : closesAt 0 layout = true
  reads : ∀ {rest out}, Runs fileLine (layout ++ rest) out → ∃ behind, Runs fileLine rest behind ∧
    ∀ result, Reading behind result →
      ∃ tokens, P tokens ∧ Reading out (if legal then result.map (tokens ++ ·) else none)

variable {first second : Layout} {firstLegal secondLegal : Bool} {g : Gap}

theorem FileLines.imp (h : FileLines body legal P) (himp : ∀ tokens, P tokens → Q tokens) :
    FileLines body legal Q where
  closed := h.closed
  reads hruns := by
    obtain ⟨behind, hbehind, hreads⟩ := h.reads hruns
    refine ⟨behind, hbehind, fun result hread => ?_⟩
    obtain ⟨tokens, htokens, hread⟩ := hreads result hread
    exact ⟨tokens, himp tokens htokens, hread⟩

theorem fileLines_nil : FileLines [] true (· = []) where
  closed := rfl
  reads hruns := ⟨_, hruns, fun result hread => ⟨[], rfl, by simpa using hread⟩⟩

theorem FileLines.append (hfirst : FileLines first firstLegal P)
    (hsecond : FileLines second secondLegal Q) :
    FileLines (first ++ second) (firstLegal && secondLegal) (Concat P Q) where
  closed := closesAt_append hfirst.closed hsecond.closed
  reads hruns := by
    rw [List.append_assoc] at hruns
    obtain ⟨between, hmiddle, hfront⟩ := hfirst.reads hruns
    obtain ⟨behind, hbehind, hback⟩ := hsecond.reads hmiddle
    refine ⟨behind, hbehind, fun result hread => ?_⟩
    obtain ⟨back, hQ, hread⟩ := hback result hread
    obtain ⟨front, hP, hread⟩ := hfront _ hread
    refine ⟨front ++ back, ⟨front, back, hP, hQ, rfl⟩, ?_⟩
    cases firstLegal <;> cases secondLegal <;> cases result <;> simpa using hread

theorem EndsLine.fileLine (hg : EndsLine g) (hshift : g.shift = 0) {pen : Pen} {rest : Layout}
    {out : List Char} (hruns : Runs pen (.gap g :: rest) out) (hframes : pen.frames = [.split 0 true])
    (hindent : pen.indent = 0) :
    ∃ behind, Runs fileLine rest behind ∧ out = '\n' :: behind := by
  obtain ⟨next, behind, hnext, hout, hsame, hdeep, hpending, hspace⟩ :=
    hg.runs hruns ⟨0, [], hframes⟩
  have hline : next = Source.fileLine := by
    obtain ⟨space, indent, pending, frames⟩ := next
    rw [hshift, hindent] at hpending hspace
    simp only at hsame hdeep hpending hspace
    rw [hspace, hdeep, hindent, hpending, hsame, hframes]
    rfl
  exact ⟨behind, hline ▸ hnext, hout⟩

theorem ReadsAs.toFileEnd (h : ReadsAs body .apart true legal P) (hg : EndsLine g)
    (hshift : g.shift = 0) {pen : Pen} {rest : Layout} {out : List Char}
    (hruns : Runs pen (body ++ .gap g :: rest) out) (hframes : pen.frames = [.split 0 true])
    (hindent : pen.indent = 0) :
    ∃ behind, Runs fileLine rest behind ∧ ∀ result, Reading behind result →
      Edge.unknown.At pen out ∧ ∃ tokens, P tokens ∧
        Reading out (if legal then result.map (tokens ++ ·) else none) := by
  obtain ⟨next, between, hnext, hreads⟩ := h.reads hruns fun _ => ⟨0, [], hframes⟩
  obtain ⟨behind, hbehind, rfl⟩ :=
    hg.fileLine hshift hnext.runs (hnext.frames.trans hframes) (hnext.indent.trans hindent)
  refine ⟨behind, hbehind, fun result hread => ?_⟩
  exact hreads result (Edge.at_of_apart (Edge.apart_cons (by decide) _) rfl next)
    (.blank (by decide) hread)

theorem ReadsAs.fileLines (h : ReadsAs body .apart true legal P) (hg : EndsLine g)
    (hshift : g.shift = 0) : FileLines (body ++ [.gap g]) legal P where
  closed := by
    have hgap : closesAt 0 [.gap g] = true := rfl
    exact closesAt_append h.closed hgap
  reads hruns := by
    rw [List.append_assoc] at hruns
    obtain ⟨behind, hbehind, hreads⟩ := h.toFileEnd hg hshift hruns rfl rfl
    exact ⟨behind, hbehind, fun result hread => (hreads result hread).2⟩

theorem fileLines_text {text : List Char} {tokens : List Token}
    (h : ∀ behind result, Reading behind result → Reading (text ++ '\n' :: behind)
      (if legal then result.map (tokens ++ ·) else none)) :
    FileLines (word (String.ofList text) ++ hardBreak) legal (· = tokens) where
  closed := rfl
  reads hruns := by
    obtain _ | ⟨size, -, hgap⟩ := hruns
    obtain ⟨behind, hbehind, rfl⟩ := endsLine_hardBreak.fileLine rfl hgap rfl rfl
    refine ⟨behind, hbehind, fun result hread => ⟨_, rfl, ?_⟩⟩
    rw [chars_step_text, String.toList_ofList]
    exact .blanks _ (h behind result hread)

theorem fileLines_comment {text comment : List Char} (htext : Enclosable text)
    (hcomment : docComment? false text = some comment) :
    FileLines (word (String.ofList comment) ++ hardBreak) (noBareReturn (docBody text))
      (· = docTokens false (docBody text)) :=
  fileLines_text fun _ _ hread => reading_comment htext hcomment hread

theorem fileLines_braceBox (hheading : ReadsAs heading .unknown true true P)
    (hparts : Lines parts true legal Q) : FileLines (braceBox heading parts) legal (Braced P Q) := by
  have hbody := readsAs_braceBody hheading hparts
  have hend : closesAt 1 (.closing :: (word "\x7d" ++ hardBreak)) = true := rfl
  have hlayout : braceBox heading parts = .opening true indent ::
      (braceBody heading parts ++ .closing :: (word "\x7d" ++ hardBreak)) := by
    rw [braceBox_eq heading hparts.nonempty]
    simp
  rw [hlayout]
  refine ⟨closesAt_append hbody.closed hend, fun {rest out} hruns => ?_⟩
  have htall : tallAt 0 (braceBody heading parts ++
      .closing :: (word "\x7d" ++ (hardBreak ++ rest))) = true := by
    have hfront := closesAt_append hheading.closed (readsAs_opening true).closed
    rw [braceBody, List.append_assoc]
    exact tallAt_append hfront (hparts.tall _ _)
  rw [List.cons_append, List.append_assoc, List.cons_append, List.append_assoc] at hruns
  obtain ⟨first, hfirst, -, hopened, -, hsplit⟩ := Runs.of_opening hruns
  have hfirstFrames : first.frames = [.split 0 true, .split 0 true] := by
    rw [hsplit htall (by decide)]
    rfl
  obtain ⟨middle, _, hmiddle, hreads⟩ := hbody.reads hfirst fun _ => ⟨0, _, hfirstFrames⟩
  obtain ⟨next, hnext, hsame⟩ := hmiddle.box hopened
  obtain ⟨behind, hbehind, hclosing⟩ :=
    (readsAs_closing .apart true).toFileEnd endsLine_hardBreak rfl hnext.runs hnext.frames hnext.indent
  refine ⟨behind, hbehind, fun result hread => ?_⟩
  obtain ⟨hat, _, rfl, hread⟩ := hclosing result hread
  obtain ⟨-, tokens, htokens, hread⟩ := hreads _ (hat.congr hsame.symm) hread
  refine ⟨tokens ++ [.closing .brace], braced_of_concat ⟨tokens, _, htokens, rfl, rfl⟩, ?_⟩
  cases legal <;> cases result <;> simpa using hread

theorem Runs.exists_of_text {text : String} (hruns : Runs fileLine (.text text :: rest) out) :
    ∃ behind, out = text.toList ++ behind := by
  obtain _ | ⟨size, -, -⟩ := hruns
  exact ⟨_, chars_step_text ..⟩

/-- What a file is written as, from its first line on. -/
theorem runs_file (hclosed : closesAt 0 body = true) (htall : ∀ rest, tallAt 0 (body ++ rest) = true)
    (hbox : ∀ g, body ≠ [.gap g]) :
    Runs fileLine (body ++ [.closing]) (Layout.render (group 0 body)).toList := by
  have hopen : openAfter 0 (group 0 body) = 0 := by
    rw [group, box_eq hbox]
    exact openAfter_append hclosed 1 [.closing]
  have hruns := runs_render hopen
  rw [group, box_eq hbox] at hruns ⊢
  obtain ⟨first, hfirst, -, -, -, hsplit⟩ := Runs.of_opening hruns
  obtain rfl : first = fileLine := hsplit (htall _) (by decide)
  exact hfirst

/-- **What a file is written as is read as what its lines are read as**, or not at all. -/
theorem FileLines.reading {out : List Char} (h : FileLines body legal P)
    (hruns : Runs fileLine (body ++ [.closing]) out) :
    ∃ tokens, P tokens ∧ Reading out (if legal then some tokens else none) := by
  obtain ⟨behind, hbehind, hreads⟩ := h.reads hruns
  obtain ⟨last, hlast, -⟩ := Runs.of_closing hbehind
  obtain _ | _ := hlast
  obtain ⟨tokens, htokens, hread⟩ := hreads (some []) reads_nil
  refine ⟨tokens, htokens, ?_⟩
  rw [Option.map_some, List.append_nil] at hread
  exact hread

end WireErrors.Source
