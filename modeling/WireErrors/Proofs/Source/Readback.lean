import WireErrors.Proofs.Source.Layouts
import WireErrors.Proofs.Source.Scores
import WireErrors.Proofs.Source.Comments

/-!
# What layouts are read as

A layout is read as some tokens if, however it is written, they are what its text is read as in front of
whatever comes next (`ReadsAs`). This holds of scores and of documentation comments, and of all that is
put together from both. Comments need a line of their own, which they have in a box that is known to be
split; a comment that is refused makes the whole text unreadable.
-/

namespace WireErrors.Source

open Layout

/-! ## Edges -/

namespace Edge

theorem At.of_isWithin {edge other : Edge} {pen : Pen} {text : List Char} (h : other.At pen text)
    (hwithin : edge.isWithin other = true) : edge.At pen text := by
  unfold At at h ⊢
  split
  next hpositive => rwa [if_pos hpositive] at h
  next hnone =>
    rw [if_neg hnone] at h
    exact h.of_isWithin hwithin

theorem At.congr {edge : Edge} {pen other : Pen} {text : List Char} (h : edge.At pen text)
    (hpending : other.pending = pen.pending) : edge.At other text := by
  rwa [At, hpending]

theorem unknown_holds (text : List Char) : unknown.Holds text := ⟨nofun, nofun, nofun⟩

theorem unknown_at_blanks (pen : Pen) (text : List Char) :
    unknown.At pen (pen.blanks.toList ++ text) := by
  unfold At
  split
  next hpositive => exact holds_blanks hpositive text
  next => exact unknown_holds _

end Edge

/-! ## Parts -/

/-- Whether all gaps of the innermost open box end their line. -/
def IsSplit (pen : Pen) : Prop := ∃ outer frames, pen.frames = .split outer true :: frames

/-- Where a pen is, and what it still writes, behind a part of a layout. -/
structure After (pen : Pen) (rest : Layout) (next : Pen) (behind : List Char) : Prop where
  runs : Runs next rest behind
  frames : next.frames = pen.frames
  indent : next.indent = pen.indent

/-- What a part of a layout is read as in front of anything that `stop` says of: some tokens with a
property, or, if not everything in it is `legal`, nothing at all. If it has comments in it, it has to
stand in a box that is `split`. -/
structure ReadsAs (layout : Layout) (stop : Edge) (split legal : Bool) (P : List Token → Prop) :
    Prop where
  closed : closesAt 0 layout = true
  reads : ∀ {pen rest out}, Runs pen (layout ++ rest) out → (split = true → IsSplit pen) →
    ∃ next behind, After pen rest next behind ∧ ∀ result, stop.At next behind →
      Reading behind result → Edge.unknown.At pen out ∧ ∃ tokens, P tokens ∧
        Reading out (if legal then result.map (tokens ++ ·) else none)

variable {first second body : Layout} {stop : Edge} {split legal firstLegal secondLegal : Bool}
  {P Q : List Token → Prop} {pen : Pen}

theorem ReadsAs.imp (h : ReadsAs body stop split legal P) (himp : ∀ tokens, P tokens → Q tokens) :
    ReadsAs body stop split legal Q where
  closed := h.closed
  reads := by
    intro pen rest out hruns hsplit
    obtain ⟨next, behind, hafter, hreads⟩ := h.reads hruns hsplit
    refine ⟨next, behind, hafter, fun result hat hread => ?_⟩
    obtain ⟨hat, tokens, htokens, hread⟩ := hreads result hat hread
    exact ⟨hat, tokens, himp tokens htokens, hread⟩

theorem IsSplit.after {rest : Layout} {next : Pen} {behind : List Char}
    (h : split = true → IsSplit pen) (hafter : After pen rest next behind) :
    split = true → IsSplit next := by
  intro hsplit
  obtain ⟨outer, frames, hframes⟩ := h hsplit
  exact ⟨outer, frames, hafter.frames.trans hframes⟩

theorem After.trans {middle next : Pen} {between rest : Layout} {out behind : List Char}
    (hfirst : After pen between middle out) (hsecond : After middle rest next behind) :
    After pen rest next behind :=
  ⟨hsecond.runs, hsecond.frames.trans hfirst.frames, hsecond.indent.trans hfirst.indent⟩

/-- Behind a score in which no box is left open. -/
theorem Behind.after {notes : List Note} {rest : Layout} {next : Pen} {behind : List Char}
    (h : Behind pen 0 notes rest next behind) : After pen rest next behind :=
  ⟨h.runs, congrArg Prod.fst h.unwound, congrArg Prod.snd h.unwound⟩

/-- Some tokens in front of others. -/
def Concat (P Q : List Token → Prop) (tokens : List Token) : Prop :=
  ∃ front back, P front ∧ Q back ∧ tokens = front ++ back

theorem ReadsAs.append (hfirst : ReadsAs first .unknown split firstLegal P)
    (hsecond : ReadsAs second stop split secondLegal Q) :
    ReadsAs (first ++ second) stop split (firstLegal && secondLegal) (Concat P Q) where
  closed := closesAt_append hfirst.closed hsecond.closed
  reads := by
    intro pen rest out hruns hsplit
    rw [List.append_assoc] at hruns
    obtain ⟨middle, between, hmiddle, hfront⟩ := hfirst.reads hruns hsplit
    obtain ⟨next, behind, hnext, hback⟩ := hsecond.reads hmiddle.runs (IsSplit.after hsplit hmiddle)
    refine ⟨next, behind, hmiddle.trans hnext, fun result hat hread => ?_⟩
    obtain ⟨hat, back, hQ, hread⟩ := hback result hat hread
    obtain ⟨hat, front, hP, hread⟩ := hfront _ hat hread
    refine ⟨hat, front ++ back, ⟨front, back, hP, hQ, rfl⟩, ?_⟩
    cases firstLegal <;> cases secondLegal <;> cases result <;> simpa using hread

theorem After.box {start : Pen} {rest : Layout} {next : Pen} {behind : List Char}
    (hafter : After start (.closing :: rest) next behind) (hstart : start.unwound 1 = pen.unwound 0) :
    ∃ last, After pen rest last behind ∧ last.pending = next.pending := by
  obtain ⟨last, hlast, hpending, hclosed⟩ := Runs.of_closing hafter.runs
  have hunwound : last.unwound 0 = pen.unwound 0 := by
    rw [hclosed, ← hstart, Pen.unwound, Pen.unwound, hafter.frames, hafter.indent]
  exact ⟨last, ⟨hlast, congrArg Prod.fst hunwound, congrArg Prod.snd hunwound⟩, hpending⟩

theorem ReadsAs.box (h : ReadsAs body stop false legal P) (consistent : Bool) (shift : Int)
    (split : Bool) :
    ReadsAs (.opening consistent shift :: body ++ [.closing]) stop split legal P where
  closed := by
    have hclosed : closesAt (0 + 1) (body ++ [.closing]) = true := closesAt_append h.closed rfl
    exact hclosed
  reads := by
    intro pen rest out hruns hsplit
    rw [List.cons_append, List.cons_append, List.append_assoc] at hruns
    obtain ⟨first, hfirst, hpending, hopened, -⟩ := Runs.of_opening hruns
    obtain ⟨middle, between, hmiddle, hreads⟩ := h.reads hfirst nofun
    obtain ⟨next, hnext, hsame⟩ := hmiddle.box hopened
    refine ⟨next, between, hnext, fun result hat hread => ?_⟩
    obtain ⟨hat, tokens, hP, hread⟩ := hreads result (hat.congr hsame.symm) hread
    exact ⟨hat.congr hpending.symm, tokens, hP, hread⟩

/-! ## Scores -/

theorem readsAs_score {notes : List Note} {all : List Outcome} (h : outcomes stop notes = some all)
    (hlegal : ∀ note ∈ notes, note.isLegal = true) (hclosed : closesAt 0 (layoutOf notes) = true)
    (split : Bool) :
    ReadsAs (layoutOf notes) stop split true fun tokens => ∃ o ∈ all, o.2 = tokens where
  closed := hclosed
  reads := by
    intro pen rest out hruns _
    obtain ⟨next, behind, hbehind, hsaid⟩ := plays_score h hlegal hclosed hruns
    refine ⟨next, behind, hbehind.after, fun result hat hread => ?_⟩
    obtain ⟨o, ho, hat, hread⟩ := hsaid result hat hread
    exact ⟨hat.of_isWithin rfl, o.2, ⟨o, ho, rfl⟩, hread⟩

/-- Whether a part of a text can be read back, as far as it is known. -/
def Part.isKnown : Part → Bool
  | fixed text => (scan false [] text.toList).all Sign.isLegal
  | _ => true

def Part.word? : Part → Option String
  | word name => some name
  | _ => none

namespace Note

/-- Whether what is known of a note can be read back. -/
def isKnown : Note → Bool
  | text parts => parts.all Part.isKnown
  | _ => true

/-- The words of a note that are not known. -/
def words : Note → List String
  | text parts => parts.filterMap Part.word?
  | _ => []

theorem isLegal_of_words {note : Note} (hknown : note.isKnown = true)
    (hwords : ∀ name ∈ note.words, isSpelled name = true) : note.isLegal = true := by
  cases note with
  | text parts =>
    refine List.all_eq_true.mpr fun sign hsign => ?_
    obtain ⟨part, hpart, hsign⟩ := List.mem_flatMap.mp hsign
    have hpartKnown := List.all_eq_true.mp hknown part hpart
    cases part with
    | fixed text => exact List.all_eq_true.mp hpartKnown sign hsign
    | word name =>
      rw [List.mem_singleton.mp hsign]
      exact hwords name (List.mem_filterMap.mpr ⟨_, hpart, rfl⟩)
    | quote value =>
      rw [List.mem_singleton.mp hsign]
      rfl
  | _ => rfl

end Note

/-- A layout with a score, all outcomes of which have a property. -/
def Scored (layout : Layout) (stop : Edge) (P : List Token → Prop) : Prop :=
  ∃ notes all, layout = layoutOf notes ∧ outcomes stop notes = some all ∧
    (∀ note ∈ notes, note.isLegal = true) ∧ closesAt 0 (layoutOf notes) = true ∧
    notes.foldl Note.isTight false = true ∧ ∀ o ∈ all, P o.2

theorem Scored.of {layout : Layout} (notes : List Note) {all : List Outcome}
    (hlayout : layout = layoutOf notes) (hall : outcomes stop notes = some all)
    (hknown : notes.all Note.isKnown = true)
    (hwords : ∀ name ∈ notes.flatMap Note.words, isSpelled name = true)
    (hclosed : closesAt 0 (layoutOf notes) = true) (htight : notes.foldl Note.isTight false = true)
    (hP : ∀ o ∈ all, P o.2) : Scored layout stop P := by
  refine ⟨notes, all, hlayout, hall, fun note hnote => ?_, hclosed, htight, hP⟩
  exact Note.isLegal_of_words (List.all_eq_true.mp hknown note hnote)
    fun name hname => hwords name (List.mem_flatMap.mpr ⟨note, hnote, hname⟩)

theorem Scored.imp {layout : Layout} (h : Scored layout stop P) (himp : ∀ tokens, P tokens → Q tokens) :
    Scored layout stop Q := by
  obtain ⟨notes, all, hlayout, hall, hlegal, hclosed, htight, hP⟩ := h
  exact ⟨notes, all, hlayout, hall, hlegal, hclosed, htight, fun o ho => himp _ (hP o ho)⟩

theorem Scored.readsAs {layout : Layout} (h : Scored layout stop P) (split : Bool) :
    ReadsAs layout stop split true P := by
  obtain ⟨notes, all, rfl, hall, hlegal, hclosed, -, hP⟩ := h
  refine (readsAs_score hall hlegal hclosed split).imp ?_
  rintro tokens ⟨o, ho, rfl⟩
  exact hP o ho

/-- The note of a piece of which the text is known. -/
def noteOf : Piece → Note
  | .text known => .text [.fixed known]
  | .gap g => .gap g
  | .opening consistent shift => .opening consistent shift
  | .closing => .closing
  | .narrowClosing limit => .narrowClosing limit
  | .afterPoint | .missing => .text []

theorem Scored.of_fixed {layout : Layout} {all : List Outcome}
    (hlayout : layout = layoutOf (layout.map noteOf))
    (hall : outcomes stop (layout.map noteOf) = some all)
    (hknown : (layout.map noteOf).all Note.isKnown = true)
    (hclosed : closesAt 0 layout = true)
    (htight : (layout.map noteOf).foldl Note.isTight false = true) (hP : ∀ o ∈ all, P o.2) :
    Scored layout stop P := by
  have hnone (piece : Piece) : (noteOf piece).words = [] := by cases piece <;> rfl
  refine .of _ hlayout hall hknown ?_ (hlayout ▸ hclosed) htight hP
  simp [hnone, List.flatMap_map]

/-! ## Ends of lines -/

/-- A gap that is a blank or the end of a line. -/
structure EndsLine (g : Gap) : Prop where
  never : g.never = false
  optional : g.optional = false
  point : g.afterPoint = false
  lineEnd : g.lineEnd = ""
  lineStart : g.lineStart = ""
  inLine : g.inLine = ""
  blank : 0 < g.blank

theorem EndsLine.shifted {g : Gap} (h : EndsLine g) (shift : Int) :
    EndsLine { g with shift := g.shift + shift } :=
  ⟨h.never, h.optional, h.point, h.lineEnd, h.lineStart, h.inLine, h.blank⟩

theorem endsLine_hardBreak : EndsLine { zero with blank := tooWide } :=
  ⟨rfl, rfl, rfl, rfl, rfl, rfl, by decide⟩

theorem endsLine_space : EndsLine { zero with blank := 1 } :=
  ⟨rfl, rfl, rfl, rfl, rfl, rfl, by decide⟩

theorem EndsLine.spread {g : Gap} (h : EndsLine g) (o : Outcome) :
    Source.spread (gapOutcomes g) [o] = some [(.apart, o.2)] := by
  have hgap : gapOutcomes g o = some [(.apart, o.2)] := by
    simp [gapOutcomes, h.never, h.optional, h.lineEnd, h.lineStart, h.inLine, h.blank]
  rw [Source.spread, Source.spread, hgap]
  rfl

theorem EndsLine.runs {g : Gap} (h : EndsLine g) {rest : Layout} {out : List Char}
    (hruns : Runs pen (.gap g :: rest) out) (hsplit : IsSplit pen) :
    ∃ next behind, Runs next rest behind ∧ out = '\n' :: behind ∧ next.frames = pen.frames ∧
      next.indent = pen.indent ∧ next.pending = (pen.indent + g.shift).toNat ∧
      next.space = max (margin - (pen.indent + g.shift)) minimalSpace := by
  rcases hruns.gap_cases with ⟨hoptional, -⟩ | ⟨inLine, size, behind, hinLine, hrest, rfl⟩
  · rw [h.optional] at hoptional
    cases hoptional
  · rcases hinLine with rfl | ⟨hpoint, -⟩
    · obtain ⟨outer, frames, hframes⟩ := hsplit
      have hgoes : pen.goesOn g size = false := by
        rw [Pen.goesOn, h.never, hframes]
        rfl
      have hstart : g.lineStart.isEmpty = true := by rw [h.lineStart]; rfl
      have hstep := Pen.step_gap_of_not_goesOn hgoes hstart
      rw [hstep] at hrest ⊢
      refine ⟨_, behind, hrest, ?_, ?_⟩
      · rw [h.lineEnd]
        rfl
      · exact ⟨rfl, rfl, rfl, rfl⟩
    · rw [h.point] at hpoint
      cases hpoint

theorem docComment?_ne_nil {text comment : List Char}
    (h : docComment? false text = some comment) : comment ≠ [] := by
  rintro rfl
  unfold docComment? blockComment? at h
  repeat' split at h
  all_goals simp_all

/-- **A comment at the end of a line is read as its text, or makes everything unreadable.** -/
theorem reading_comment {text comment : List Char} (htext : Enclosable text)
    (hcomment : docComment? false text = some comment) {behind : List Char}
    {result : Option (List Token)} (hread : Reading behind result) :
    Reading (comment ++ '\n' :: behind) (if noBareReturn (docBody text) then
      result.map (docTokens false (docBody text) ++ ·) else none) := by
  have hstep := readStep_docComment htext hcomment behind
  obtain ⟨c, more, rfl⟩ := List.exists_cons_of_ne_nil (docComment?_ne_nil hcomment)
  split
  next hlegal =>
    rw [if_pos hlegal] at hstep
    exact .step hstep (by simp) (.blank (by decide) hread)
  next hlegal =>
    rw [if_neg hlegal] at hstep
    exact .refused hstep

theorem readsAs_comment {text comment : List Char} (htext : Enclosable text)
    (hcomment : docComment? false text = some comment) {g : Gap} (hg : EndsLine g) (stop : Edge) :
    ReadsAs [.text (String.ofList comment), .gap g] stop true (noBareReturn (docBody text))
      (· = docTokens false (docBody text)) where
  closed := rfl
  reads := by
    intro pen rest out hruns hsplit
    obtain _ | ⟨size, -, hruns⟩ := hruns
    obtain ⟨next, behind, hrest, rfl, hframes, hindent, -⟩ := hg.runs hruns (hsplit rfl)
    refine ⟨next, behind, ⟨hrest, hframes, hindent⟩, fun result _ hread => ?_⟩
    rw [chars_step_text, String.toList_ofList]
    exact ⟨Edge.unknown_at_blanks pen _, _, rfl, .blanks pen (reading_comment htext hcomment hread)⟩

/-! ## Lines -/

theorem shiftLast_append (shift : Int) (first : Layout) {second : Layout} (h : second ≠ []) :
    shiftLast shift (first ++ second) = first ++ shiftLast shift second := by
  induction first with
  | nil => rfl
  | cons piece first ih =>
    have hne : first ++ second ≠ [] := List.append_ne_nil_of_right_ne_nil _ h
    obtain ⟨other, more, hmore⟩ := List.exists_cons_of_ne_nil hne
    rw [List.cons_append, List.cons_append, ← ih, hmore]
    cases piece <;> rfl

theorem shiftLast_zero (layout : Layout) : shiftLast 0 layout = layout := by
  fun_induction shiftLast 0 layout with
  | case1 => rfl
  | case2 g => simp
  | case3 piece rest _ ih => rw [ih]

theorem shiftLast_ne_nil {shift : Int} {layout : Layout} (h : layout ≠ []) :
    shiftLast shift layout ≠ [] := by
  fun_cases shiftLast shift layout <;> simp_all

theorem mem_shiftLast {text : String} {layout : Layout} (h : .text text ∈ layout) (shift : Int) :
    .text text ∈ shiftLast shift layout := by
  fun_induction shiftLast shift layout with
  | case1 => cases h
  | case2 g => simp at h
  | case3 piece rest _ ih =>
    rcases List.mem_cons.mp h with rfl | h
    · exact List.mem_cons_self
    · exact List.mem_cons_of_mem _ (ih h)

/-- Lines that are read as some tokens, wherever the line behind them starts. A box with them in it has
to be split. -/
structure Lines (layout : Layout) (split legal : Bool) (P : List Token → Prop) : Prop where
  nonempty : layout ≠ []
  tall : ∀ shift rest, tallAt 0 (shiftLast shift layout ++ rest) = true
  reads : ∀ shift, ReadsAs (shiftLast shift layout) .unknown split legal P

theorem Lines.readsAs (h : Lines body split legal P) : ReadsAs body .unknown split legal P := by
  have hreads := h.reads 0
  rwa [shiftLast_zero] at hreads

theorem Lines.imp (h : Lines body split legal P) (himp : ∀ tokens, P tokens → Q tokens) :
    Lines body split legal Q :=
  ⟨h.nonempty, h.tall, fun shift => (h.reads shift).imp himp⟩

theorem ReadsAs.before (hfirst : ReadsAs first .unknown split firstLegal P)
    (hsecond : Lines second split secondLegal Q) :
    Lines (first ++ second) split (firstLegal && secondLegal) (Concat P Q) where
  nonempty := List.append_ne_nil_of_right_ne_nil _ hsecond.nonempty
  tall shift rest := by
    rw [shiftLast_append shift first hsecond.nonempty, List.append_assoc]
    exact tallAt_append hfirst.closed (hsecond.tall shift rest)
  reads shift := by
    rw [shiftLast_append shift first hsecond.nonempty]
    exact hfirst.append (hsecond.reads shift)

theorem Lines.append (hfirst : Lines first split firstLegal P)
    (hsecond : Lines second split secondLegal Q) :
    Lines (first ++ second) split (firstLegal && secondLegal) (Concat P Q) :=
  hfirst.readsAs.before hsecond

theorem ReadsAs.ended (h : ReadsAs body .apart split legal P) {g : Gap} (hg : EndsLine g) :
    ReadsAs (body ++ [.gap g]) .unknown split legal P where
  closed := by
    have hgap : closesAt 0 [.gap g] = true := rfl
    exact closesAt_append h.closed hgap
  reads := by
    intro pen rest out hruns hsplit
    rw [List.append_assoc] at hruns
    obtain ⟨middle, between, hmiddle, hreads⟩ := h.reads hruns hsplit
    obtain ⟨next, behind, hbehind, hsaid⟩ :=
      plays_gap (plays_nil .unknown) (hg.spread _) hmiddle.runs
    refine ⟨next, behind, hmiddle.trans hbehind.after, fun result hat hread => ?_⟩
    obtain ⟨o, ho, hat, hread⟩ := hsaid result hat hread
    obtain rfl := List.mem_singleton.mp ho
    exact hreads result hat (by simpa using hread)

theorem ReadsAs.line (h : ReadsAs body .apart split legal P) :
    Lines (body ++ hardBreak) split legal P where
  nonempty := List.append_ne_nil_of_right_ne_nil _ (List.cons_ne_nil _ _)
  tall shift rest := by
    have hne : hardBreak ≠ [] := List.cons_ne_nil _ _
    rw [shiftLast_append shift body hne, List.append_assoc]
    exact tallAt_append h.closed rfl
  reads shift := by
    have hne : hardBreak ≠ [] := List.cons_ne_nil _ _
    rw [shiftLast_append shift body hne]
    exact h.ended (endsLine_hardBreak.shifted shift)

theorem lines_flatMap {α : Type} {list : List α} (hne : list ≠ []) {layout : α → Layout}
    {legal : α → Bool} (h : ∀ a ∈ list, Lines (layout a) split (legal a) P) :
    Lines (list.flatMap layout) split (list.all legal) fun tokens =>
      ∃ parts : List (List Token), (∀ part ∈ parts, P part) ∧ tokens = parts.flatten := by
  induction list with
  | nil => exact absurd rfl hne
  | cons a list ih =>
    rw [List.forall_mem_cons] at h
    by_cases hlast : list = []
    · subst hlast
      rw [List.flatMap_singleton, List.all_cons, List.all_nil, Bool.and_true]
      exact h.1.imp fun tokens htokens =>
        ⟨[tokens], List.forall_mem_singleton.mpr htokens, by simp⟩
    · rw [List.flatMap_cons, List.all_cons]
      refine (h.1.append (ih hlast h.2)).imp ?_
      rintro tokens ⟨front, back, hfront, ⟨parts, hparts, rfl⟩, rfl⟩
      exact ⟨front :: parts, List.forall_mem_cons.mpr ⟨hfront, hparts⟩, rfl⟩

theorem lines_flatMap_append {α : Type} {list : List α} {layout : α → Layout} {legal : α → Bool}
    (h : ∀ a ∈ list, Lines (layout a) split (legal a) P) {behind : Layout} {behindLegal : Bool}
    (hbehind : Lines behind split behindLegal fun tokens =>
      ∃ parts : List (List Token), (∀ part ∈ parts, P part) ∧ tokens = parts.flatten) :
    Lines (list.flatMap layout ++ behind) split (list.all legal && behindLegal) fun tokens =>
      ∃ parts : List (List Token), (∀ part ∈ parts, P part) ∧ tokens = parts.flatten := by
  induction list with
  | nil => exact hbehind
  | cons a list ih =>
    rw [List.forall_mem_cons] at h
    rw [List.flatMap_cons, List.append_assoc, List.all_cons, Bool.and_assoc]
    refine (h.1.append (ih h.2)).imp ?_
    rintro tokens ⟨front, back, hfront, ⟨parts, hparts, rfl⟩, rfl⟩
    exact ⟨front :: parts, List.forall_mem_cons.mpr ⟨hfront, hparts⟩, rfl⟩

end WireErrors.Source
