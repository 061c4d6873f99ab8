import WireErrors.Proofs.Layout.Parts
import WireErrors.Proofs.Source.Signs

/-!
# Scores

A score is a layout of which it is known what its texts are read as: its notes give each text by its
parts. However a score is written, it is read as one of its outcomes (`plays_score`), which differ by
the commas at the end of a line and by which marks touch each other.
-/

namespace WireErrors.Source

open Layout

/-! ## Blanks in front -/

namespace Edge

/-- Whether a text starts as an edge says, with the blanks in front of it that a pen has to write. -/
def At (edge : Edge) (pen : Pen) (text : List Char) : Prop :=
  if 0 < pen.pending then apart.Holds text else edge.Holds text

theorem at_of_apart {edge : Edge} {text : List Char} (h : apart.Holds text)
    (hedge : edge.isWithin apart = true) (pen : Pen) : edge.At pen text := by
  unfold At
  split
  · exact h
  · exact h.of_isWithin hedge

theorem isWithin_loose (edge : Edge) : edge.loose.isWithin apart = true := by
  obtain ⟨parted, joint, plain⟩ := edge
  rcases joint with _ | _ | _ <;> cases parted <;> cases plain <;> rfl

theorem At.loose {edge : Edge} {pen : Pen} {text : List Char} (h : edge.At pen text) :
    edge.loose.At pen text := by
  unfold At at h ⊢
  split
  next hpending => rwa [if_pos hpending] at h
  next hpending =>
    rw [if_neg hpending] at h
    exact h.loose

theorem holds_blanks {pen : Pen} (h : 0 < pen.pending) (text : List Char) :
    apart.Holds (pen.blanks.toList ++ text) := by
  obtain ⟨count, hcount⟩ := Nat.exists_eq_succ_of_ne_zero (Nat.ne_of_gt h)
  rw [Pen.blanks, String.toList_ofList, hcount]
  exact apart_cons (by decide) _

end Edge

theorem Reading.blanks (pen : Pen) {text : List Char} {result : Option (List Token)}
    (h : Reading text result) : Reading (pen.blanks.toList ++ text) result := by
  rw [Pen.blanks, String.toList_ofList]
  induction pen.pending with
  | zero => exact h
  | succ count ih => exact Reading.blank (by decide) ih


/-- What is written from where a pen stands is read, with a result behind it, as one of some outcomes
says. -/
def SaidAt (outcomes : List Outcome) (pen : Pen) (text : List Char) (result : Option (List Token)) :
    Prop :=
  ∃ o ∈ outcomes, o.1.At pen text ∧ Reading text (result.map (o.2 ++ ·))

theorem Said.blanks {outcomes : List Outcome} {text : List Char} {result : Option (List Token)}
    (h : Said outcomes text result) (pen : Pen) :
    SaidAt outcomes pen (pen.blanks.toList ++ text) result := by
  obtain ⟨o, ho, hedge, hread⟩ := h
  refine ⟨o, ho, ?_, hread.blanks pen⟩
  unfold Edge.At
  split
  next hpending => exact Edge.holds_blanks hpending text
  next hpending =>
    have hnone : pen.pending = 0 := Nat.eq_zero_of_not_pos hpending
    rw [Pen.blanks, hnone]
    exact hedge

/-! ## Gaps -/

/-- The outcomes of a gap in front of something with an outcome of its own: a line may end there, with a
comma or without one. -/
def gapOutcomes (g : Gap) (rest : Outcome) : Option (List Outcome) :=
  if g.lineStart.isEmpty && g.inLine.isEmpty then
    if g.lineEnd.isEmpty then
      if g.never then if g.blank = 0 && !g.afterPoint then some [rest] else none
      else if 0 < g.blank && !g.optional then some [(.apart, rest.2)]
      else some [(rest.1.loose, rest.2)]
    else if g.lineEnd = "," && !g.optional && !g.never && !g.afterPoint then
      some [(if 0 < g.blank then .apart else rest.1, rest.2),
        (⟨true, some true, true⟩, .mark ',' false :: rest.2)]
    else none
  else none

/-- The cases of the outcomes of a gap. -/
inductive GapCases (g : Gap) (o : Outcome) : List Outcome → Prop
  /-- A mark for measuring. -/
  | never (hnever : g.never = true) (hblank : g.blank = 0) (hpoint : g.afterPoint = false) :
      GapCases g o [o]
  /-- Perhaps the end of a line, and if it is none and not known to be a blank, perhaps nothing. -/
  | plain {edge : Edge} (hnever : g.never = false) (hend : g.lineEnd.isEmpty = true)
      (hapart : edge.isWithin .apart = true)
      (hloose : edge = o.1.loose ∨ 0 < g.blank ∧ g.optional = false) : GapCases g o [(edge, o.2)]
  /-- Perhaps the end of a line with a comma. -/
  | comma (hnever : g.never = false) (hend : g.lineEnd = ",") (hoptional : g.optional = false)
      (hpoint : g.afterPoint = false) :
      GapCases g o [(if 0 < g.blank then .apart else o.1, o.2),
        (⟨true, some true, true⟩, .mark ',' false :: o.2)]

theorem gapCases {g : Gap} {o : Outcome} {all : List Outcome} (h : gapOutcomes g o = some all) :
    g.lineStart.isEmpty = true ∧ g.inLine = "" ∧ GapCases g o all := by
  rw [gapOutcomes, Option.ite_none_right_eq_some, Bool.and_eq_true] at h
  obtain ⟨⟨hstart, hinLine⟩, h⟩ := h
  refine ⟨hstart, String.isEmpty_iff.mp hinLine, ?_⟩
  split at h
  next hend =>
    split at h
    next hnever =>
      rw [Option.ite_none_right_eq_some] at h
      obtain rfl := Option.some.inj h.2
      simp only [Bool.and_eq_true, decide_eq_true_eq, Bool.not_eq_true'] at h
      exact .never hnever h.1.1 h.1.2
    next hnever =>
      rw [Bool.not_eq_true] at hnever
      split at h
      next hblank =>
        obtain rfl := Option.some.inj h
        simp only [Bool.and_eq_true, decide_eq_true_eq, Bool.not_eq_true'] at hblank
        exact .plain hnever hend rfl (.inr hblank)
      next =>
        obtain rfl := Option.some.inj h
        exact .plain hnever hend (Edge.isWithin_loose o.1) (.inl rfl)
  next =>
    rw [Option.ite_none_right_eq_some] at h
    obtain rfl := Option.some.inj h.2
    simp only [Bool.and_eq_true, decide_eq_true_eq, Bool.not_eq_true'] at h
    exact .comma h.1.1.2 h.1.1.1.1 h.1.1.1.2 h.1.2

variable {g : Gap} {o : Outcome} {all : List Outcome} {pen : Pen} {behind : List Char}
  {result : Option (List Token)}

theorem SaidAt.mono {few : List Outcome} {text : List Char} (h : SaidAt few pen text result)
    (hall : ∀ o ∈ few, o ∈ all) : SaidAt all pen text result := by
  obtain ⟨o, ho, hsaid⟩ := h
  exact ⟨o, hall o ho, hsaid⟩

theorem SaidAt.single {edge : Edge} {tokens : List Token} {text : List Char}
    (hat : edge.At pen text) (hread : Reading text (result.map (tokens ++ ·))) :
    SaidAt [(edge, tokens)] pen text result :=
  ⟨_, List.mem_singleton_self _, hat, hread⟩

theorem said_dropped (h : gapOutcomes g o = some all) (hoptional : g.optional = true)
    (hat : o.1.At pen behind) (hread : Reading behind (result.map (o.2 ++ ·))) :
    SaidAt all pen behind result := by
  obtain ⟨-, -, hcases⟩ := gapCases h
  cases hcases with
  | never => exact .single hat hread
  | plain _ _ _ hloose =>
    rcases hloose with rfl | ⟨-, hno⟩
    · exact .single hat.loose hread
    · rw [hoptional] at hno
      cases hno
  | comma _ _ hno =>
    rw [hoptional] at hno
    cases hno

theorem said_goesOn (h : gapOutcomes g o = some all) {next : Pen}
    (hnext : next.pending = pen.pending + g.blank) {inLine : String}
    (hinLine : inLine = g.inLine ∨ g.afterPoint = true ∧ inLine = " ")
    (hat : o.1.At next behind) (hread : Reading behind (result.map (o.2 ++ ·))) :
    SaidAt all pen (inLine.toList ++ behind) result := by
  obtain ⟨-, hnone, hcases⟩ := gapCases h
  have hapart : 0 < g.blank → Edge.apart.Holds behind := by
    intro hblank
    rwa [Edge.At, if_pos (by omega)] at hat
  have hsame : g.blank = 0 → o.1.At pen behind := by
    intro hblank
    rwa [Edge.At, hnext, hblank, Nat.add_zero, ← Edge.At] at hat
  rcases hinLine with rfl | ⟨hpoint, rfl⟩
  · rw [hnone]
    cases hcases with
    | never _ hblank => exact .single (hsame hblank) hread
    | plain _ _ hwithin hloose =>
      rcases Nat.eq_zero_or_pos g.blank with hblank | hblank
      · rcases hloose with rfl | ⟨hpositive, -⟩
        · exact .single (hsame hblank).loose hread
        · omega
      · exact .single (Edge.at_of_apart (hapart hblank) hwithin pen) hread
    | comma =>
      refine ⟨_, List.mem_cons_self, ?_, hread⟩
      dsimp only
      split
      next hblank => exact Edge.at_of_apart (hapart hblank) rfl pen
      next hblank => exact hsame (Nat.eq_zero_of_not_pos hblank)
  · have hblank : Edge.apart.Holds (' ' :: behind) := Edge.apart_cons (by decide) behind
    cases hcases with
    | never _ _ hno =>
      rw [hpoint] at hno
      cases hno
    | plain _ _ hwithin =>
      exact .single (Edge.at_of_apart hblank hwithin pen) (.blank (by decide) hread)
    | comma _ _ _ hno =>
      rw [hpoint] at hno
      cases hno

theorem said_break (h : gapOutcomes g o = some all) (hnever : g.never = false)
    (hread : Reading behind (result.map (o.2 ++ ·))) :
    SaidAt all pen (chars ((if g.lineEnd.isEmpty then [] else [pen.blanks, g.lineEnd]) ++ ["\n"]) ++
      behind) result := by
  have hbreak : Edge.apart.Holds ('\n' :: behind) := Edge.apart_cons (by decide) behind
  have hread' : Reading ('\n' :: behind) (result.map (o.2 ++ ·)) := .blank (by decide) hread
  obtain ⟨-, -, hcases⟩ := gapCases h
  cases hcases with
  | never hno =>
    rw [hnever] at hno
    cases hno
  | plain _ hend hwithin =>
    rw [if_pos hend]
    exact .single (Edge.at_of_apart hbreak hwithin pen) hread'
  | comma _ hend =>
    have hcomma : Reading ([','] ++ '\n' :: behind)
        (result.map ((.mark ',' false :: o.2) ++ ·)) :=
      .token_append (starts_mark (by decide) _) (List.cons_ne_nil _ _) hread'
    have hedge : Edge.Holds ⟨true, some true, true⟩ (',' :: '\n' :: behind) :=
      Sign.holds_mark (c := ',') (by decide) _
    have hsaid : Said [(⟨true, some true, true⟩, .mark ',' false :: o.2)] (',' :: '\n' :: behind)
        result :=
      ⟨_, List.mem_singleton_self _, hedge, hcomma⟩
    obtain ⟨other, hother, hat, hread⟩ := hsaid.blanks pen
    have htexts : chars ((if g.lineEnd.isEmpty then [] else [pen.blanks, g.lineEnd]) ++ ["\n"]) ++
        behind = pen.blanks.toList ++ ',' :: '\n' :: behind := by
      rw [hend]
      simp [chars]
    rw [htexts]
    exact ⟨other, List.mem_cons_of_mem _ hother, hat, hread⟩

/-! ## Notes -/

/-- A piece of a score. -/
inductive Note where
  | text (parts : List Part)
  | gap (g : Gap)
  | opening (consistent : Bool) (shift : Int)
  | closing
  | narrowClosing (limit : Nat)

namespace Note

def piece : Note → Piece
  | text parts => .text (Part.joined parts)
  | gap g => .gap g
  | opening consistent shift => .opening consistent shift
  | closing => .closing
  | narrowClosing limit => .narrowClosing limit

/-- Whether the signs of a note can be read back. -/
def isLegal : Note → Bool
  | text parts => (parts.flatMap Part.signs).all Sign.isLegal
  | _ => true

/-- Whether no blanks have to be written behind a note, if so in front of it. -/
def isTight (tight : Bool) : Note → Bool
  | text _ => true
  | gap g => tight && g.never && g.blank = 0
  | _ => tight

end Note

/-- The layout of a score. -/
def layoutOf (notes : List Note) : Layout := notes.map Note.piece

/-- The outcomes of a score in front of something. -/
def outcomes (stop : Edge) : List Note → Option (List Outcome)
  | [] => some [(stop, [])]
  | .text parts :: notes =>
    (outcomes stop notes).bind (spread (Sign.allOutcomes (parts.flatMap Part.signs)))
  | .gap g :: notes => (outcomes stop notes).bind (spread (gapOutcomes g))
  | _ :: notes => outcomes stop notes

/-- What is written behind a score, and where the pen stands there. -/
structure Behind (pen : Pen) (depth : Nat) (notes : List Note) (rest : Layout) (next : Pen)
    (behind : List Char) : Prop where
  runs : Runs next rest behind
  unwound : (next.frames, next.indent) = pen.unwound depth
  tight : ∀ tight, (tight = true → pen.pending = 0) →
    notes.foldl Note.isTight tight = true → next.pending = 0

/-- However a score is written, it is read as one of some outcomes, in front of anything that `stop`
says of. -/
def Plays (stop : Edge) (notes : List Note) (all : List Outcome) (depth : Nat) : Prop :=
  ∀ {pen rest out}, Runs pen (layoutOf notes ++ rest) out →
    ∃ next behind, Behind pen depth notes rest next behind ∧ ∀ result, stop.At next behind →
      Reading behind result → SaidAt all pen out result

section

variable {stop : Edge} {notes : List Note} {later : List Outcome} {depth : Nat} {rest : Layout}
  {next : Pen}

theorem plays_nil (stop : Edge) : Plays stop [] [(stop, [])] 0 := by
  intro pen rest out hruns
  refine ⟨pen, out, ⟨hruns, rfl, fun tight hpen htight => hpen htight⟩, fun result hat hread => ?_⟩
  refine .single hat ?_
  simpa using hread

theorem plays_text (hplays : Plays stop notes later depth) {parts : List Part}
    (hspread : spread (Sign.allOutcomes (parts.flatMap Part.signs)) later = some all)
    (hlegal : (Note.text parts).isLegal = true) : Plays stop (.text parts :: notes) all depth := by
  rintro pen rest _ (_ | ⟨size, -, hruns⟩)
  obtain ⟨next, behind, hbehind, hsaid⟩ := hplays hruns
  refine ⟨next, behind, ⟨hbehind.runs, hbehind.unwound, fun tight _ htight =>
    hbehind.tight true (fun _ => rfl) htight⟩, fun result hat hread => ?_⟩
  obtain ⟨o, ho, hedge, hread⟩ := hsaid result hat hread
  obtain ⟨first, hfirst, hall⟩ := of_spread hspread ho
  have hsaid := Sign.said_of_allOutcomes hfirst (List.all_eq_true.mp hlegal) hedge hread
  rw [← Part.toList_joined] at hsaid
  have htexts : ∀ behind : List Char, chars [pen.blanks, Part.joined parts] ++ behind =
      pen.blanks.toList ++ ((Part.joined parts).toList ++ behind) := by
    intro behind
    simp [chars]
  exact htexts _ ▸ (hsaid.blanks pen).mono hall

theorem Behind.gap {middle : Pen} (hbehind : Behind middle depth notes rest next behind)
    (hframes : middle.frames = pen.frames) (hindent : middle.indent = pen.indent)
    (hpending : g.never = true → g.blank = 0 → middle.pending = pen.pending) :
    Behind pen depth (.gap g :: notes) rest next behind := by
  refine ⟨hbehind.runs, ?_, fun tight hpen htight => hbehind.tight _ (fun hnow => ?_) htight⟩
  · rw [hbehind.unwound, Pen.unwound, Pen.unwound, hframes, hindent]
  · simp only [Note.isTight, Bool.and_eq_true, decide_eq_true_eq] at hnow
    rw [hpending hnow.1.2 hnow.2, hpen hnow.1.1]

theorem plays_gap (hplays : Plays stop notes later depth)
    (hspread : spread (gapOutcomes g) later = some all) : Plays stop (.gap g :: notes) all depth := by
  intro pen rest out hruns
  rcases hruns.gap_cases with ⟨hoptional, hrest⟩ | ⟨inLine, size, out, hinLine, hrest, rfl⟩
  · obtain ⟨next, behind, hbehind, hsaid⟩ := hplays hrest
    refine ⟨next, behind, hbehind.gap rfl rfl fun _ _ => rfl, fun result hat hread => ?_⟩
    obtain ⟨o, ho, hat, hread⟩ := hsaid result hat hread
    obtain ⟨first, hfirst, hall⟩ := of_spread hspread ho
    exact (said_dropped hfirst hoptional hat hread).mono hall
  · obtain ⟨next, behind, hbehind, hsaid⟩ := hplays hrest
    obtain ⟨hframes, hindent⟩ := pen.step_gap_frames { g with inLine } size
    refine ⟨next, behind, hbehind.gap hframes hindent fun hnever hblank => ?_,
      fun result hat hread => ?_⟩
    · rw [Pen.step_gap_of_goesOn (by rw [Pen.goesOn, hnever, Bool.true_or])]
      dsimp only
      rw [hblank, Nat.add_zero]
    · obtain ⟨o, ho, hat, hread⟩ := hsaid result hat hread
      obtain ⟨first, hfirst, hall⟩ := of_spread hspread ho
      refine SaidAt.mono ?_ hall
      cases hgoes : pen.goesOn { g with inLine } size with
      | true =>
        have htexts : chars [inLine] = inLine.toList := by simp [chars]
        rw [Pen.step_gap_of_goesOn hgoes] at hat ⊢
        rw [htexts]
        exact said_goesOn hfirst rfl hinLine hat hread
      | false =>
        rw [Pen.step_gap_of_not_goesOn hgoes (gapCases hfirst).1]
        exact said_break (g := g) hfirst (Bool.or_eq_false_iff.mp hgoes).1 hread

theorem Behind.box {note : Note} {middle : Pen} {inner : Nat}
    (hbehind : Behind middle inner notes rest next behind) (hpending : middle.pending = pen.pending)
    (hunwound : middle.unwound inner = pen.unwound depth) (hnote : ∀ tight, note.isTight tight = tight) :
    Behind pen depth (note :: notes) rest next behind := by
  refine ⟨hbehind.runs, hbehind.unwound.trans hunwound, fun tight hpen htight => ?_⟩
  rw [List.foldl_cons, hnote] at htight
  exact hbehind.tight tight (fun hnow => hpending.trans (hpen hnow)) htight

theorem SaidAt.box {texts : List String} {middle : Pen} {text : List Char}
    (h : SaidAt all middle text result) (htexts : texts = []) (hpending : middle.pending = pen.pending) :
    SaidAt all pen (chars texts ++ text) result := by
  obtain ⟨o, ho, hat, hread⟩ := h
  subst htexts
  refine ⟨o, ho, ?_, hread⟩
  rwa [Edge.At, hpending] at hat

theorem plays_opening (hplays : Plays stop notes all (depth + 1)) (consistent : Bool) (shift : Int) :
    Plays stop (.opening consistent shift :: notes) all depth := by
  rintro pen rest _ (_ | ⟨size, -, hruns⟩)
  obtain ⟨next, behind, hbehind, hsaid⟩ := hplays hruns
  obtain ⟨htexts, hpending⟩ := pen.step_opening consistent shift size
  exact ⟨next, behind, hbehind.box hpending (unwound_opening ..) fun _ => rfl,
    fun result hat hread => (hsaid result hat hread).box htexts hpending⟩

theorem plays_closing (hplays : Plays stop notes all depth) :
    Plays stop (.closing :: notes) all (depth + 1) := by
  rintro pen rest _ (_ | ⟨size, -, hruns⟩)
  obtain ⟨next, behind, hbehind, hsaid⟩ := hplays hruns
  obtain ⟨htexts, hpending⟩ := pen.step_closing (.inl rfl) size
  exact ⟨next, behind, hbehind.box hpending (unwound_closing (.inl rfl) ..) fun _ => rfl,
    fun result hat hread => (hsaid result hat hread).box htexts hpending⟩

theorem plays_narrowClosing (hplays : Plays stop notes all depth) (limit : Nat) :
    Plays stop (.narrowClosing limit :: notes) all (depth + 1) := by
  intro pen rest out hruns
  cases hruns with
  | step size _ hruns =>
    obtain ⟨next, behind, hbehind, hsaid⟩ := hplays hruns
    obtain ⟨htexts, hpending⟩ := pen.step_closing (.inr ⟨limit, rfl⟩) size
    exact ⟨next, behind, hbehind.box hpending (unwound_closing (.inr ⟨limit, rfl⟩) ..) fun _ => rfl,
      fun result hat hread => (hsaid result hat hread).box htexts hpending⟩
  | flushed hruns =>
    obtain ⟨next, behind, hbehind, hsaid⟩ := plays_closing hplays hruns
    refine ⟨next, behind, ⟨hbehind.runs, hbehind.unwound, fun tight _ htight =>
      hbehind.tight tight (fun _ => rfl) htight⟩, fun result hat hread => ?_⟩
    obtain ⟨o, ho, hat, hread⟩ := hsaid result hat hread
    exact Said.blanks ⟨o, ho, hat, hread⟩ pen

/-- **However a score is written, it is read as one of its outcomes**, in front of anything that they
are outcomes in front of. -/
theorem plays_score (h : outcomes stop notes = some all)
    (hlegal : ∀ note ∈ notes, note.isLegal = true) (hclosed : closesAt depth (layoutOf notes) = true) :
    Plays stop notes all depth := by
  induction notes generalizing all depth with
  | nil =>
    obtain rfl : depth = 0 := beq_iff_eq.mp hclosed
    obtain rfl := Option.some.inj h
    exact plays_nil stop
  | cons note notes ih =>
    rw [List.forall_mem_cons] at hlegal
    cases note with
    | text parts =>
      obtain ⟨later, hlater, hspread⟩ := Option.bind_eq_some_iff.mp h
      exact plays_text (ih hlater hlegal.2 hclosed) hspread hlegal.1
    | gap g =>
      obtain ⟨later, hlater, hspread⟩ := Option.bind_eq_some_iff.mp h
      exact plays_gap (ih hlater hlegal.2 hclosed) hspread
    | opening consistent shift => exact plays_opening (ih h hlegal.2 hclosed) consistent shift
    | closing =>
      obtain ⟨hdepth, hclosed⟩ := Bool.and_eq_true_iff.mp hclosed
      obtain ⟨depth, rfl⟩ := Nat.exists_eq_succ_of_ne_zero (bne_iff_ne.mp hdepth)
      exact plays_closing (ih h hlegal.2 hclosed)
    | narrowClosing limit =>
      obtain ⟨hdepth, hclosed⟩ := Bool.and_eq_true_iff.mp hclosed
      obtain ⟨depth, rfl⟩ := Nat.exists_eq_succ_of_ne_zero (bne_iff_ne.mp hdepth)
      exact plays_narrowClosing (ih h hlegal.2 hclosed) limit

end

end WireErrors.Source
