import WireErrors.Proofs.Formatted.Members

/-!
# Formatted implementations

The implementations of a module as they are formatted: the members of its two types, and those of traits
for them.
-/

namespace WireErrors

open Source Layout
open Source.Reader hiding word body

namespace Formatted

open ErrorTypes Decoder ErrorModule

variable {policy : Policy} {model : Model} {unknown type : String}

/-! ## Implementations -/

/-- What stands in front of the members of a type. -/
def inherentNotes (type : String) : List Note :=
  [.opening false (-indent), .opening true indent, .text [.fixed "impl"], .closing, .text [.fixed " "],
    .text [.word type], .closing, .text [.fixed " "]]

/-- **The members of a type are read as members.** -/
theorem fileLines_inherent {members : List Member} (htype : IsName type) (hne : members ≠ [])
    (hmembers : ∀ m ∈ members, Lines m.layout true true (Phrase Anything memberAt)) :
    FileLines (implementation none type members).layout true (Phrase Anything itemAt) := by
  have hscore : outcomes .unknown (inherentNotes type) =
      some [(.word, [.ident "impl", .ident type])] := rfl
  have hheading : Scored (layoutOf (inherentNotes type)) .unknown (· = [.ident "impl", .ident type]) :=
    .of _ rfl hscore rfl (List.forall_mem_singleton.mpr htype.spelled) rfl rfl
      (List.forall_mem_singleton.mpr rfl)
  have hlayout : (implementation none type members).layout =
      braceBox (layoutOf (inherentNotes type)) (members.flatMap Member.layout) := rfl
  rw [hlayout]
  refine (fileLines_braceBox (hheading.readsAs true) (lines_members hne hmembers)).imp ?_
  rintro _ ⟨_, _, rfl, ⟨parts, hparts, rfl⟩, rfl⟩
  exact phrase_inherent htype.word hparts

/-- What stands in front of the members of a trait, the path of which is given. -/
def interfaceNotes (path : List Note) (type : String) : List Note :=
  [Note.opening false (-indent), .opening true indent, .text [.fixed "impl"], .closing,
    .text [.fixed " "]] ++ path ++ [Note.gap { zero with blank := 1 }, .text [.fixed "for "],
      .text [.word type], .closing, .text [.fixed " "]]

def interfaceTokens (path : List Token) (type : String) : List Token :=
  .ident "impl" :: (path ++ [Token.ident "for", .ident type])

/-- A trait with its path as notes and tokens. -/
structure ScoredTrait (interface : TypeExpr) (notes : List Note) (tokens : List Token) : Prop where
  layout : interface.layout = layoutOf notes
  known : notes.all Note.isKnown = true
  words : ∀ name ∈ notes.flatMap Note.words, isSpelled name = true
  closed : closesAt 0 (layoutOf notes) = true
  outcomes : ∀ type, outcomes .unknown (interfaceNotes notes type) =
    some [(.word, interfaceTokens tokens type)]
  path : TraitPath tokens

theorem ScoredTrait.scored {interface : TypeExpr} {notes : List Note} {tokens : List Token}
    (h : ScoredTrait interface notes tokens) (htype : IsName type) :
    Scored (layoutOf (interfaceNotes notes type)) .unknown (· = interfaceTokens tokens type) := by
  refine .of _ rfl (h.outcomes type) ?_ ?_ ?_ ?_ (List.forall_mem_singleton.mpr rfl)
  · rw [interfaceNotes, List.all_append, List.all_append, h.known]
    rfl
  · rw [interfaceNotes, List.flatMap_append, List.flatMap_append]
    exact List.forall_mem_append.mpr ⟨h.words, List.forall_mem_singleton.mpr htype.spelled⟩
  · have hlast : closesAt 1 [.gap { zero with blank := 1 }, .text "for ", .text type, .closing,
        .text " "] = true := rfl
    have hclosed := closesAt_append h.closed hlast
    rw [interfaceNotes, List.append_assoc, layoutOf_append, layoutOf_append]
    exact hclosed
  · rw [interfaceNotes, List.foldl_append]
    rfl

theorem ScoredTrait.heading_eq {interface : TypeExpr} {notes : List Note} {tokens : List Token}
    (h : ScoredTrait interface notes tokens) (type : String) :
    fill (-indent) (group indent (word "impl") ++ word " " ++ (interface.layout ++ space ++ word "for ") ++
      (TypeExpr.named type).layout) ++ word " " = layoutOf (interfaceNotes notes type) := by
  have hmem : .text " " ∈ group indent (word "impl") ++ word " " ++
      (interface.layout ++ space ++ word "for ") ++ (TypeExpr.named type).layout := by
    simp [word]
  rw [fill, box_eq (ne_gap_of_mem hmem), h.layout, interfaceNotes, layoutOf_append, layoutOf_append]
  have hname : (TypeExpr.named type).layout = word type := rfl
  have himpl : group indent (word "impl") = [.opening true indent, .text "impl", .closing] := rfl
  rw [hname, himpl]
  simp [layoutOf, Note.piece, Part.joined, Part.text, word, space]

theorem fileLines_interface {interface : TypeExpr} {notes : List Note} {tokens : List Token}
    {members : List Member} (hinterface : ScoredTrait interface notes tokens) (htype : IsName type)
    (hne : members ≠ [])
    (hmembers : ∀ m ∈ members, Lines m.layout true true (Phrase Anything memberAt)) :
    FileLines (implementation (some interface) type members).layout true (Phrase Anything itemAt) := by
  have hlayout : (implementation (some interface) type members).layout =
      braceBox (layoutOf (interfaceNotes notes type)) (members.flatMap Member.layout) := by
    rw [← hinterface.heading_eq type]
    rfl
  rw [hlayout]
  refine (fileLines_braceBox ((hinterface.scored htype).readsAs true)
    (lines_members hne hmembers)).imp ?_
  rintro _ ⟨_, _, rfl, ⟨parts, hparts, rfl⟩, rfl⟩
  have hphrase := phrase_interface hinterface.path htype.word hparts
  simpa [interfaceTokens] using hphrase

/-- An opening brace and the gap up to the closing one, with nothing in between. -/
def emptyNotes : List Note :=
  [.text [.fixed "\x7b"],
    .gap { zero with blank := tooWide, optional := true, shift := -indent }]

theorem readsAs_emptyNotes :
    ReadsAs (layoutOf emptyNotes) .unknown false true (· = [.opening .brace]) := by
  have hscore : outcomes .unknown emptyNotes = some [(.apart, [.opening .brace])] := rfl
  refine (readsAs_score hscore (by decide) rfl false).imp ?_
  rintro tokens ⟨o, ho, rfl⟩
  rw [List.mem_singleton.mp ho]

theorem fileLines_marker {interface : TypeExpr} {notes : List Note} {tokens : List Token}
    (hinterface : ScoredTrait interface notes tokens) (htype : IsName type) :
    FileLines (implementation (some interface) type []).layout true (Phrase Anything itemAt) := by
  have hlayout : (implementation (some interface) type []).layout =
      .opening true indent :: (layoutOf (interfaceNotes notes type) ++ layoutOf emptyNotes) ++
        [Piece.closing] ++ word "\x7d" ++ hardBreak := by
    have hbox : (implementation (some interface) type []).layout =
        braceBox (layoutOf (interfaceNotes notes type)) [] := by
      rw [← hinterface.heading_eq type]
      rfl
    have hword : .text "\x7b" ∈ layoutOf (interfaceNotes notes type) ++ word "\x7b" ++
        shiftLast (-indent) (hardBreakIfMore ++ []) :=
      List.mem_append_left _ (List.mem_append_right _ (List.mem_singleton_self _))
    rw [hbox, braceBox, group, box_eq (ne_gap_of_mem hword),
      List.append_assoc (layoutOf (interfaceNotes notes type))]
    rfl
  have hbox := (((hinterface.scored htype).readsAs false).append readsAs_emptyNotes).box true indent true
  rw [hlayout]
  refine ((hbox.append (readsAs_closing .apart true)).fileLines endsLine_hardBreak rfl).imp ?_
  rintro _ ⟨_, _, ⟨_, _, rfl, rfl, rfl⟩, rfl, rfl⟩
  have hphrase := phrase_interface hinterface.path htype.word (List.forall_mem_nil (Phrase Anything memberAt))
  simpa [interfaceTokens, Token.group] using hphrase

/-! ## Traits -/

theorem scoredTrait_names {names : List String}
    (hnames : names = ["std", "fmt", "Display"] ∨ names = ["std", "error", "Error"]) :
    ScoredTrait (.names names) ((TypeExpr.names names).layout.map noteOf) (Token.path names) where
  layout := by obtain rfl | rfl := hnames <;> rfl
  known := by obtain rfl | rfl := hnames <;> rfl
  words := by obtain rfl | rfl := hnames <;> nofun
  closed := by obtain rfl | rfl := hnames <;> rfl
  outcomes _ := by obtain rfl | rfl := hnames <;> rfl
  path := {
    reads := fun _ _ => ⟨.names names, by obtain rfl | rfl := hnames <;> exact ⟨rfl, fun _ => rfl⟩⟩
    starts := fun _ => by obtain rfl | rfl := hnames <;> exact ⟨rfl, rfl, rfl, rfl⟩
    balanced := balanced_iff.mpr (by obtain rfl | rfl := hnames <;> rfl) }

theorem scoredTrait_named {interface : String} (h : IsName interface) :
    ScoredTrait (.named interface) [.text [.word interface]] [.ident interface] where
  layout := rfl
  known := rfl
  words := List.forall_mem_singleton.mpr h.spelled
  closed := rfl
  outcomes _ := rfl
  path := {
    reads := fun _ _ => ⟨.named interface, rfl, fun _ =>
      yields_named h.word ⟨⟨rfl, rfl⟩, rfl, rfl, rfl⟩⟩
    starts := startsType_name h.word
    balanced := balanced_iff.mpr rfl }

theorem fileLines_displayImpl {body : Expr} (htype : IsName type)
    (hbody : Lines (Statement.listLayout [.expr body false]) false true Statements) :
    FileLines (displayImpl type body).layout true (Phrase Anything itemAt) := by
  rw [displayImpl_eq]
  exact fileLines_interface (scoredTrait_names (.inl rfl)) htype (List.cons_ne_nil _ _)
    (List.forall_mem_singleton.mpr (lines_fmt hbody))

theorem fileLines_conformanceImpl {conformance : Conformance} (htype : IsName type)
    (hinterface : ∀ library interface, conformance = .custom library interface → IsName interface) :
    ∀ item ∈ conformanceImpl conformance type, FileLines item.layout true (Phrase Anything itemAt) := by
  cases conformance with
  | none => exact List.forall_mem_nil _
  | display =>
    exact List.forall_mem_singleton.mpr (fileLines_displayImpl htype lines_writeDescription)
  | custom library interface =>
    exact List.forall_mem_singleton.mpr (fileLines_interface
      (scoredTrait_named (hinterface library interface rfl)) htype (List.cons_ne_nil _ _)
      (List.forall_mem_singleton.mpr lines_conformance))

theorem fileLines_displayItems (hnamed : Named policy model unknown) :
    ∀ item ∈ displayItems policy model unknown,
      FileLines item.layout true (Phrase Anything itemAt) := by
  unfold displayItems
  split
  next =>
    have hne : displayArms policy model unknown ≠ [] := by simp [displayArms]
    have hbody : Lines (Statement.listLayout
        [.expr (.select (.names ["self"]) [] (displayArms policy model unknown)) false]) false true
          Statements :=
      lines_alone ((lines_choice (.inl rfl) hne (scoredArm_displayArms hnamed)).imp
        fun _ h => h.statements.toStatements)
    refine List.forall_mem_cons.mpr ⟨fileLines_displayImpl hnamed.error hbody,
      List.forall_mem_singleton.mpr (fileLines_marker (scoredTrait_names (.inr rfl)) hnamed.error)⟩
  next => exact List.forall_mem_nil _

end Formatted

end WireErrors
