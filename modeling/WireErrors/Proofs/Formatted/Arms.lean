import WireErrors.Proofs.Source.Boxes
import WireErrors.Proofs.Source.Grammar.Phrases
import WireErrors.Proofs.Decoder.Reading
import WireErrors.Proofs.ErrorModule.Tables

/-!
# Formatted arms

The arms of the tables and of the decode routine as they are formatted: each line is read as an arm,
whether its value stays on the line of the pattern or moves to one of its own.
-/

namespace WireErrors

open Source Layout
open Source.Reader hiding word

namespace Formatted

open ErrorTypes Decoder ErrorModule

/-! ## Arms -/

/-- The layout of the pattern of an arm up to its arrow is read as such. -/
def ScoredPattern (pattern : Pattern) : Prop :=
  Scored (pattern.layout ++ word " => " ++ noBreak) .unknown fun tokens =>
    ∃ front, ArmPattern front ∧ tokens = front ++ [Token.mark '=' true, .mark '>' false]

/-- An expression whose layout as the value of an arm is read as a value. -/
structure ScoredValue (body : Expr) : Prop where
  plain : Expr.blockArm body = none
  braces : body.canStartStatement = true
  no_semicolon : body.addsSemicolon = false
  stands : body.standsAlone = false
  scored : Scored ((Surroundings.ofArm.setting false body).layout fun inside =>
    body.layout .lineStart inside) ⟨true, none, true⟩ PlainValue

theorem layout_arm (pattern : Pattern) {body : Expr} (h : ScoredValue body) :
    (Arm.plain pattern body).layout = .opening false 0 ::
      (pattern.layout ++ word " => " ++ noBreak ++
        movedBox ((Surroundings.ofArm.setting false body).layout fun inside =>
          body.layout .lineStart inside)) ++ [Piece.closing] := by
  have hmoved : (Expr.blockArm body).getD
      (movedArm body fun inside => body.layout .lineStart inside) =
        noBreak ++ movedBox ((Surroundings.ofArm.setting false body).layout fun inside =>
          body.layout .lineStart inside) := by
    rw [h.plain, Option.getD_none, movedArm, bracedIfMoved, h.braces, h.no_semicolon, h.stands, group,
      box_eq]
    · simp [movedBox, movedStart, movedEnd, zero]
    · exact fun g hg => by simpa using congrArg List.length hg
  rw [Arm.plain, Arm.layout, hmoved, fill, box_eq]
  · simp [outerLayout, Expr.optionLayout]
  · refine ne_gap_of_mem (show Piece.text " => " ∈ _ from ?_)
    simp [word]

/-- **An arm is read as one**, with its value in braces or not. -/
theorem lines_arm {pattern : Pattern} {body : Expr} (hpattern : ScoredPattern pattern)
    (hvalue : ScoredValue body) (split : Bool) :
    Lines ((Arm.plain pattern body).layout ++ hardBreak) split true (Phrase FollowsArm armAt) := by
  obtain ⟨notes, all, hlayout, hall, hlegal, hclosed, htight, hplain⟩ := hvalue.scored
  rw [layout_arm pattern hvalue, hlayout]
  have hmoved := readsAs_movedBox hall hlegal hclosed htight false
  have hbox := ((hpattern.readsAs false).append hmoved).box false 0 split
  refine hbox.line.imp ?_
  rintro _ ⟨_, behind, ⟨front, hfront, rfl⟩, ⟨o, ho, hbehind⟩, rfl⟩
  have harm := phrase_arm hfront (hplain o ho) hbehind
  rwa [List.append_assoc]

/-! ## Patterns -/

variable {variant holder : String}

/-- The tokens of a path into the type itself. -/
def selfNotes (variant : String) : List Note :=
  [.text [.fixed "Self"], .text [.fixed "::"], .text [.word variant]]

/-- Notes in parentheses, which move to a line of their own with a comma behind them if they do not fit. -/
def argumentNotes (notes : List Note) : List Note :=
  [Note.text [.fixed "("], .opening true indent, .gap zero] ++ notes ++
    [Note.gap { zero with shift := -indent, lineEnd := "," }, .closing, .text [.fixed ")"]]

def arrowNotes : List Note := [.text [.fixed " => "], .gap { zero with never := true }]

def arrow : List Token := [.mark '=' true, .mark '>' false]

/-- Tokens in parentheses, perhaps with a comma behind them. -/
def argument (trailing : Bool) (tokens : List Token) : List Token :=
  Token.group .paren (withCommas trailing [tokens])

theorem scoredPattern_unit (h : IsName variant) : ScoredPattern (unitPattern variant) := by
  have hpattern : ArmPattern (pair "Self" variant) := {
    reads := fun depth rounds => ⟨unitPattern variant, fun rest => yields_alternatives rfl
      (yields_selfPattern (yields_pathPattern (.inl rfl) (.inr h.word)
        ⟨⟨rfl, rfl⟩, rfl, rfl, rfl, rfl⟩))⟩
    starts := fun _ => ⟨rfl, rfl, rfl, rfl, rfl⟩
    balanced := balanced_iff.mpr rfl }
  have hscore : outcomes .unknown (selfNotes variant ++ arrowNotes) =
      some [(.word, pair "Self" variant ++ arrow)] := rfl
  refine .of _ rfl hscore rfl (List.forall_mem_singleton.mpr h.spelled) rfl rfl ?_
  exact List.forall_mem_singleton.mpr ⟨_, hpattern, rfl⟩

theorem scoredPattern_carrier (h : IsName variant) (hholder : ErrorModule.Held holder) :
    ScoredPattern (carrier variant holder) := by
  have hpattern (trailing : Bool) :
      ArmPattern (pair "Self" variant ++ argument trailing [.ident holder]) := {
    reads := fun depth rounds => ⟨carrier variant holder, fun rest => yields_alternatives rfl
      (yields_selfPattern (yields_tuplePattern (.inl rfl) (.inr h.word) (by
        obtain rfl | rfl := hholder <;> cases trailing <;> rfl)))⟩
    starts := fun _ => ⟨rfl, rfl, rfl, rfl, rfl⟩
    balanced := balanced_iff.mpr (by cases trailing <;> rfl) }
  have hscore : outcomes .unknown (selfNotes variant ++ argumentNotes [.text [.word holder]] ++
      arrowNotes) = some ([false, true].map fun trailing =>
        (.word, pair "Self" variant ++ argument trailing [.ident holder] ++ arrow)) := rfl
  refine .of _ rfl hscore rfl ?_ rfl rfl ?_
  · have hspelled : isSpelled holder = true := by obtain rfl | rfl := hholder <;> decide
    exact List.forall_mem_cons.mpr ⟨h.spelled, List.forall_mem_singleton.mpr hspelled⟩
  · exact List.forall_mem_map.mpr fun trailing _ => ⟨_, hpattern trailing, rfl⟩

theorem scoredPattern_quote (text : String) : ScoredPattern (.literal (Text.quote text)) := by
  have hpattern : ArmPattern [.literal (Text.quote text)] := {
    reads := fun depth rounds => ⟨.literal (Text.quote text), fun rest => rfl⟩
    starts := fun _ => ⟨rfl, rfl, rfl, rfl, rfl⟩
    balanced := balanced_iff.mpr rfl }
  have hscore : outcomes .unknown ([Note.text [.quote text]] ++ arrowNotes) =
      some [(.word, .literal (Text.quote text) :: arrow)] := rfl
  refine .of _ rfl hscore rfl nofun rfl rfl ?_
  exact List.forall_mem_singleton.mpr ⟨_, hpattern, rfl⟩

theorem scoredPattern_rest {pattern : Pattern} (h : pattern = .wildcard ∨ pattern = .binding "other") :
    ScoredPattern pattern := by
  have hpattern : ArmPattern pattern.tokens := {
    reads := fun depth rounds => ⟨pattern, by obtain rfl | rfl := h <;> exact fun _ => rfl⟩
    starts := by obtain rfl | rfl := h <;> exact fun _ => ⟨rfl, rfl, rfl, rfl, rfl⟩
    balanced := balanced_iff.mpr (by obtain rfl | rfl := h <;> rfl) }
  obtain rfl | rfl := h
  · have hscore : outcomes .unknown ([Note.text [.fixed "_"]] ++ arrowNotes) =
        some [(.word, .ident "_" :: arrow)] := rfl
    refine .of _ rfl hscore rfl nofun rfl rfl ?_
    exact List.forall_mem_singleton.mpr ⟨_, hpattern, rfl⟩
  · have hscore : outcomes .unknown ([Note.text [.fixed "other"]] ++ arrowNotes) =
        some [(.word, .ident "other" :: arrow)] := rfl
    refine .of _ rfl hscore rfl nofun rfl rfl ?_
    exact List.forall_mem_singleton.mpr ⟨_, hpattern, rfl⟩

/-! ## Values -/

theorem plainValue_unit (h : isKeyword variant = false) : PlainValue (pair "Self" variant) where
  reads depth rounds := ⟨unitValue variant, rfl, rfl, fun rest hrest =>
    yields_unitValue h hrest⟩
  kind rounds rest hrest := by
    cases hrest <;> exact yields_invocationKind h rfl rfl
  starts _ := ⟨rfl, rfl, rfl, rfl, rfl, rfl⟩
  balanced := balanced_iff.mpr rfl

theorem scoredValue_unit (h : IsName variant) : ScoredValue (unitValue variant) := by
  have hscore : outcomes ⟨true, none, true⟩ (selfNotes variant) =
      some [(.word, pair "Self" variant)] := rfl
  refine ⟨rfl, rfl, rfl, rfl, .of _ rfl hscore rfl ?_ rfl rfl ?_⟩
  · exact List.forall_mem_singleton.mpr h.spelled
  · exact List.forall_mem_singleton.mpr (plainValue_unit h.word)

/-- The tokens of a call without arguments. -/
def callTokens (receiver name : String) : List Token :=
  .ident receiver :: .mark '.' false :: .ident name :: Token.group .paren []

def callNotes (receiver name : String) : List Note :=
  [.opening true indent, .opening true (-indent), .text [.word receiver], .closing,
    .gap { zero with afterPoint := true }, .text [.fixed "."], .text [.word name], .opening true 0,
    .text [.fixed "("], .text [.fixed ")"], .closing, .closing]

theorem plainValue_carrying (h : isKeyword variant = false) (hholder : Holder holder)
    (trailing : Bool) :
    PlainValue (pair "Self" variant ++ argument trailing (callTokens holder "to_string")) where
  reads depth rounds := by
    refine ⟨carrying variant holder, rfl, rfl, fun rest hrest => ?_⟩
    let inside := withCommas trailing [callTokens holder "to_string"] ++ .closing .paren :: rest
    have hcopy : Yields (commaList .paren (wholeExpr (Reader.readers (depth + 7)))) (rounds + 12)
        inside [.method (.names [holder]) "to_string" []] rest := by
      obtain rfl | rfl := hholder <;> cases trailing <;> rfl
    have hatom : Yields (atom (Reader.readers (depth + 7)) true) (rounds + 12)
        (pair "Self" variant ++ .opening .paren :: inside) (unitValue variant)
        (.opening .paren :: inside) :=
      yields_atom (.inl rfl) (.inr h) ⟨⟨rfl, rfl⟩, rfl, rfl⟩
    rw [List.append_assoc, argument, group_append]
    exact yields_statementExpr rfl rfl
      (yields_operand rfl rfl rfl hatom (yields_call _ hcopy hrest)) rfl hrest
  kind rounds rest _ := by
    rw [List.append_assoc, argument, group_append]
    exact yields_invocationKind h rfl rfl
  starts _ := ⟨rfl, rfl, rfl, rfl, rfl, rfl⟩
  balanced := balanced_iff.mpr (by cases trailing <;> rfl)

theorem scored_carrying (h : IsName variant) (hholder : Holder holder) (stop : Edge) :
    Scored (layoutOf (selfNotes variant ++ argumentNotes (callNotes holder "to_string"))) stop
      fun tokens => PlainValue tokens ∧ ∀ rest, EndsBlock (tokens ++ rest) := by
  have hspelled : isSpelled holder = true := by obtain rfl | rfl := hholder <;> decide
  have hscore : outcomes stop (selfNotes variant ++ argumentNotes (callNotes holder "to_string")) =
      some ([false, true].map fun trailing => (.word, pair "Self" variant ++
        argument trailing (callTokens holder "to_string"))) := rfl
  refine .of _ rfl hscore rfl ?_ rfl rfl ?_
  · refine List.forall_mem_cons.mpr ⟨h.spelled, List.forall_mem_cons.mpr ⟨hspelled, ?_⟩⟩
    exact List.forall_mem_singleton.mpr (by decide)
  · exact List.forall_mem_map.mpr fun trailing _ =>
      ⟨plainValue_carrying h.word hholder trailing, fun rest => ⟨rfl, rfl, rfl⟩⟩

theorem layout_carrying (variant holder : String) {inside : Surroundings}
    (hinside : inside = .alone ∨ inside = .ofStatement) :
    (carrying variant holder).layout .lineStart inside =
      layoutOf (selfNotes variant ++ argumentNotes (callNotes holder "to_string")) := by
  have harguments : Expr.listLayout [.method (.names [holder]) "to_string" []] =
      [layoutOf (callNotes holder "to_string")] := rfl
  rw [carrying, Expr.layout, harguments]
  obtain rfl | rfl := hinside <;> rfl

theorem scoredValue_carrying (h : IsName variant) (hholder : Holder holder) :
    ScoredValue (carrying variant holder) := by
  refine ⟨rfl, rfl, rfl, rfl, ?_⟩
  show Scored ((carrying variant holder).layout .lineStart .alone) _ _
  rw [layout_carrying variant holder (.inl rfl)]
  exact (scored_carrying h hholder _).imp fun _ hvalue => hvalue.1

/-- The tokens of a constant of the option set, as the argument of `Some`. -/
def someTokens (trailing : Bool) (type constant : String) : List Token :=
  .ident "Some" :: argument trailing (pair type constant)

theorem plainValue_some {type constant : String} (htype : isKeyword type = false)
    (hconstant : isKeyword constant = false) (trailing : Bool) :
    PlainValue (someTokens trailing type constant) where
  reads depth rounds := by
    refine ⟨.call (.names ["Some"]) [.names [type, constant]], rfl, rfl, fun rest hrest => ?_⟩
    let inside := withCommas trailing [pair type constant] ++ .closing .paren :: rest
    have hlist : Yields (commaList .paren (wholeExpr (Reader.readers (depth + 7)))) (rounds + 12)
        inside [.names [type, constant]] rest := by
      refine .bind (yields_limit _ _) (yields_commaParts ?_ (Nat.succ_lt_succ (Nat.succ_pos _)) rest)
      exact .cons ⟨fun rest hrest => yields_wholePath (.inr htype) hconstant hrest.stops,
        fun _ => rfl⟩ .nil
    have hatom : Yields (atom (Reader.readers (depth + 7)) true) (rounds + 12)
        (.ident "Some" :: .opening .paren :: inside) (.names ["Some"]) (.opening .paren :: inside) :=
      rfl
    rw [someTokens, List.cons_append, argument, group_append]
    exact yields_statementExpr rfl rfl
      (yields_operand rfl rfl rfl hatom (yields_call _ hlist hrest)) rfl hrest
  kind _ _ _ := rfl
  starts _ := ⟨rfl, rfl, rfl, rfl, rfl, rfl⟩
  balanced := balanced_iff.mpr (by cases trailing <;> rfl)

theorem scoredValue_some {type constant : String} (htype : IsName type)
    (hconstant : IsName constant) :
    ScoredValue (.call (.names ["Some"]) [.names [type, constant]]) := by
  have hscore : outcomes ⟨true, none, true⟩ (.text [.fixed "Some"] :: argumentNotes
      [.text [.word type], .text [.fixed "::"], .text [.word constant]]) =
        some ([false, true].map fun trailing => (.word, someTokens trailing type constant)) := rfl
  refine ⟨rfl, rfl, rfl, rfl, .of _ rfl hscore rfl ?_ rfl rfl ?_⟩
  · exact List.forall_mem_cons.mpr ⟨htype.spelled, List.forall_mem_singleton.mpr hconstant.spelled⟩
  · exact List.forall_mem_map.mpr fun trailing _ =>
      plainValue_some htype.word hconstant.word trailing

theorem scoredValue_quote (text : String) : ScoredValue (.literal (Text.quote text)) := by
  have hplain : PlainValue [.literal (Text.quote text)] := {
    reads := fun depth rounds => ⟨.literal (Text.quote text), rfl, rfl, fun rest hrest => by
      cases hrest <;> rfl⟩
    kind := fun _ _ _ => rfl
    starts := fun _ => ⟨rfl, rfl, rfl, rfl, rfl, rfl⟩
    balanced := balanced_iff.mpr rfl }
  have hscore : outcomes ⟨true, none, true⟩ [.text [.quote text]] =
      some [(.word, [.literal (Text.quote text)])] := rfl
  exact ⟨rfl, rfl, rfl, rfl, .of _ rfl hscore rfl nofun rfl rfl
    (List.forall_mem_singleton.mpr hplain)⟩

theorem scoredValue_none : ScoredValue (.names ["None"]) := by
  have hplain : PlainValue [.ident "None"] := {
    reads := fun depth rounds => ⟨.names ["None"], rfl, rfl, fun rest hrest => by cases hrest <;> rfl⟩
    kind := fun _ rest hrest => by cases hrest <;> rfl
    starts := fun _ => ⟨rfl, rfl, rfl, rfl, rfl, rfl⟩
    balanced := balanced_iff.mpr rfl }
  have hscore : outcomes ⟨true, none, true⟩ [.text [.fixed "None"]] = some [(.word, [.ident "None"])] :=
    rfl
  exact ⟨rfl, rfl, rfl, rfl, .of _ rfl hscore rfl nofun rfl rfl
    (List.forall_mem_singleton.mpr hplain)⟩

theorem scoredValue_asStr : ScoredValue (.method (.names ["error_type"]) "as_str" []) := by
  have hplain : PlainValue (callTokens "error_type" "as_str") := {
    reads := fun depth rounds => ⟨.method (.names ["error_type"]) "as_str" [], rfl, rfl,
      fun rest hrest => by cases hrest <;> rfl⟩
    kind := fun _ _ _ => rfl
    starts := fun _ => ⟨rfl, rfl, rfl, rfl, rfl, rfl⟩
    balanced := balanced_iff.mpr rfl }
  have hscore : outcomes ⟨true, none, true⟩ (callNotes "error_type" "as_str") =
      some [(.word, callTokens "error_type" "as_str")] := rfl
  refine ⟨rfl, rfl, rfl, rfl, .of _ rfl hscore rfl ?_ rfl rfl
    (List.forall_mem_singleton.mpr hplain)⟩
  exact List.forall_mem_cons.mpr ⟨by decide, List.forall_mem_singleton.mpr (by decide)⟩

/-- The tokens of what is written to the formatter. -/
def writeTokens (tokens : List Token) (trailing : Bool) : List Token :=
  .ident "f" :: .mark '.' false :: .ident "write_str" :: argument trailing tokens

def writeNotes (notes : List Note) : List Note :=
  [Note.opening true indent, .opening true (-indent), .text [.fixed "f"], .closing, .text [.fixed "."],
    .text [.fixed "write_str"], .opening true (-indent)] ++ argumentNotes notes ++ [Note.closing, .closing]

theorem scoredValue_writeText (text : String) :
    ScoredValue (writeText (.literal (Text.quote text))) := by
  have hplain (trailing : Bool) : PlainValue (writeTokens [.literal (Text.quote text)] trailing) := {
    reads := fun depth rounds => ⟨writeText (.literal (Text.quote text)), rfl, rfl,
      fun rest hrest => by cases hrest <;> cases trailing <;> rfl⟩
    kind := fun _ _ _ => rfl
    starts := fun _ => ⟨rfl, rfl, rfl, rfl, rfl, rfl⟩
    balanced := balanced_iff.mpr (by cases trailing <;> rfl) }
  have hscore : outcomes ⟨true, none, true⟩ (writeNotes [.text [.quote text]]) =
      some ([false, true].map fun trailing =>
        (.word, writeTokens [.literal (Text.quote text)] trailing)) := rfl
  refine ⟨rfl, rfl, rfl, rfl, .of _ rfl hscore rfl nofun rfl rfl ?_⟩
  exact List.forall_mem_map.mpr fun trailing _ => hplain trailing

theorem macroTrees_token (state : MacroState) (joined : Bool) (t : Token) (rest : List TokenTree) :
    macroTrees false state joined (.token t :: rest) =
      macroTrees.macroGap joined (state.next false (.token t)).1 (isDot (.token t)) ++ tokenWord t ++
        macroTrees false (state.next false (.token t)).2 (isJoined (.token t)) rest := by
  rw [macroTrees]

theorem tokenWord_literal (spelling : String) : tokenWord (.literal spelling) = word spelling := by
  rw [tokenWord, Token.chars, String.ofList_toList]

theorem macroTrees_nil (state : MacroState) (joined : Bool) :
    macroTrees false state joined [] = [] := by
  rw [macroTrees]

/-- A literal in front of a mark: what follows it does not depend on how the literal ends. -/
theorem macroTrees_literal (spelling : String) {c : Char} {apart : Bool} {next : MacroState}
    (h : ∀ state : MacroState, state = .other ∨ state = .ident →
      state.next false (.token (.mark c false)) = (apart, next)) (rest : List TokenTree) :
    macroTrees false .other false (.token (.literal spelling) :: .token (.mark c false) :: rest) =
      space ++ word spelling ++ (macroTrees.macroGap false apart (isDot (.token (.mark c false))) ++
        tokenWord (.mark c false) ++
          macroTrees false next (isJoined (.token (.mark c false))) rest) := by
  have hnext : MacroState.next false .other (.token (.literal spelling)) =
      (true, if spelling.endsWith "." then .other else .ident) := rfl
  have hmark := h (if spelling.endsWith "." then .other else .ident) (by
    split
    · exact .inl rfl
    · exact .inr rfl)
  rw [macroTrees_token, macroTrees_token, hnext, tokenWord_literal, hmark]
  rfl

/-- The token trees of the arguments of `write!`. -/
def labelTrees (spelling holder : String) : List TokenTree :=
  [.token (.ident "f"), .token (.mark ',' false), .token (.literal spelling),
    .token (.mark ',' false), .token (.ident holder)]

theorem macroTrees_label (spelling : String) (hholder : ErrorModule.Held holder) :
    macroTrees false .start true (labelTrees spelling holder) =
      word "f" ++ word "," ++ space ++ word spelling ++ word "," ++ space ++ word holder := by
  have hcomma : ∀ state : MacroState, state = .other ∨ state = .ident →
      state.next false (.token (.mark ',' false)) = (false, .other) := by
    rintro _ (rfl | rfl) <;> rfl
  rw [labelTrees, macroTrees_token, macroTrees_token]
  show _ ++ _ ++ (_ ++ _ ++ macroTrees false .other false _) = _
  rw [macroTrees_literal spelling hcomma, macroTrees_token, macroTrees_nil]
  obtain rfl | rfl := hholder <;> rfl

/-- The notes of a use of `write!` with a text and a variable. -/
def labelNotes (text holder : String) : List Note :=
  [.text [.fixed "write!"], .text [.fixed "("], .opening true indent, .gap zero, .opening false 0,
    .text [.fixed "f"], .text [.fixed ","], .gap { zero with blank := 1 }, .text [.quote text],
    .text [.fixed ","], .gap { zero with blank := 1 }, .text [.word holder], .closing,
    .gap { zero with shift := -indent }, .closing, .text [.fixed ")"]]

theorem layout_writeLabelled (hholder : ErrorModule.Held holder) :
    (writeLabelled variant holder).layout .lineStart .alone =
      layoutOf (labelNotes (variant ++ ": \x7b\x7d") holder) := by
  have htrees := macroTrees_label (Text.quote (variant ++ ": \x7b\x7d")) hholder
  have hbody : TokenTree.ofTokens (.ident "f" :: Token.sign "," ++ Token.text (variant ++
      ": \x7b\x7d") :: Token.sign "," ++ [Token.ident holder]) =
        labelTrees (Text.quote (variant ++ ": \x7b\x7d")) holder := rfl
  show invocationLayout ⟨false, ["write"]⟩ none .paren _ false = _
  rw [invocationLayout, hbody, macroBox, htrees]
  rfl

theorem scoredValue_writeLabelled (hholder : ErrorModule.Held holder) :
    ScoredValue (writeLabelled variant holder) := by
  have hplain : PlainValue (writeLabelled variant holder).tokens := {
    reads := fun depth rounds => ⟨writeLabelled variant holder, rfl, rfl, fun rest hrest => by
      obtain rfl | rfl := hholder <;> cases hrest <;> rfl⟩
    kind := fun _ _ _ => rfl
    starts := fun _ => ⟨rfl, rfl, rfl, rfl, rfl, rfl⟩
    balanced := balanced_iff.mpr rfl }
  have hscore : outcomes ⟨true, none, true⟩ (labelNotes (variant ++ ": \x7b\x7d") holder) =
      some [(.word, (writeLabelled variant holder).tokens)] := rfl
  have hlayout : (writeLabelled variant holder).layout .lineStart .alone = _ :=
    layout_writeLabelled hholder
  refine ⟨rfl, rfl, rfl, rfl, .of _ hlayout hscore rfl ?_ rfl rfl (List.forall_mem_singleton.mpr hplain)⟩
  exact List.forall_mem_singleton.mpr (by obtain rfl | rfl := hholder <;> decide)

end Formatted

end WireErrors
