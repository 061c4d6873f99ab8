import WireErrors.Proofs.Formatted.Arms

/-!
# Formatted statements

The statements of the emitted functions as they are formatted: each line of them is read as what stands
on it, with a comma behind an argument or not.
-/

namespace WireErrors

open Source Layout
open Source.Reader hiding word body

namespace Formatted

open ErrorTypes Decoder ErrorModule

variable {variant holder subject : String} {split : Bool}

/-! ## Choices -/

/-- An arm that is read as one. -/
inductive ScoredArm : Arm → Prop
  | plain {pattern : Pattern} {body : Expr} (hpattern : ScoredPattern pattern)
      (hvalue : ScoredValue body) : ScoredArm (.plain pattern body)

theorem listLayout_eq_flatMap (arms : List Arm) :
    Arm.listLayout arms = arms.flatMap fun a => a.layout ++ hardBreak := by
  induction arms with
  | nil => rfl
  | cons arm arms ih => rw [Arm.listLayout, ih, List.flatMap_cons]

theorem lines_arms {arms : List Arm} (hne : arms ≠ []) (harms : ∀ a ∈ arms, ScoredArm a)
    (split : Bool) :
    Lines (Arm.listLayout arms) split true fun tokens =>
      ∃ parts : List (List Token), (∀ part ∈ parts, Phrase FollowsArm armAt part) ∧ tokens = parts.flatten := by
  have hline : ∀ a ∈ arms, Lines (a.layout ++ hardBreak) split true (Phrase FollowsArm armAt) := by
    intro a ha
    obtain ⟨hpattern, hvalue⟩ := harms a ha
    exact lines_arm hpattern hvalue split
  have hlines := lines_flatMap hne hline
  rw [listLayout_eq_flatMap]
  rwa [List.all_eq_true.mpr fun _ _ => rfl] at hlines

/-- A choice up to its arms. -/
def choiceNotes (subject : String) : List Note :=
  [.text [.fixed "match "], .opening true 0, .text [.word subject], .text [.fixed " "], .closing,
    .text [.fixed "\x7b"], .gap { zero with never := true }]

theorem layout_choice (hsubject : subject = "self" ∨ subject = "error_type") {arms : List Arm}
    (hne : Arm.listLayout arms ≠ []) :
    (Statement.expr (.select (.names [subject]) [] arms) false).layout =
      .opening false 0 :: (.opening false 0 :: (layoutOf (choiceNotes subject) ++
        (.opening true indent :: (hardBreakIfMore ++ shiftLast (-indent) (Arm.listLayout arms)) ++
          [Piece.closing]) ++ word "\x7d") ++ [Piece.closing]) ++ [Piece.closing] ++ hardBreak := by
  have hinside : group indent (shiftLast (-indent) (hardBreakIfMore ++ Arm.listLayout arms)) =
      .opening true indent :: (hardBreakIfMore ++ shiftLast (-indent) (Arm.listLayout arms)) ++
        [Piece.closing] := by
    rw [shiftLast_append _ _ hne, group, box_eq]
    intro g hg
    have hshifted : shiftLast (-indent) (Arm.listLayout arms) ≠ [] := shiftLast_ne_nil hne
    simp_all [hardBreakIfMore]
  have hlayout : (Statement.expr (.select (.names [subject]) [] arms) false).layout =
      .opening false 0 :: (.opening false 0 :: (layoutOf (choiceNotes subject) ++
        (group indent (shiftLast (-indent) (hardBreakIfMore ++ Arm.listLayout arms)) ++
          word "\x7d")) ++ [Piece.closing] ++ []) ++ [Piece.closing] ++ hardBreak := by
    obtain rfl | rfl := hsubject <;> rfl
  rw [hlayout, hinside]
  simp only [List.append_assoc, List.append_nil]

theorem lines_choice (hsubject : subject = "self" ∨ subject = "error_type") {arms : List Arm}
    (hne : arms ≠ []) (harms : ∀ a ∈ arms, ScoredArm a) :
    Lines (Statement.expr (.select (.names [subject]) [] arms) false).layout split true
      BlockStatement := by
  have hlines := lines_arms hne harms false
  have hopening : ReadsAs hardBreakIfMore .unknown false true (· = []) := by
    have hscore : outcomes .unknown [.gap { zero with blank := tooWide, optional := true }] =
        some [(Edge.unknown.loose, [])] := rfl
    refine (readsAs_score hscore (by decide) rfl false).imp ?_
    rintro tokens ⟨o, ho, rfl⟩
    rw [List.mem_singleton.mp ho]
  have hheading : ReadsAs (layoutOf (choiceNotes subject)) .unknown false true
      (· = [.ident "match", .ident subject, .opening .brace]) := by
    have hscore : outcomes .unknown (choiceNotes subject) =
        some [(.word, [.ident "match", .ident subject, .opening .brace])] := rfl
    have hscored : Scored (layoutOf (choiceNotes subject)) .unknown
        (· = [.ident "match", .ident subject, .opening .brace]) := by
      refine .of _ rfl hscore rfl ?_ rfl rfl (List.forall_mem_singleton.mpr rfl)
      exact List.forall_mem_singleton.mpr (by obtain rfl | rfl := hsubject <;> decide)
    exact hscored.readsAs false
  have hinside := (hopening.append (hlines.reads (-indent))).box true indent false
  have hwhole := (hheading.append hinside).append (readsAs_closing .apart false)
  have hline := ((hwhole.box false 0 false).box false 0 split).line
  rw [layout_choice hsubject hlines.nonempty]
  refine hline.imp ?_
  rintro _ ⟨_, _, ⟨_, _, rfl, ⟨_, _, rfl, ⟨parts, hparts, rfl⟩, rfl⟩, rfl⟩, rfl, rfl⟩
  have hchoice := blockStatement_choice hsubject hparts
  simpa [Token.group] using hchoice

/-! ## Lookups -/

theorem lines_statement (value : Expr) {body : Layout} {P : List Token → Prop}
    (hbody : ReadsAs body .apart split true P) (hsemicolon : value.addsSemicolon = false)
    (hsetting : Surroundings.ofStatement.setting false value = ⟨false, .ofStatement⟩)
    (hlayout : fill 0 (value.layout .lineStart .ofStatement) = body) :
    Lines (Statement.expr value false).layout split true P := by
  have hstatement : (Statement.expr value false).layout = body ++ hardBreak := by
    rw [Statement.layout, statementLayout, hsetting, hsemicolon, ← hlayout]
    simp [Surroundings.Setting.layout]
  rw [hstatement]
  exact hbody.line

theorem lines_carrying (h : IsName variant) (hholder : Holder holder) :
    Lines (Statement.expr (carrying variant holder) false).layout split true FurtherStatements := by
  have hvalue := ((scored_carrying h hholder .apart).readsAs false).box false 0 split
  have hlayout : fill 0 ((carrying variant holder).layout .lineStart .ofStatement) =
      .opening false 0 ::
        layoutOf (selfNotes variant ++ argumentNotes (callNotes holder "to_string")) ++ [Piece.closing] := by
    rw [layout_carrying variant holder (.inr rfl)]
    rfl
  refine (lines_statement (carrying variant holder) hvalue rfl rfl hlayout).imp fun tokens h => ?_
  exact { h.1.statements with ends := h.2, more := fun rest => (h.1.starts rest).more }

/-- A statement that depends on a condition. -/
def conditionNotes (condition value : List Note) : List Note :=
  .text [.fixed "if "] :: condition ++ [Note.text [.fixed "\x7b"], .gap { zero with blank := tooWide }] ++
    value ++ [Note.gap { zero with blank := tooWide, shift := -indent }]

/-- The box of a statement that depends on a condition. -/
def conditionBox (notes : List Note) : List Note :=
  [Note.opening false 0, .opening true indent] ++ notes ++
    [Note.closing, .text [.fixed "\x7d"], .closing]

/-- A statement that gives a value back if a condition holds. -/
def givenIf (condition value : Expr) : Expr :=
  .conditional condition [.expr (.giveBack (some value)) true] .none

theorem layout_givenIf {condition value : Expr} {front back : List Note}
    (hsetting : Surroundings.ofSubject.setting false condition = ⟨false, .ofSubject⟩)
    (hcondition : group (-indent) (group 0 (condition.layout .inner .ofSubject ++
      if condition.wrapsBrace then space else word " ")) = layoutOf front)
    (hvalue : (Statement.expr (.giveBack (some value)) true).layout = layoutOf back ++ hardBreak) :
    fill 0 ((givenIf condition value).layout .lineStart .ofStatement) =
      layoutOf (conditionBox (conditionNotes front back)) := by
  have hlayout : (givenIf condition value).layout .lineStart .ofStatement =
      group indent (word "if " ++ group (-indent) (subjectLayout condition fun inside =>
        condition.layout .inner inside) ++ word "\x7b" ++ shiftLast (-indent) (hardBreak ++
          ((Statement.expr (.giveBack (some value)) true).layout ++ []))) ++ word "\x7d" := rfl
  have hsubject : (subjectLayout condition fun inside => condition.layout .inner inside) =
      group 0 (condition.layout .inner .ofSubject ++
        if condition.wrapsBrace then space else word " ") := by
    rw [subjectLayout, hsetting]
    rfl
  have hbreak : hardBreak ≠ [] := List.cons_ne_nil _ _
  have hinside : word "if " ++ layoutOf front ++ word "\x7b" ++ (hardBreak ++ layoutOf back ++
      shiftLast (-indent) hardBreak) = layoutOf (conditionNotes front back) := by
    simp only [conditionNotes, layoutOf, List.map_append, List.map_cons, List.append_assoc,
      List.cons_append]
    rfl
  rw [hlayout, hsubject, hcondition, hvalue, List.append_nil, ← List.append_assoc, shiftLast_append _ _ hbreak,
    hinside, group, box_eq, fill, box_eq]
  · simp only [conditionBox, layoutOf, List.map_append, List.map_cons, List.append_assoc,
      List.cons_append]
    rfl
  · simp
  · exact ne_gap_of_mem List.mem_cons_self

/-- A comparison of the wire identifier. -/
def comparisonNotes (name : String) : List Note :=
  [.opening true (-indent), .opening true 0, .opening false indent, .opening false (-indent),
    .text [.fixed "error_type"], .closing, .gap { zero with blank := 1 }, .text [.fixed "=="],
    .text [.fixed " "], .text [.quote name], .closing, .gap { zero with blank := 1 }, .closing, .closing]

/-- A value that is given back. -/
def givenNotes (value : List Note) : List Note :=
  [Note.opening false 0, .text [.fixed "return "]] ++ value ++ [Note.text [.fixed ";"], .closing]

theorem lines_test {c : Case} (h : IsName c.variant) : Lines (test c).layout split true BlockStatement := by
  have hstatement : BlockStatement (test c).tokens := {
    reads := fun depth rounds _ => ⟨_, rfl, fun rest hrest => yields_test h.word hrest⟩
    ends := fun _ => ⟨rfl, rfl, rfl⟩
    more := fun _ => rfl
    balanced := balanced_iff.mpr rfl
    plain := fun _ => rfl }
  have hscore : outcomes .apart (conditionBox (conditionNotes (comparisonNotes c.name)
      (givenNotes (selfNotes c.variant)))) = some [(.word, (test c).tokens)] := rfl
  have hscored : Scored (layoutOf (conditionBox (conditionNotes (comparisonNotes c.name)
      (givenNotes (selfNotes c.variant))))) .apart BlockStatement := by
    refine .of _ rfl hscore rfl ?_ rfl rfl (List.forall_mem_singleton.mpr hstatement)
    exact List.forall_mem_singleton.mpr h.spelled
  exact lines_statement (givenIf (.binary .equal (.names ["error_type"]) (.literal (Text.quote c.name)))
    (unitValue c.variant)) (hscored.readsAs split) rfl rfl (layout_givenIf rfl rfl rfl)

/-- The tokens of the check for validation errors, with commas behind its arguments or not. -/
def checkTokens (first second : Bool) : List Token :=
  .ident "if" :: (pair "Self" "is_validation_error" ++ argument first [.ident "error_type"] ++
    Token.group .brace (.ident "return" :: (pair "Self" "ValidationError" ++
      argument second (callTokens "error_type" "to_string") ++ [Token.mark ';' false])))

set_option maxRecDepth 4000 in
theorem blockStatement_check (first second : Bool) : BlockStatement (checkTokens first second) where
  reads depth rounds _ := by
    refine ⟨.conditional (.call (.names ["Self", "is_validation_error"]) [.names ["error_type"]])
      [.expr (.giveBack (some (carrying Policy.validationVariant "error_type"))) true] .none, rfl,
      fun rest hrest => ?_⟩
    cases first <;> cases second <;> exact yields_conditional _ rfl rfl hrest
  ends _ := ⟨rfl, rfl, rfl⟩
  more _ := rfl
  balanced := balanced_iff.mpr (by cases first <;> cases second <;> rfl)
  plain _ := rfl

/-- The check for validation errors. -/
def checkNotes : List Note :=
  conditionBox (conditionNotes ([Note.opening true (-indent), .opening true 0] ++
    selfNotes "is_validation_error" ++ argumentNotes [.text [.fixed "error_type"]] ++
      [Note.text [.fixed " "], .closing, .closing])
    (givenNotes (selfNotes "ValidationError" ++ argumentNotes (callNotes "error_type" "to_string"))))

theorem lines_check : Lines validationCheck.layout split true BlockStatement := by
  have hscore : outcomes .apart checkNotes =
      some ([false, true].flatMap fun second => [false, true].map fun first =>
        (.word, checkTokens first second)) := rfl
  have hscored : Scored (layoutOf checkNotes) .apart BlockStatement := by
    refine .of _ rfl hscore rfl (by decide) rfl rfl fun o ho => ?_
    obtain ⟨second, -, ho⟩ := List.mem_flatMap.mp ho
    obtain ⟨first, -, rfl⟩ := List.mem_map.mp ho
    exact blockStatement_check first second
  exact lines_statement (givenIf (.call (.names ["Self", "is_validation_error"]) [.names ["error_type"]])
    (carrying Policy.validationVariant "error_type")) (hscored.readsAs split) rfl rfl
      (layout_givenIf rfl rfl rfl)

variable {cases : List Case} {unknown : String}

theorem lines_lookup (strategy : Strategy) (hcases : ∀ c ∈ cases, IsName c.variant)
    (hunknown : IsName unknown) :
    Lines (Statement.listLayout (lookup strategy cases unknown)) split true FurtherStatements := by
  cases strategy with
  | matching =>
    let arms := cases.map (fun c => Arm.plain (.literal (Text.quote c.name)) (unitValue c.variant)) ++
      [.plain (.binding "other") (carrying unknown "other")]
    have harms : ∀ a ∈ arms, ScoredArm a := by
      refine List.forall_mem_append.mpr ⟨List.forall_mem_map.mpr fun c hc => ?_,
        List.forall_mem_singleton.mpr ?_⟩
      · exact .plain (scoredPattern_quote c.name) (scoredValue_unit (hcases c hc))
      · exact .plain (scoredPattern_rest (.inr rfl)) (scoredValue_carrying hunknown (.inr rfl))
    have hchoice : Lines (Statement.expr (.select (.names ["error_type"]) [] arms) false).layout
        split true BlockStatement :=
      lines_choice (.inr rfl) (List.append_ne_nil_of_right_ne_nil _ (List.cons_ne_nil _ _)) harms
    rw [lookup, Statement.listLayout, Statement.listLayout, List.append_nil]
    exact hchoice.imp fun tokens h => h.statements
  | chain =>
    induction cases with
    | nil =>
      have hlast : Lines (Statement.expr (carrying unknown "error_type") false).layout split true
          FurtherStatements := lines_carrying hunknown (.inl rfl)
      rw [lookup, List.map_nil, List.nil_append, Statement.listLayout, Statement.listLayout,
        List.append_nil]
      exact hlast
    | cons c cases ih =>
      rw [List.forall_mem_cons] at hcases
      show Lines ((test c).layout ++ Statement.listLayout (lookup .chain cases unknown)) _ _ _
      refine ((lines_test hcases.1).append (ih hcases.2)).imp ?_
      rintro _ ⟨front, behind, hfront, hbehind, rfl⟩
      exact hfront.append hbehind

theorem lines_body {names : List String} (strategy : Strategy) (policy : Policy)
    (hnames : ∀ name ∈ names, IsName (variantName name)) (hunknown : IsName unknown) :
    Lines (Statement.listLayout (body strategy policy names unknown)) split true Statements := by
  have hcases : ∀ c ∈ casesFor names, IsName c.variant := List.forall_mem_map.mpr hnames
  have hlookup : Lines (Statement.listLayout (lookup strategy (casesFor names) unknown)) split true
      FurtherStatements := lines_lookup strategy hcases hunknown
  unfold body
  cases policy.validation with
  | false => exact hlookup.imp fun tokens h => h.toStatements
  | true =>
    show Lines (validationCheck.layout ++ Statement.listLayout (lookup strategy (casesFor names) unknown))
      _ _ _
    refine (lines_check.append hlookup).imp ?_
    rintro _ ⟨front, behind, hfront, hbehind, rfl⟩
    exact (hfront.append hbehind).toStatements

/-! ## Values -/

/-- The tokens of the identifier that a value of the option set has. -/
def descriptionTokens : List Token := [.ident "self", .mark '.' false, .ident "description"]

theorem lines_description : Lines (Statement.expr description false).layout split true Statements := by
  have hplain : PlainValue descriptionTokens := {
    reads := fun depth rounds => ⟨description, rfl, rfl, fun rest hrest => by cases hrest <;> rfl⟩
    kind := fun _ _ _ => rfl
    starts := fun _ => ⟨rfl, rfl, rfl, rfl, rfl, rfl⟩
    balanced := balanced_iff.mpr rfl }
  have hscore : outcomes .apart [.opening false 0, .opening true indent, .opening true (-indent),
      .text [.fixed "self"], .closing, .text [.fixed "."], .text [.fixed "description"], .closing,
      .closing] = some [(.word, descriptionTokens)] := rfl
  have hscored : Scored _ .apart Statements :=
    .of _ rfl hscore rfl nofun rfl rfl (List.forall_mem_singleton.mpr hplain.statements)
  exact lines_statement description (hscored.readsAs split) rfl rfl rfl

theorem lines_writeDescription :
    Lines (Statement.expr (writeText description) false).layout split true Statements := by
  have hplain (trailing : Bool) : PlainValue (writeTokens descriptionTokens trailing) := {
    reads := fun depth rounds => ⟨writeText description, rfl, rfl, fun rest hrest => by
      cases hrest <;> cases trailing <;> rfl⟩
    kind := fun _ _ _ => rfl
    starts := fun _ => ⟨rfl, rfl, rfl, rfl, rfl, rfl⟩
    balanced := balanced_iff.mpr (by cases trailing <;> rfl) }
  have hscore : outcomes .apart (.opening false 0 :: writeNotes [.opening true indent,
      .opening true (-indent), .text [.fixed "self"], .closing, .gap { zero with afterPoint := true },
      .text [.fixed "."], .text [.fixed "description"], .closing] ++ [Note.closing]) =
        some ([false, true].map fun trailing => (.word, writeTokens descriptionTokens trailing)) := rfl
  have hscored : Scored _ .apart Statements := .of _ rfl hscore rfl nofun rfl rfl
    (List.forall_mem_map.mpr fun trailing _ => (hplain trailing).statements)
  exact lines_statement (writeText description) (hscored.readsAs split) rfl rfl rfl

/-- What the emitted test for validation errors gives. -/
def validationTests : Expr :=
  validationStarts.foldl (fun tests start => .binary .or tests (Decoder.startsWith start))
    (.invocation ⟨false, ["matches"]⟩ .paren
      (.ident "error_type" :: Token.sign "," ++ Decoder.alternatives validationTokens))

/-- The tokens of a test whether the wire identifier starts with a text. -/
def startsTokens (start : String) (trailing : Bool) : List Token :=
  .mark '|' true :: .mark '|' false :: .ident "error_type" :: .mark '.' false ::
    .ident "starts_with" :: argument trailing [.literal (Text.quote start)]

/-- The tokens of the test for validation errors, with commas behind arguments or not. -/
def testsTokens (first second : Bool) : List Token :=
  .ident "matches" :: .mark '!' false :: (Token.group .paren
    (.ident "error_type" :: Token.sign "," ++ Decoder.alternatives validationTokens) ++
      startsTokens "ValidationError:" first ++ startsTokens "ValidationException:" second)

set_option maxRecDepth 20000 in
theorem plainValue_tests (first second : Bool) : PlainValue (testsTokens first second) where
  reads depth rounds := ⟨validationTests, rfl, rfl, fun rest hrest => by
    cases hrest <;> cases first <;> cases second <;> rfl⟩
  kind _ _ _ := rfl
  starts _ := ⟨rfl, rfl, rfl, rfl, rfl, rfl⟩
  balanced := balanced_iff.mpr (by cases first <;> cases second <;> rfl)

/-- The use of `matches!` in the test for validation errors. -/
def matchesNotes : List Note :=
  [.text [.fixed "matches!"], .text [.fixed "("], .opening true indent, .gap zero, .opening false 0,
    .text [.fixed "error_type"], .text [.fixed ","], .gap { zero with blank := 1 },
    .text [.quote "ValidationError"], .gap { zero with blank := 1 }, .text [.fixed "|"],
    .gap { zero with blank := 1 }, .text [.quote "ValidationException"], .closing,
    .gap { zero with shift := -indent }, .closing, .text [.fixed ")"]]

theorem layout_matches : invocationLayout ⟨false, ["matches"]⟩ none .paren
    (.ident "error_type" :: Token.sign "," ++ Decoder.alternatives validationTokens) false =
      layoutOf matchesNotes := by
  have hbar : ∀ state : MacroState, state = .other ∨ state = .ident →
      state.next false (.token (.mark '|' false)) = (true, .other) := by
    rintro _ (rfl | rfl) <;> rfl
  have hbody : TokenTree.ofTokens
      (.ident "error_type" :: Token.sign "," ++ Decoder.alternatives validationTokens) =
        [.token (.ident "error_type"), .token (.mark ',' false),
          .token (.literal (Text.quote "ValidationError")), .token (.mark '|' false),
          .token (.literal (Text.quote "ValidationException"))] := rfl
  have htrees : macroTrees false .start true [.token (.ident "error_type"), .token (.mark ',' false),
      .token (.literal (Text.quote "ValidationError")), .token (.mark '|' false),
      .token (.literal (Text.quote "ValidationException"))] =
        word "error_type" ++ word "," ++ space ++ word (Text.quote "ValidationError") ++ space ++
          word "|" ++ space ++ word (Text.quote "ValidationException") := by
    rw [macroTrees_token, macroTrees_token]
    show _ ++ _ ++ (_ ++ _ ++ macroTrees false .other false _) = _
    rw [macroTrees_literal _ hbar, macroTrees_token, macroTrees_nil, tokenWord_literal]
    rfl
  rw [invocationLayout, hbody, macroBox, htrees]
  rfl

/-- A test whether the wire identifier starts with a text, behind another one. -/
def startsNotes (start : String) : List Note :=
  [Note.gap { zero with blank := 1 }, .text [.fixed "||"], .text [.fixed " "], .opening true indent,
    .opening true (-indent), .text [.fixed "error_type"], .closing,
    .gap { zero with afterPoint := true }, .text [.fixed "."], .text [.fixed "starts_with"],
    .opening true 0] ++ argumentNotes [.text [.quote start]] ++ [Note.closing, .closing]

def testsNotes : List Note :=
  [Note.opening false 0, .opening false indent, .opening false (-indent), .opening false indent,
    .opening false (-indent)] ++ matchesNotes ++ .closing :: startsNotes "ValidationError:" ++
      [Note.closing, .closing] ++ startsNotes "ValidationException:" ++ [Note.closing, .closing]

theorem layout_tests :
    fill 0 (validationTests.layout .lineStart .ofStatement) = layoutOf testsNotes := by
  simp only [validationTests, validationStarts, List.foldl, Expr.layout, layout_matches]
  rfl

set_option maxRecDepth 20000 in
theorem lines_tests : Lines (Statement.expr validationTests false).layout split true Statements := by
  have hscore : outcomes .apart testsNotes =
      some ([false, true].flatMap fun second => [false, true].map fun first =>
        (.word, testsTokens first second)) := rfl
  have hscored : Scored (layoutOf testsNotes) .apart Statements := by
    refine .of _ rfl hscore rfl nofun rfl rfl fun o ho => ?_
    obtain ⟨second, -, ho⟩ := List.mem_flatMap.mp ho
    obtain ⟨first, -, rfl⟩ := List.mem_map.mp ho
    exact (plainValue_tests first second).statements
  exact lines_statement validationTests (hscored.readsAs split) rfl rfl layout_tests

/-! ## Lists -/

variable {constants : List String}

/-- Constants of the type itself, with commas between them. -/
def elementNotes : List String → List Note
  | [] => []
  | [constant] => selfNotes constant
  | constant :: second :: rest =>
    selfNotes constant ++ [Note.text [.fixed ","], .gap { zero with blank := 1 }] ++
      elementNotes (second :: rest)

/-- A reference to a list of constants. -/
def listNotes : List String → List Note
  | [] => [.opening false 0, .text [.fixed "&"], .text [.fixed "[]"], .closing]
  | constant :: rest => [.opening false 0, .text [.fixed "&"], .text [.fixed "["],
      .opening true indent, .gap zero] ++ (elementNotes (constant :: rest) ++
        [Note.gap { zero with shift := -indent, lineEnd := "," }, .closing, .text [.fixed "]"], .closing])

def listTokens (constants : List String) (trailing : Bool) : List Token :=
  .mark '&' false :: Token.group .bracket (withCommas trailing (constants.map (pair "Self")))

theorem outcomes_elements (constant : String) (rest : List String) :
    outcomes .apart (elementNotes (constant :: rest) ++
        [Note.gap { zero with shift := -indent, lineEnd := "," }, .closing, .text [.fixed "]"],
          .closing]) =
      some ([false, true].map fun trailing => (.word,
        withCommas trailing ((constant :: rest).map (pair "Self")) ++ [Token.closing .bracket])) := by
  induction rest generalizing constant with
  | nil => rfl
  | cons second rest ih =>
    rw [elementNotes, List.append_assoc]
    show (Option.bind (Option.bind (Option.bind (Option.bind (Option.bind
      (outcomes .apart (elementNotes (second :: rest) ++ _)) _) _) _) _) _) = _
    rw [ih second]
    rfl

theorem outcomes_list (constants : List String) : ∃ all, outcomes .apart (listNotes constants) = some all ∧
    ∀ o ∈ all, ∃ trailing, o.2 = listTokens constants trailing := by
  cases constants with
  | nil => exact ⟨_, rfl, List.forall_mem_singleton.mpr ⟨false, rfl⟩⟩
  | cons constant rest =>
    refine ⟨[false, true].map fun trailing => (⟨true, some true, true⟩,
      listTokens (constant :: rest) trailing), ?_,
        List.forall_mem_map.mpr fun trailing _ => ⟨trailing, rfl⟩⟩
    show (Option.bind (Option.bind (Option.bind (outcomes .apart (elementNotes (constant :: rest) ++ _))
      _) _) _) = _
    rw [outcomes_elements]
    rfl

/-- The expressions of constants of the type itself. -/
abbrev listElements (constants : List String) : List Expr :=
  constants.map fun constant => .names ["Self", constant]

def listValue (constants : List String) : Expr := .reference false (.array (listElements constants))

theorem statements_list (hconstants : ∀ constant ∈ constants, isKeyword constant = false)
    (trailing : Bool) : Statements (listTokens constants trailing) where
  reads depth rounds steps hrounds hsteps := by
    obtain ⟨steps, rfl⟩ := Nat.exists_eq_succ_of_ne_zero (Nat.ne_of_gt (Nat.zero_lt_of_lt hsteps))
    refine ⟨[.expr (listValue constants) false], fun rest => ?_⟩
    have hparts : List.Forall₂ (ReadsElement (Reader.readers (depth + 9)) (rounds + 12))
        (constants.map (pair "Self"))
        (constants.map fun constant => Expr.names ["Self", constant]) := by
      rw [List.forall₂_map_left_iff, List.forall₂_map_right_iff, List.forall₂_same]
      exact fun constant hconstant => ⟨fun rest hrest =>
        yields_wholePath (.inl rfl) (hconstants constant hconstant) hrest, fun _ => rfl⟩
    have hlength : (constants.map (pair "Self")).length < rounds + 12 := by
      have hparts : (constants.map (pair "Self")).length ≤
          (constants.map (pair "Self")).flatten.length :=
        length_parts_le_flatten (List.forall_mem_map.mpr fun _ _ => List.cons_ne_nil _ _)
      have hcommas := length_flatten_le_withCommas trailing (constants.map (pair "Self"))
      rw [listTokens, List.length_cons, length_group] at hrounds
      omega
    let inside := Token.group .bracket (withCommas trailing (constants.map (pair "Self"))) ++
      .closing .brace :: rest
    have harray : Yields (atom (Reader.readers (depth + 9)) true) (rounds + 12) inside
        (.array (constants.map fun constant => Expr.names ["Self", constant]))
        (.closing .brace :: rest) := yields_brackets hparts hlength _
    have hreference : Yields (unary (Reader.readers (depth + 10)) true) (rounds + 12)
        (.mark '&' false :: inside) (listValue constants) (.closing .brace :: rest) :=
      yields_reference rfl rfl
        (yields_operand rfl rfl rfl harray (yields_extend (.closing _ rest) _))
    have hvalue : Yields ((Reader.readers (depth + 12)).expr .statement) (rounds + 12)
        (.mark '&' false :: inside) (listValue constants) (.closing .brace :: rest) :=
      yields_statementExpr rfl rfl hreference rfl (.closing _ rest)
    refine yields_statementRounds_last rfl rfl ?_
    exact yields_statement rfl rfl rfl rfl hvalue (yields_no_sign rfl) rfl
  balanced := by
    have hand : Balanced [.mark '&' false] := balanced_iff.mpr rfl
    have hpart : ∀ part ∈ constants.map (pair "Self"), Balanced part :=
      List.forall_mem_map.mpr fun constant _ => balanced_iff.mpr rfl
    exact hand.append ((balanced_withCommas hpart trailing).group .bracket)
  plain _ := rfl

theorem commaLayout_elements (constant : String) (rest : List String) :
    shiftLast (-indent) (commaLayout (Expr.listLayout (listElements (constant :: rest)))) =
      layoutOf (elementNotes (constant :: rest) ++
        [Note.gap { zero with shift := -indent, lineEnd := "," }]) := by
  induction rest generalizing constant with
  | nil => rfl
  | cons second rest ih =>
    have hne : commaLayout (Expr.listLayout (listElements (second :: rest))) ≠ [] := by
      cases rest <;> exact List.cons_ne_nil _ _
    have hfirst : commaLayout (Expr.listLayout (listElements (constant :: second :: rest))) =
        layoutOf (selfNotes constant ++ [Note.text [.fixed ","], .gap { zero with blank := 1 }]) ++
          commaLayout (Expr.listLayout (listElements (second :: rest))) := rfl
    rw [hfirst, shiftLast_append _ _ hne, ih, elementNotes]
    simp only [layoutOf, List.map_append, List.append_assoc]

theorem layout_list (constants : List String) :
    fill 0 ((listValue constants).layout .lineStart .ofStatement) = layoutOf (listNotes constants) := by
  cases constants with
  | nil => rfl
  | cons constant rest =>
    have hinside : shiftLast (-indent) (softBreak ++
        commaLayout (Expr.listLayout (listElements (constant :: rest)))) =
          softBreak ++ layoutOf (elementNotes (constant :: rest) ++
            [Note.gap { zero with shift := -indent, lineEnd := "," }]) := by
      rw [shiftLast_append, commaLayout_elements]
      cases rest <;> exact List.cons_ne_nil _ _
    have hlayout : (listValue (constant :: rest)).layout .lineStart .ofStatement =
        word "&" ++ (word "[" ++ listBox (Expr.listLayout (listElements (constant :: rest))) ++
          word "]") := rfl
    have hword : ∀ rest : Layout, .text "&" ∈ word "&" ++ rest := fun _ => List.mem_cons_self
    have hmore : ∀ g, softBreak ++ layoutOf (elementNotes (constant :: rest) ++
        [Note.gap { zero with shift := -indent, lineEnd := "," }]) ≠ [.gap g] := by
      intro g hg
      have hlength := congrArg List.length hg
      simp [layoutOf, softBreak] at hlength
    rw [hlayout, fill, box_eq (ne_gap_of_mem (hword _)), listBox, hinside, group, box_eq hmore,
      listNotes]
    simp [layoutOf, Note.piece, softBreak, word, Part.joined, Part.text]

theorem layoutOf_append (first second : List Note) :
    layoutOf (first ++ second) = layoutOf first ++ layoutOf second := List.map_append

theorem isKnown_elements (constants : List String) :
    (elementNotes constants).all Note.isKnown = true := by
  fun_induction elementNotes constants with
  | case1 => rfl
  | case2 constant => rfl
  | case3 constant second rest ih =>
    rw [List.all_append, ih]
    rfl

theorem words_elements (constants : List String) :
    (elementNotes constants).flatMap Note.words = constants := by
  fun_induction elementNotes constants with
  | case1 => rfl
  | case2 constant => rfl
  | case3 constant second rest ih =>
    rw [List.flatMap_append, ih]
    rfl

theorem closesAt_elements (constants : List String) :
    closesAt 0 (layoutOf (elementNotes constants)) = true := by
  fun_induction elementNotes constants with
  | case1 => rfl
  | case2 constant => rfl
  | case3 constant second rest ih => exact ih

theorem scored_list (hconstants : ∀ constant ∈ constants, IsName constant) :
    Scored (layoutOf (listNotes constants)) .apart Statements := by
  obtain ⟨all, hscore, htokens⟩ := outcomes_list constants
  have hall : ∀ o ∈ all, Statements o.2 := by
    intro o ho
    obtain ⟨trailing, hlist⟩ := htokens o ho
    rw [hlist]
    exact statements_list (fun constant hconstant => (hconstants constant hconstant).word) trailing
  cases constants with
  | nil => exact .of _ rfl hscore rfl nofun rfl rfl hall
  | cons constant rest =>
    refine .of _ rfl hscore ?_ ?_ ?_ ?_ hall
    · rw [listNotes, List.all_append, List.all_append, isKnown_elements]
      rfl
    · have hwords : (listNotes (constant :: rest)).flatMap Note.words = constant :: rest := by
        rw [listNotes, List.flatMap_append, List.flatMap_append, words_elements]
        exact List.append_nil _
      rw [hwords]
      exact fun name hname => (hconstants name hname).spelled
    · have hend : closesAt 2 (layoutOf [.gap { zero with shift := -indent, lineEnd := "," },
          .closing, .text [.fixed "]"], .closing]) = true := rfl
      have hclosed := closesAt_append (closesAt_elements (constant :: rest)) hend
      rw [← layoutOf_append] at hclosed
      exact hclosed
    · rw [listNotes, List.foldl_append, List.foldl_append]
      rfl

theorem lines_list (hconstants : ∀ constant ∈ constants, IsName constant) :
    Lines (Statement.expr (listValue constants) false).layout split true Statements :=
  lines_statement (listValue constants) ((scored_list hconstants).readsAs split) rfl rfl
    (layout_list constants)

end Formatted

end WireErrors
