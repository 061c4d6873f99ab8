import WireErrors.Source.Formatting.Item

/-!
# Complete layouts

A layout is complete if nothing in it stands for something that cannot be laid out. Gaps, texts and
boxes are, and the layout of a tree is as soon as those of its parts are: what completeness depends
on are neither positions nor parentheses, but the kinds of trees alone.
-/

namespace WireErrors

namespace Layout

/-- Whether everything in a layout can be laid out. -/
def Complete (layout : Layout) : Prop := .missing ∉ layout

theorem isComplete_iff {layout : Layout} : layout.isComplete = true ↔ layout.Complete := by
  simp [isComplete, Complete]

/-! ## Pieces -/

@[simp]
theorem complete_nil : Complete [] := by simp [Complete]

@[simp]
theorem complete_append {a b : Layout} : Complete (a ++ b) ↔ Complete a ∧ Complete b := by
  simp [Complete]

@[simp]
theorem complete_word (text : String) : Complete (word text) := by simp [Complete, word]

@[simp]
theorem complete_gap (g : Gap) : Complete [.gap g] := by simp [Complete]

@[simp]
theorem complete_space : Complete space := complete_gap _

@[simp]
theorem complete_softBreak : Complete softBreak := complete_gap _

@[simp]
theorem complete_pointBreak : Complete pointBreak := complete_gap _

@[simp]
theorem complete_hardBreak : Complete hardBreak := complete_gap _

@[simp]
theorem complete_hardBreakIfMore : Complete hardBreakIfMore := complete_gap _

@[simp]
theorem complete_spaceIfMore : Complete spaceIfMore := complete_gap _

@[simp]
theorem complete_noBreak : Complete noBreak := complete_gap _

@[simp]
theorem complete_comma (last : Bool) (blank : Nat) : Complete (comma last blank) := by
  cases last <;> simp [comma]

theorem complete_ite {c : Prop} [Decidable c] {a b : Layout} (ha : Complete a) (hb : Complete b) :
    Complete (if c then a else b) := by
  split
  · exact ha
  · exact hb

/-! ## Boxes -/

@[simp]
theorem complete_shiftLast {shift : Int} {layout : Layout} :
    Complete (shiftLast shift layout) ↔ Complete layout := by
  fun_induction shiftLast shift layout with
  | case1 => rfl
  | case2 g => simp
  | case3 piece rest _ ih =>
    unfold Complete at ih ⊢
    rw [List.mem_cons, List.mem_cons, not_or, not_or, ih]

@[simp]
theorem complete_box {consistent : Bool} {shift : Int} {body : Layout} :
    Complete (box consistent shift body) ↔ Complete body := by
  unfold box
  split
  · simp
  · simp [Complete]

@[simp]
theorem complete_group {shift : Int} {body : Layout} :
    Complete (group shift body) ↔ Complete body := complete_box

@[simp]
theorem complete_fill {shift : Int} {body : Layout} :
    Complete (fill shift body) ↔ Complete body := complete_box

@[simp]
theorem complete_narrowBox {limit : Nat} {shift : Int} {body : Layout} :
    Complete (narrowBox limit shift body) ↔ Complete body := by
  simp [narrowBox, Complete]

/-! ## Lists -/

theorem complete_flatMap {α : Type} {list : List α} {layout : α → Layout}
    (h : ∀ a ∈ list, Complete (layout a)) : Complete (list.flatMap layout) := by
  intro hmissing
  obtain ⟨a, ha, hmissing⟩ := List.mem_flatMap.mp hmissing
  exact h a ha hmissing

end Layout

namespace Source

open Layout

theorem complete_joinedLayout {separator : Layout} {parts : List Layout}
    (hseparator : Complete separator) (hparts : ∀ part ∈ parts, Complete part) :
    Complete (joinedLayout separator parts) := by
  unfold joinedLayout
  induction parts with
  | nil => simp [List.intercalate]
  | cons first parts ih =>
    rw [List.forall_mem_cons] at hparts
    cases parts with
    | nil => simpa [List.intercalate] using hparts.1
    | cons second parts =>
      have hshape : List.intercalate separator (first :: second :: parts) =
          first ++ separator ++ List.intercalate separator (second :: parts) := by
        simp [List.intercalate]
      rw [hshape, complete_append, complete_append]
      exact ⟨⟨hparts.1, hseparator⟩, ih hparts.2⟩

theorem complete_commaLayout {parts : List Layout} (hparts : ∀ part ∈ parts, Complete part) :
    Complete (commaLayout parts) := by
  fun_induction commaLayout parts with
  | case1 => exact complete_nil
  | case2 part => simpa using hparts
  | case3 part rest _ ih =>
    rw [List.forall_mem_cons] at hparts
    simpa [hparts.1] using ih hparts.2

theorem complete_fieldsLayout {more : Bool} {parts : List Layout}
    (hparts : ∀ part ∈ parts, Complete part) : Complete (fieldsLayout more parts) := by
  fun_induction fieldsLayout more parts with
  | case1 => exact complete_nil
  | case2 part => simpa using hparts
  | case3 part rest _ ih =>
    rw [List.forall_mem_cons] at hparts
    simpa [hparts.1] using ih hparts.2

theorem complete_listBox {parts : List Layout} (hparts : ∀ part ∈ parts, Complete part) :
    Complete (listBox parts) := by
  simpa [listBox] using complete_commaLayout hparts

@[simp]
theorem complete_wordIf? (condition : Bool) (text : String) : Complete (wordIf? condition text) := by
  cases condition <;> simp [wordIf?]

/-! ## Attributes -/

@[simp]
theorem complete_tokenWord (t : Token) : Complete (tokenWord t) := complete_word _

@[simp]
theorem complete_openingWord (d : Delimiter) : Complete (openingWord d) := complete_word _

@[simp]
theorem complete_closingWord (d : Delimiter) : Complete (closingWord d) := complete_word _

@[simp]
theorem complete_attributeTrees (afterWord : Bool) (trees : List TokenTree) :
    Complete (attributeTrees afterWord trees) := by
  fun_induction attributeTrees afterWord trees with
  | case1 => exact complete_nil
  | case2 => exact complete_comma true 0
  | case3 afterWord c joint rest hlast ih =>
    rw [complete_append, complete_append]
    exact ⟨⟨complete_word _, complete_ite complete_space complete_nil⟩, ih⟩
  | case4 afterWord t rest hmark ih =>
    rw [complete_append, complete_append]
    exact ⟨⟨complete_ite complete_space complete_nil, complete_tokenWord t⟩, ih⟩
  | case5 afterWord delimiter body rest hbody hrest =>
    simp only [complete_append, complete_openingWord, complete_closingWord, true_and, and_true]
    refine ⟨complete_ite ?_ hbody, hrest⟩
    simp only [complete_group, complete_shiftLast, complete_append, complete_softBreak, true_and]
    exact ⟨hbody, complete_ite complete_nil complete_softBreak⟩

/-- Whether the argument of an attribute is no expression, which may lack a layout. -/
def AttributeArgument.isPlain : AttributeArgument → Bool
  | .expr _ => false
  | _ => true

theorem complete_attribute {a : Attribute} (h : a.argument.isPlain = true) : Complete a.layout := by
  unfold Attribute.layout
  split
  · simp
  · cases hargument : a.argument with
    | expr e =>
      rw [hargument] at h
      cases h
    | none => simp [AttributeArgument.layout]
    | value spelling => simp [AttributeArgument.layout]
    | list delimiter body => simp [AttributeArgument.layout]

/-- Whether no attribute has an expression in it. -/
def PlainAttributes (attributes : List Attribute) : Prop :=
  ∀ a ∈ attributes, a.argument.isPlain = true

@[simp]
theorem plainAttributes_nil : PlainAttributes [] := nofun

@[simp]
theorem plainAttributes_cons {a : Attribute} {attributes : List Attribute} :
    PlainAttributes (a :: attributes) ↔ a.argument.isPlain = true ∧ PlainAttributes attributes :=
  List.forall_mem_cons

@[simp]
theorem isPlain_doc (text : String) : (Attribute.doc text).argument.isPlain = true := rfl

@[simp]
theorem isPlain_docText (text : String) : (Attribute.docText text).argument.isPlain = true := rfl

@[simp]
theorem isPlain_derive (traits : List (List String)) :
    (Attribute.derive traits).argument.isPlain = true := rfl

@[simp]
theorem isPlain_docOfFile (text : String) : (Attribute.docOfFile text).argument.isPlain = true := rfl

@[simp]
theorem isPlain_allowInFile (lint : List String) :
    (Attribute.allowInFile lint).argument.isPlain = true := rfl

theorem complete_outerLayout {attributes : List Attribute} (h : PlainAttributes attributes) :
    Complete (outerLayout attributes) :=
  complete_flatMap fun a ha => complete_attribute (h a (List.mem_filter.mp ha |>.1))

theorem complete_innerLayout {attributes : List Attribute} (h : PlainAttributes attributes) :
    Complete (innerLayout attributes) :=
  complete_flatMap fun a ha => complete_attribute (h a (List.mem_filter.mp ha |>.1))

@[simp]
theorem complete_visibility (visibility : Visibility) : Complete visibility.layout := by
  cases visibility <;> simp [Visibility.layout]

/-! ## Macros -/

@[simp]
theorem complete_macroGap (joined apart dot : Bool) :
    Complete (macroTrees.macroGap joined apart dot) := by
  cases joined <;> cases apart <;> cases dot <;> simp [macroTrees.macroGap]

@[simp]
theorem complete_macroTrees (matcher : Bool) (state : MacroState) (joined : Bool)
    (trees : List TokenTree) : Complete (macroTrees matcher state joined trees) := by
  fun_induction macroTrees matcher state joined trees with
  | case1 => exact complete_nil
  | case2 state joined t rest apart next hnext ih =>
    rw [complete_append, complete_append]
    exact ⟨⟨complete_macroGap _ _ _, complete_tokenWord t⟩, ih⟩
  | case3 state joined delimiter body rest apart next hnext edge hbody hrest =>
    have hedge : Complete edge := complete_ite complete_space complete_nil
    simp only [complete_append, complete_macroGap, complete_openingWord, complete_closingWord]
    simp only [hedge, hbody, hrest, and_self]

@[simp]
theorem complete_invocationLayout (path : Path) (delimiter : Delimiter) (body : List Token)
    (ended : Bool) : Complete (invocationLayout path none delimiter body ended) := by
  have hedge : Complete (if delimiter = .brace then hardBreak else softBreak) :=
    complete_ite complete_hardBreak complete_softBreak
  have hopening : Complete (if delimiter = .brace then word " \x7b" else openingWord delimiter) :=
    complete_ite (complete_word _) (complete_openingWord _)
  have hended : Complete (if ended then word ";" else []) :=
    complete_ite (complete_word _) complete_nil
  have hbox : Complete (macroBox false (if delimiter = .brace then hardBreak else softBreak)
      (TokenTree.ofTokens body)) := by
    unfold macroBox
    refine complete_ite complete_nil ?_
    simp only [complete_group, complete_append, complete_fill, complete_shiftLast,
      complete_macroTrees, hedge, and_self]
  unfold invocationLayout
  simp only [complete_append, complete_word, complete_nil, complete_closingWord, hopening, hbox,
    hended, and_self]

/-! ## Types -/

theorem segments_listLayout (inType : Bool) (segments : List Segment) :
    Segment.listLayout inType segments = segments.map (Segment.layout inType) := by
  induction segments with
  | nil => rfl
  | cons segment segments ih => rw [Segment.listLayout, ih, List.map_cons]

theorem complete_route {inType absolute : Bool} {segments : List Segment}
    (h : ∀ segment ∈ segments, Complete (segment.layout inType)) :
    Complete (Route.layout inType (.plain absolute segments)) := by
  rw [Route.layout, segments_listLayout, complete_append]
  refine ⟨complete_wordIf? _ _, complete_joinedLayout (complete_word _) ?_⟩
  exact List.forall_mem_map.mpr h

@[simp]
theorem complete_plainSegment (inType : Bool) (name : String) :
    Complete ((Segment.plain name).layout inType) := by
  simp [Segment.layout, Arguments.layout]

@[simp]
theorem complete_names (inType : Bool) (names : List String) :
    Complete (Route.layout inType (.names names)) :=
  complete_route (List.forall_mem_map.mpr fun name _ => complete_plainSegment inType name)

@[simp]
theorem complete_namesType (names : List String) : Complete (TypeExpr.names names).layout := by
  rw [TypeExpr.names, TypeExpr.layout]
  exact complete_names true names

@[simp]
theorem complete_reference {lifetime : Option String} {mutable : Bool} {target : TypeExpr} :
    Complete (TypeExpr.reference lifetime mutable target).layout ↔ Complete target.layout := by
  cases lifetime <;> simp [TypeExpr.layout]

@[simp]
theorem complete_slice {element : TypeExpr} :
    Complete (TypeExpr.slice element).layout ↔ Complete element.layout := by
  simp [TypeExpr.layout]

@[simp]
theorem complete_angledSegment {name : String} {argument : Argument} :
    Complete ((Segment.mk name (.angled [argument])).layout true) ↔ Complete argument.layout := by
  cases hargument : argument.isLifetime <;>
    simp [Segment.layout, Arguments.layout, Argument.listLayout, angledLayout, hargument, listBox,
      commaLayout]

/-! ## Patterns -/

@[simp]
theorem complete_pathPattern (names : List String) :
    Complete (Pattern.path (.names names)).layout := by
  rw [Pattern.layout]
  exact complete_names false names

@[simp]
theorem complete_tuplePattern (names : List String) (holder : String) :
    Complete (Pattern.tuple (.names names) [.binding holder]).layout := by
  have hpath : Complete (Route.names names).fieldsPathLayout := complete_names false names
  have hlist : Complete (listBox (Pattern.listLayout [.binding holder])) := by
    refine complete_listBox fun part hpart => ?_
    rw [List.mem_singleton.mp hpart, Pattern.layout]
    exact complete_word holder
  rw [Pattern.layout]
  simp [hpath, hlist]

/-! ## Positions and parentheses -/

@[simp]
theorem complete_whole {position : Position} {body : Layout} :
    Complete (position.whole body) ↔ Complete body := by
  cases position <;> simp [Position.whole]

@[simp]
theorem complete_chain {position : Position} {body : Layout} :
    Complete (position.chain body) ↔ Complete body := by
  cases position <;> simp [Position.chain]

@[simp]
theorem complete_gapAfter (position : Position) (receiver : Expr) :
    Complete (position.gapAfter receiver) :=
  complete_ite complete_nil complete_pointBreak

theorem complete_setting {setting : Surroundings.Setting} {operand : Surroundings → Layout}
    (h : ∀ around, Complete (operand around)) : Complete (setting.layout operand) := by
  unfold Surroundings.Setting.layout
  refine complete_ite ?_ (h _)
  simpa using h setting.around

/-! ## Expressions -/

attribute [local simp] Expr.layout

/-- Whether an expression has a complete layout wherever it stands. -/
def Expr.Formattable (e : Expr) : Prop :=
  ∀ position around, Complete (e.layout position around)

theorem listLayout_eq_map (list : List Expr) :
    Expr.listLayout list = list.map (Expr.layout .inner .alone) := by
  induction list with
  | nil => rfl
  | cons e list ih => rw [Expr.listLayout, ih, List.map_cons]

theorem forall_listLayout {list : List Expr} (h : ∀ e ∈ list, e.Formattable) :
    ∀ part ∈ Expr.listLayout list, Complete part := by
  rw [listLayout_eq_map]
  exact List.forall_mem_map.mpr fun e he => h e he _ _

theorem complete_argumentsLayout (arguments : List Expr) {parts : List Layout}
    (h : ∀ part ∈ parts, Complete part) : Complete (argumentsLayout arguments parts) := by
  unfold argumentsLayout
  split
  · exact complete_ite (h _ List.mem_cons_self) (complete_listBox h)
  · exact complete_listBox h

theorem formattable_names (names : List String) : (Expr.names names).Formattable := by
  intro position around
  rw [Expr.layout, complete_whole]
  exact complete_names false names

theorem formattable_literal (text : String) : (Expr.literal text).Formattable := by
  intro position around
  simp

theorem formattable_call {function : Expr} {arguments : List Expr} (hfunction : function.Formattable)
    (harguments : ∀ e ∈ arguments, e.Formattable) : (Expr.call function arguments).Formattable := by
  intro position around
  have hlist := complete_argumentsLayout arguments (forall_listLayout harguments)
  rw [Expr.layout]
  simp only [complete_append, complete_word, hlist, and_true]
  exact complete_setting fun inside => hfunction _ inside

theorem formattable_method {receiver : Expr} {name : String} {arguments : List Expr}
    (hreceiver : receiver.Formattable) (harguments : ∀ e ∈ arguments, e.Formattable) :
    (Expr.method receiver name arguments).Formattable := by
  intro position around
  have hlist := complete_argumentsLayout arguments (forall_listLayout harguments)
  rw [Expr.layout]
  simp only [complete_chain, complete_append, complete_gapAfter, complete_word, complete_group,
    hlist, and_self, and_true]
  exact complete_setting fun inside => hreceiver _ inside

theorem formattable_field {receiver : Expr} {name : String} (hreceiver : receiver.Formattable) :
    (Expr.field receiver name).Formattable := by
  intro position around
  rw [Expr.layout]
  simp only [complete_chain, complete_append, complete_gapAfter, complete_word, and_true]
  exact complete_setting fun inside => hreceiver _ inside

theorem formattable_reference {mutable : Bool} {target : Expr} (htarget : target.Formattable) :
    (Expr.reference mutable target).Formattable := by
  intro position around
  rw [Expr.layout]
  simp only [complete_whole, complete_append, complete_word, complete_wordIf?, true_and]
  exact complete_setting fun inside => htarget _ inside

theorem formattable_array {elements : List Expr} (h : ∀ e ∈ elements, e.Formattable) :
    (Expr.array elements).Formattable := by
  intro position around
  have hlist := forall_listLayout h
  have hseparator : Complete (word "," ++ space) := by simp
  have hjoined := complete_joinedLayout hseparator hlist
  rw [Expr.layout, complete_whole]
  unfold arrayLayout
  refine complete_ite (complete_word _) (complete_ite ?_ ?_)
  · simp [hjoined]
  · simp [complete_listBox hlist]

theorem formattable_binary {operator : Operator} {left right : Expr} (hleft : left.Formattable)
    (hright : right.Formattable) : (Expr.binary operator left right).Formattable := by
  intro position around
  rw [Expr.layout]
  simp only [complete_whole, complete_append, complete_fill, complete_word, complete_space, and_true]
  exact ⟨complete_setting fun inside => hleft _ inside, complete_setting fun inside => hright _ inside⟩

theorem complete_plainField {name : String} {value : Expr} (hvalue : value.Formattable) :
    Complete (FieldValue.plain name value).layout := by
  have hlayout := hvalue .inner .alone
  simp [FieldValue.layout, outerLayout, hlayout]

theorem fieldLayouts_eq_map (fields : List FieldValue) :
    FieldValue.listLayout fields = fields.map FieldValue.layout := by
  induction fields with
  | nil => rfl
  | cons field fields ih => rw [FieldValue.listLayout, ih, List.map_cons]

theorem formattable_record {names : List String} {fields : List FieldValue}
    (h : ∀ field ∈ fields, Complete field.layout) :
    (Expr.record (.names names) fields none).Formattable := by
  intro position around
  have hfields : Complete (fieldsLayout false (FieldValue.listLayout fields)) := by
    rw [fieldLayouts_eq_map]
    exact complete_fieldsLayout (List.forall_mem_map.mpr h)
  rw [Expr.layout, complete_whole]
  simp [Expr.optionLayout, hfields]

theorem formattable_invocation (path : Path) (delimiter : Delimiter) (body : List Token) :
    (Expr.invocation path delimiter body).Formattable := by
  intro position around
  rw [Expr.layout, complete_whole]
  exact complete_invocationLayout path delimiter body false

theorem formattable_giveBack {value : Expr} (hvalue : value.Formattable) :
    (Expr.giveBack (some value)).Formattable := by
  intro position around
  rw [Expr.layout]
  simp only [complete_whole, complete_append, complete_word, true_and]
  exact complete_setting fun inside => hvalue _ inside

theorem complete_subjectLayout {e : Expr} {layout : Surroundings → Layout}
    (h : ∀ around, Complete (layout around)) : Complete (subjectLayout e layout) := by
  unfold subjectLayout
  rw [complete_group, complete_append]
  exact ⟨complete_setting h, complete_ite complete_space (complete_word _)⟩

/-! ## Statements and arms -/

theorem complete_statement {value : Expr} {semicolon : Bool} (hvalue : value.Formattable) :
    Complete (Statement.expr value semicolon).layout := by
  rw [Statement.layout]
  unfold statementLayout
  simp only [complete_append, complete_fill, complete_hardBreak, and_true]
  refine ⟨complete_setting fun inside => hvalue _ inside, ?_⟩
  exact complete_ite (complete_word _) complete_nil

theorem complete_statements {statements : List Statement}
    (h : ∀ s ∈ statements, Complete s.layout) : Complete (Statement.listLayout statements) := by
  induction statements with
  | nil => exact complete_nil
  | cons statement statements ih =>
    rw [List.forall_mem_cons] at h
    rw [Statement.listLayout, complete_append]
    exact ⟨h.1, ih h.2⟩

theorem formattable_conditional {condition : Expr} {body : List Statement}
    (hcondition : condition.Formattable) (hbody : ∀ s ∈ body, Complete s.layout) :
    (Expr.conditional condition body .none).Formattable := by
  intro position around
  have hsubject := complete_subjectLayout (e := condition) fun inside => hcondition .inner inside
  rw [Expr.layout]
  simp only [complete_whole, complete_append, complete_group, complete_word, hsubject, and_self,
    and_true, true_and]
  refine complete_ite complete_nil ?_
  simpa using complete_statements hbody

@[simp]
theorem complete_bracedIfMoved {body : Expr} {layout : Layout} {separator : String} :
    Complete (bracedIfMoved body layout separator) ↔ Complete layout := by
  unfold bracedIfMoved
  simp only [complete_group, complete_append, complete_gap, true_and, and_true]

theorem complete_arm {pattern : Pattern} {body : Expr} (hpattern : Complete pattern.layout)
    (hbody : body.Formattable) (hblock : Expr.blockArm body = none) :
    Complete (Arm.plain pattern body).layout := by
  have hvalue : Complete ((Surroundings.ofArm.setting false body).layout
      fun inside => body.layout .lineStart inside) :=
    complete_setting fun inside => hbody .lineStart inside
  rw [Arm.plain, Arm.layout, hblock]
  simp [Expr.optionLayout, movedArm, outerLayout, hpattern, hvalue]

theorem complete_arms {arms : List Arm} (h : ∀ a ∈ arms, Complete a.layout) :
    Complete (Arm.listLayout arms) := by
  induction arms with
  | nil => exact complete_nil
  | cons arm arms ih =>
    rw [List.forall_mem_cons] at h
    rw [Arm.listLayout, complete_append, complete_append]
    exact ⟨⟨h.1, complete_hardBreak⟩, ih h.2⟩

theorem formattable_select {subject : Expr} {arms : List Arm} (hsubject : subject.Formattable)
    (harms : ∀ a ∈ arms, Complete a.layout) : (Expr.select subject [] arms).Formattable := by
  intro position around
  have hhead := complete_subjectLayout (e := subject) fun inside => hsubject .inner inside
  rw [Expr.layout]
  simp [bodyLayout, closedLayout, innerLayout, hhead, complete_arms harms]

/-! ## Items and their members -/

theorem complete_braceBox {heading parts : Layout} :
    Complete (braceBox heading parts) ↔ Complete heading ∧ Complete parts := by
  simp [braceBox]

theorem complete_parameters {parameters : List Parameter} (h : ∀ p ∈ parameters, Complete p.layout) :
    Complete (Parameter.listLayout parameters) := by
  fun_induction Parameter.listLayout parameters with
  | case1 => exact complete_nil
  | case2 => simpa using h
  | case3 => simpa using h
  | case4 parameter rest _ _ ih =>
    rw [List.forall_mem_cons] at h
    simpa [h.1] using ih h.2

theorem complete_function {f : Function} (hgenerics : f.generics = {})
    (hattributes : PlainAttributes f.attributes) (hparameters : ∀ p ∈ f.parameters, Complete p.layout)
    (hresult : ∀ type, f.result = some type → Complete type.layout)
    (hbody : ∀ s ∈ f.body, Complete s.layout) : Complete f.layout := by
  have hconvention : Complete f.convention.layout := by
    cases f.convention with
    | standard => exact complete_nil
    | «foreign» name => cases name <;> simp [Convention.layout]
  have htype : Complete (TypeExpr.resultLayout f.result) := by
    cases hf : f.result with
    | none => exact complete_nil
    | some type => simpa [TypeExpr.resultLayout] using hresult type hf
  rw [Function.layout, complete_append, complete_braceBox, complete_append]
  refine ⟨complete_outerLayout hattributes, ⟨?_, ?_⟩, ?_⟩
  · simp [Signature.layout, hgenerics, Generics.parameterLayout, hconvention, htype,
      complete_parameters hparameters]
  · simp [Generics.beforeBody, hgenerics]
  · rw [complete_append]
    exact ⟨complete_innerLayout hattributes, complete_statements hbody⟩

theorem complete_constant {c : Constant} (hattributes : PlainAttributes c.attributes)
    (htype : Complete c.type.layout) (hvalue : c.value.Formattable) :
    Complete (Member.constant c).layout := by
  have hlayout := hvalue .inner .alone
  simp [Member.layout, Constant.layout, Constant.layoutWith, complete_outerLayout hattributes, htype,
    hlayout]

theorem complete_implementation {implemented : Option TypeExpr} {type : TypeExpr}
    {members : List Member} (himplemented : ∀ t, implemented = some t → Complete t.layout)
    (htype : Complete type.layout) (hmembers : ∀ m ∈ members, Complete m.layout) :
    Complete (Item.implementation [] false false {} false implemented type members).layout := by
  have hlist := complete_flatMap hmembers
  cases implemented with
  | none =>
    simp [Item.layout, complete_braceBox, outerLayout, innerLayout, Generics.parameterLayout,
      Generics.beforeBody, htype, hlist]
  | some t =>
    simp [Item.layout, complete_braceBox, outerLayout, innerLayout, Generics.parameterLayout,
      Generics.beforeBody, htype, hlist, himplemented t rfl]

theorem complete_heading {heading : Heading} {words : String} (hgenerics : heading.generics = {}) :
    Complete (heading.layout words) := by
  simp [Heading.layout, hgenerics, Generics.parameterLayout]

theorem complete_record {heading : Heading} {fields : List Field} (hgenerics : heading.generics = {})
    (hattributes : PlainAttributes heading.attributes) (hfields : ∀ f ∈ fields, Complete f.layout) :
    Complete (Item.record heading (.named fields)).layout := by
  have hlines : Complete (fieldLines fields) :=
    complete_flatMap fun f hf => by simpa using hfields f hf
  simp [Item.layout, complete_braceBox, complete_outerLayout hattributes, complete_heading hgenerics,
    hgenerics, Generics.beforeBody, hlines]

theorem complete_enumeration {heading : Heading} {variants : List Variant}
    (hgenerics : heading.generics = {}) (hattributes : PlainAttributes heading.attributes)
    (hvariants : ∀ v ∈ variants, Complete v.layout) :
    Complete (Item.enumeration heading variants).layout := by
  simp [Item.layout, complete_braceBox, complete_outerLayout hattributes, complete_heading hgenerics,
    hgenerics, Generics.beforeBody, complete_flatMap hvariants]

theorem complete_ofNames (names : List String) : Complete (Import.ofNames names).layout := by
  induction names with
  | nil => simp [Import.ofNames, Import.layout, Import.listLayout, importGroup, importsLayout]
  | cons name names ih =>
    cases names with
    | nil => exact complete_word name
    | cons second names =>
      rw [Import.ofNames, Import.layout, complete_append]
      · exact ⟨complete_word _, ih⟩
      · nofun

theorem complete_use (absolute : Bool) (names : List String) :
    Complete (Item.use [] .inherited absolute (.ofNames names)).layout := by
  simp [Item.layout, outerLayout, complete_ofNames]

/-! ## Files -/

theorem complete_items {items : List Item} (h : ∀ item ∈ items, Complete item.layout) :
    Complete (Item.listLayout items) := by
  induction items with
  | nil => exact complete_nil
  | cons item items ih =>
    rw [List.forall_mem_cons] at h
    rw [Item.listLayout, complete_append]
    exact ⟨h.1, ih h.2⟩

theorem exists_format {attributes : List Attribute} {items : List Item}
    (hattributes : PlainAttributes attributes) (hitems : ∀ item ∈ items, Complete item.layout) :
    ∃ text, File.format? { attributes, items } = some text := by
  have hcomplete : Complete (File.layout { attributes, items }) := by
    simp [File.layout, complete_innerLayout hattributes, complete_items hitems]
  exact ⟨_, if_pos (isComplete_iff.mpr hcomplete)⟩

end Source

end WireErrors
