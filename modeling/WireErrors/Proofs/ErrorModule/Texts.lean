import WireErrors.Proofs.ErrorModule.Shapes

/-!
# Texts in an error module

Wire identifiers and documentation may hold any characters. Wherever one of them is placed into a
module, it is one string literal with this text as its value, and all other tokens are determined by
the identifiers (`emit_texts_in_literals`).
-/

namespace WireErrors

open Source

namespace ErrorModule

open ErrorTypes Decoder

/-! ## Small trees -/

section

open scoped Spelled

attribute [local simp] signIf Token.group Reader.listTokens_eq_flatMap Reader.commaSeparated_singleton

theorem literalValues_inherent (type : String) (members : List Member) :
    literalValues (implementation none type members).tokens =
      members.flatMap fun m => literalValues m.tokens := by
  rw [tokens_inherent]
  simp

theorem literalValues_interface (interface : TypeExpr) (type : String) (members : List Member) :
    literalValues (implementation (some interface) type members).tokens =
      literalValues interface.tokens ++ members.flatMap fun m => literalValues m.tokens := by
  rw [tokens_interface]
  simp

theorem literalValues_result (value : Expr) :
    literalValues (Statement.listTokens [.expr value false]) = literalValues value.tokens := by
  simp

theorem literalValues_select (subject : String) (arms : List Arm) :
    literalValues (Expr.select (.names [subject]) [] arms).tokens =
      arms.flatMap fun a => literalValues a.tokens := by
  simp

theorem literalValues_arm (pattern : Pattern) (value : Expr) :
    literalValues (Arm.plain pattern value).tokens =
      literalValues pattern.tokens ++ literalValues value.tokens := by
  simp

theorem literalValues_unitPattern (variant : String) :
    literalValues (unitPattern variant).tokens = [] := by
  simp [unitPattern]

theorem literalValues_carrier (variant holder : String) :
    literalValues (carrier variant holder).tokens = [] := by
  simp [carrier]

theorem literalValues_getter {documentation : String}
    (hdocumentation : ∀ c ∈ documentation.toList, c ≠ '"' ∧ c ≠ '\r') (hne : documentation ≠ "")
    (constant : Bool) (name : String) {result : TypeExpr}
    (hresult : literalValues result.tokens = []) (body : Expr) :
    literalValues (getter .everyone constant documentation name result body).tokens =
      some documentation :: literalValues body.tokens := by
  have hvalue := stringValue?_raw hdocumentation
  cases constant <;> simp [getter, hne, hvalue, hresult]

theorem literalValues_displayImpl (type : String) (body : Expr) :
    literalValues (displayImpl type body).tokens = literalValues body.tokens := by
  rw [displayImpl, literalValues_interface]
  simp [formatter, Reader.commaSeparated_cons]

theorem literalValues_routine (strategy : Strategy) (body : List Statement) :
    literalValues (routine (documentation strategy) body).tokens =
      (documentation strategy).map some ++ literalValues (Statement.listTokens body) := by
  have hsignature : literalValues (routineSignature strategy).tokens =
      (documentation strategy).map some := by
    cases strategy <;> rfl
  rw [tokens_routine, literalValues_append, hsignature]
  simp

theorem literalValues_constantDeclaration (d : Declared) :
    literalValues (constantDeclaration d).tokens = [some d.name] := by
  simp [constantDeclaration]

theorem literalValues_optionSetRecord (type expected : String) :
    literalValues (optionSetRecord type expected).tokens =
      [" Identifiers of the errors declared by the service model", "",
        " Expected to conform to `" ++ expected ++ "`."].map some := by
  simp +decide [optionSetRecord, staticReference]

theorem literalValues_allFunction (names : List String) :
    literalValues (allFunction names).tokens = [some " Every declared error identifier"] := by
  have hconstants : literalValues (commaSeparated (Expr.listTokens
      ((declaredFor names).map fun d => .names ["Self", d.constant]))) = [] := by
    refine literalValues_commaSeparated fun part hpart => ?_
    rw [Reader.listTokens_eq_map, List.map_map] at hpart
    obtain ⟨d, -, rfl⟩ := List.mem_map.mp hpart
    simp
  have hsignature : literalValues allSignature.tokens =
      [some " Every declared error identifier"] := rfl
  rw [Function.tokens, literalValues_append]
  show literalValues allSignature.tokens ++ _ = _
  rw [hsignature, allFunction, Statement.listTokens, Statement.tokens, Expr.tokens, Expr.tokens]
  simp [hconstants, allSignature, -Expr.names]

theorem literalValues_conformanceImpl (conformance : Conformance) (type : String) :
    literalValues ((conformanceImpl conformance type).flatMap Item.tokens) = [] := by
  cases conformance with
  | none => rfl
  | display =>
    rw [conformanceImpl, List.flatMap_singleton, literalValues_displayImpl]
    simp [writeText, description]
  | custom library interface =>
    rw [conformanceImpl, List.flatMap_singleton, literalValues_interface]
    simp [getter, description]

theorem literalValues_declaredVariant (d : Declared) :
    literalValues (declaredVariant d).tokens = [some (" The `" ++ d.name ++ "` error")] := by
  simp [declaredVariant]

theorem literalValues_enumeration (type : String) (serializable : Bool) (variants : List Variant) :
    literalValues (Item.enumeration
        { attributes := [.doc " Errors declared by the service model", derives serializable]
          visibility := .everyone
          name := type } variants).tokens =
      some " Errors declared by the service model" ::
        variants.flatMap fun v => literalValues v.tokens := by
  cases serializable <;> simp +decide [derives, -Variant.tokens]

theorem literalValues_writeText (text : String) :
    literalValues (writeText (.literal (Text.quote text))).tokens = [some text] := by
  simp [writeText]

theorem literalValues_writeLabelled (variant holder : String) :
    literalValues (writeLabelled variant holder).tokens = [some (variant ++ ": \x7b\x7d")] := by
  simp [writeLabelled]

theorem literalValues_test (c : Case) : literalValues (test c).tokens = [some c.name] := by
  simp [test, unitValue, Operator.text]

end

theorem literalValues_quote (text : String) :
    literalValues (Expr.literal (Text.quote text)).tokens = [some text] := by
  rw [Expr.tokens, literalValues_literal, stringValue?_quote]
  rfl

theorem literalValues_ofNames (names : List String) :
    literalValues (Import.ofNames names).tokens = [] := by
  induction names with
  | nil => rfl
  | cons name names ih =>
    by_cases hlast : names = []
    · rw [hlast]
      rfl
    · rw [tokens_ofNames_cons hlast]
      exact ih

theorem literalValues_conformanceImport (library : Path) (interface : String) :
    literalValues (conformanceImport library interface).tokens = [] := by
  have hroot : literalValues (signIf library.absolute "::") = [] := by
    cases library.absolute <;> rfl
  rw [conformanceImport, ← List.append_nil (Item.tokens _), Reader.tokens_use, literalValues_ident,
    literalValues_append, hroot, literalValues_append, literalValues_ofNames]
  rfl

theorem flatMap_values {α : Type} {text : α → String} {values : α → List (Option String)}
    (h : ∀ a, values a = [some (text a)]) (list : List α) :
    list.flatMap values = (list.map text).map some := by
  rw [List.map_map, List.map_eq_flatMap, funext h]
  rfl

theorem flatMap_declaredFor (text : String → String) {values : Declared → List (Option String)}
    (h : ∀ d, values d = [some (text d.name)]) (names : List String) :
    (declaredFor names).flatMap values = (names.map text).map some := by
  rw [flatMap_values h]
  simp [declaredFor, Function.comp_def]

/-! ## Blocks -/

def optionSetTexts (expected : String) (names : List String) : List String :=
  [" Identifiers of the errors declared by the service model", "",
    " Expected to conform to `" ++ expected ++ "`."] ++ names ++
    [" Every declared error identifier", " Wire identifier of the error"]

def enumTexts (policy : Policy) (names : List String) : List String :=
  " Errors declared by the service model" ::
      names.map (fun name => " The `" ++ name ++ "` error") ++
    (if policy.validation then [" The request failed validation; carries the wire identifier"]
      else []) ++
    [" An error identifier the model does not declare"]

def routineTexts (strategy : Strategy) (policy : Policy) (names : List String) : List String :=
  (if policy.validation then
    " Whether a wire error identifier denotes a validation error" ::
      (validationTokens ++ validationStarts)
    else []) ++ documentation strategy ++ names

def accessorTexts (names : List String) : List String :=
  " Wire identifier of the error" :: names ++
    [" Declared error identifier, if the error is one the model declares"]

def displayTexts (policy : Policy) (unknown : String) (names : List String) : List String :=
  names ++ (if policy.validation then [Policy.validationVariant ++ ": \x7b\x7d"] else []) ++
    [unknown ++ ": \x7b\x7d"]

/-- The texts placed into each block of a module: wire identifiers and documentation. -/
def texts (strategy : Strategy) (policy : Policy) (unknown : String) (names : List String) :
    List (List String) :=
  (importItems policy.conformance).map (fun _ => []) ++
    [optionSetTexts policy.conformance.expected names, enumTexts policy names, [],
      routineTexts strategy policy names, accessorTexts names, []] ++
    if policy.display then [displayTexts policy unknown names] else []

theorem literalValues_importItems (conformance : Conformance) :
    ((importItems conformance).map Item.tokens).map literalValues =
      (importItems conformance).map fun _ => [] := by
  cases conformance with
  | display => rfl
  | none => rfl
  | custom library interface =>
    rw [List.map_map]
    refine List.map_congr_left fun item hitem => ?_
    obtain ⟨path, -, rfl⟩ := List.mem_map.mp hitem
    exact literalValues_conformanceImport path interface

section

variable (policy : Policy) (expected : String) (model : Model) (unknown : String)

theorem literalValues_optionSet :
    literalValues ((optionSet (namesFor model policy unknown) policy.conformance expected
        (declaredFor model.sortedNames)).flatMap Item.tokens) =
      (optionSetTexts expected model.sortedNames).map some := by
  have hconstants := flatMap_declaredFor id literalValues_constantDeclaration model.sortedNames
  have hgetter : literalValues (getter .everyone true " Wire identifier of the error" "description"
      (staticReference (.named "str")) description).tokens =
        [some " Wire identifier of the error"] := rfl
  rw [optionSet_eq, List.flatMap_append, literalValues_append, literalValues_conformanceImpl,
    List.flatMap_cons, literalValues_append, literalValues_optionSetRecord,
    List.flatMap_singleton, literalValues_inherent, optionSetMembers, List.flatMap_append,
    List.flatMap_map, hconstants]
  simp only [List.flatMap_cons, List.flatMap_nil, Member.tokens.eq_1, literalValues_allFunction,
    hgetter]
  simp [optionSetTexts]

theorem literalValues_errorEnum :
    literalValues (errorEnum (namesFor model policy unknown) policy.serializable
        (declaredFor model.sortedNames)).tokens =
      (enumTexts policy model.sortedNames).map some := by
  have hdeclared := flatMap_declaredFor (fun name => " The `" ++ name ++ "` error")
    literalValues_declaredVariant model.sortedNames
  have hvalidation : ∀ variant, literalValues (carryingVariant
      " The request failed validation; carries the wire identifier" variant).tokens =
        [some " The request failed validation; carries the wire identifier"] := fun _ => rfl
  have hunknown : ∀ variant, literalValues (carryingVariant
      " An error identifier the model does not declare" variant).tokens =
        [some " An error identifier the model does not declare"] := fun _ => rfl
  rw [errorEnum_eq, literalValues_enumeration, errorVariants, List.flatMap_append,
    List.flatMap_append, List.flatMap_map, List.flatMap_map, hdeclared]
  unfold enumTexts namesFor
  cases policy.validation <;> simp [hvalidation, hunknown]

theorem literalValues_lookup (strategy : Strategy) (cases : List Case) :
    literalValues (Statement.listTokens (lookup strategy cases unknown)) =
      (cases.map Case.name).map some := by
  cases strategy with
  | matching =>
    have hcase : ∀ c : Case, literalValues (Arm.plain (.literal (Text.quote c.name))
        (unitValue c.variant)).tokens = [some c.name] := by
      intro c
      rw [literalValues_arm]
      simp [Pattern.tokens]
      rfl
    have hother : literalValues (Arm.plain (.binding "other") (carrying unknown "other")).tokens =
        [] := rfl
    rw [lookup, literalValues_result, literalValues_select]
    rw [List.flatMap_append, List.flatMap_map, flatMap_values hcase, List.flatMap_singleton, hother,
      List.append_nil]
  | chain =>
    induction cases with
    | nil => rfl
    | cons c cases ih =>
      show literalValues ((test c).tokens ++ Statement.listTokens (lookup .chain cases unknown)) = _
      rw [literalValues_append, literalValues_test, ih]
      rfl

theorem literalValues_members (strategy : Strategy) (names : List String) :
    literalValues ((members strategy policy (casesFor names) unknown).flatMap Member.tokens) =
      (routineTexts strategy policy names).map some := by
  have hhelper : literalValues validationHelper.tokens =
      (" Whether a wire error identifier denotes a validation error" ::
        (validationTokens ++ validationStarts)).map some := rfl
  have hcheck : literalValues validationCheck.tokens = [] := rfl
  have hnames : (casesFor names).map Case.name = names := by
    simp [casesFor, Function.comp_def]
  unfold members routineTexts
  split
  · simp only [List.flatMap_cons, List.flatMap_nil, literalValues_append, hhelper,
      literalValues_routine, Statement.listTokens, hcheck, literalValues_lookup, hnames]
    simp
  · simp only [List.flatMap_cons, List.flatMap_nil, literalValues_append,
      literalValues_routine, literalValues_lookup, hnames]
    simp

theorem literalValues_declaredArms (names : List String) {result : Declared → Expr}
    {text : String → String}
    (h : ∀ d, literalValues (result d).tokens = [some (text d.name)]) :
    (declaredArms names result).flatMap (fun a => literalValues a.tokens) =
      (names.map text).map some := by
  rw [declaredArms, List.flatMap_map]
  refine flatMap_declaredFor text (fun d => ?_) names
  rw [literalValues_arm, literalValues_unitPattern, h, List.nil_append]

theorem literalValues_nameArms :
    (nameArms policy model unknown).flatMap (fun a => literalValues a.tokens) =
      model.sortedNames.map some := by
  have hquote : ∀ d : Declared, literalValues (Expr.literal (Text.quote d.name)).tokens =
      [some (id d.name)] := fun d => literalValues_quote d.name
  have hdeclared := literalValues_declaredArms model.sortedNames hquote
  have hcarrier : ∀ variant, literalValues (Arm.plain (carrier variant "error_type")
      (.method (.names ["error_type"]) "as_str" [])).tokens = [] := fun _ => rfl
  rw [nameArms, List.flatMap_append, List.flatMap_append, hdeclared, List.flatMap_map]
  simp [hcarrier]

theorem literalValues_optionArms :
    (optionArms model).flatMap (fun a => literalValues a.tokens) = [] := by
  have hdeclared : ∀ d : Declared, literalValues (Expr.call (.names ["Some"])
      [.names [model.optionSetType, d.constant]]).tokens = [] := fun _ => rfl
  have hnone : literalValues (Arm.plain .wildcard (.names ["None"])).tokens = [] := rfl
  rw [optionArms, List.flatMap_append, declaredArms, List.flatMap_map]
  simp [literalValues_arm, literalValues_unitPattern, hdeclared, hnone]

theorem literalValues_accessors :
    literalValues ((accessors (namesFor model policy unknown)
        (declaredFor model.sortedNames)).flatMap Member.tokens) =
      (accessorTexts model.sortedNames).map some := by
  have hname : literalValues (getter .everyone false " Wire identifier of the error"
      "error_type_name" .text
      (.select (.names ["self"]) [] (nameArms policy model unknown))).tokens =
        some " Wire identifier of the error" :: literalValues
          (Expr.select (.names ["self"]) [] (nameArms policy model unknown)).tokens :=
    literalValues_getter (by decide) (by decide) _ _ rfl _
  have hoption : literalValues (getter .everyone false
      " Declared error identifier, if the error is one the model declares" "error_type"
      (.path (.plain false [.mk "Option" (.angled [.type (.named model.optionSetType)])]))
      (.select (.names ["self"]) [] (optionArms model))).tokens =
        some " Declared error identifier, if the error is one the model declares" :: literalValues
          (Expr.select (.names ["self"]) [] (optionArms model)).tokens :=
    literalValues_getter (by decide) (by decide) _ _ rfl _
  rw [accessors_eq, List.flatMap_cons, List.flatMap_singleton, literalValues_append, hname, hoption,
    literalValues_select, literalValues_select, literalValues_nameArms, literalValues_optionArms]
  simp [accessorTexts]

theorem literalValues_display :
    literalValues ((display (namesFor model policy unknown)
        (declaredFor model.sortedNames)).flatMap Item.tokens) =
      (displayTexts policy unknown model.sortedNames).map some := by
  have htext : ∀ d : Declared, literalValues (writeText (.literal (Text.quote d.name))).tokens =
      [some (id d.name)] := fun d => literalValues_writeText d.name
  have hdeclared := literalValues_declaredArms model.sortedNames htext
  have hlabelled : ∀ variant holder, literalValues (Arm.plain (carrier variant holder)
      (writeLabelled variant holder)).tokens = [some (variant ++ ": \x7b\x7d")] := by
    intro variant holder
    rw [literalValues_arm, literalValues_carrier, literalValues_writeLabelled, List.nil_append]
  have herror : literalValues (implementation (some (.names ["std", "error", "Error"]))
      model.errorType []).tokens = [] := rfl
  rw [display_eq, List.flatMap_cons, List.flatMap_singleton, literalValues_append,
    literalValues_displayImpl, literalValues_select, displayArms, List.flatMap_append,
    List.flatMap_append, hdeclared, herror, List.flatMap_map, List.flatMap_singleton, hlabelled]
  unfold displayTexts namesFor
  cases policy.validation <;> simp [hlabelled]

end

/-! ## All blocks -/

theorem map_literalValues_partsOf (strategy : Strategy) (policy : Policy) (model : Model)
    (unknown : String) :
    (partsOf strategy policy (namesFor model policy unknown) policy.conformance.expected
        (declaredFor model.sortedNames)).map literalValues =
      (texts strategy policy unknown model.sortedNames).map (List.map some) := by
  have hcases : ((declaredFor model.sortedNames).map fun d => (⟨d.name, d.variant⟩ : Case)) =
      casesFor model.sortedNames := List.map_map
  have hempty : (importItems policy.conformance).map (fun _ => ([] : List (Option String))) =
      ((importItems policy.conformance).map fun _ => ([] : List String)).map (List.map some) := by
    rw [List.map_map]
    rfl
  have hmembers := literalValues_members policy unknown strategy model.sortedNames
  unfold partsOf texts
  rw [hcases, List.map_append, List.map_append, literalValues_importItems, hempty]
  split <;>
    simp only [List.map_append, List.map_cons, List.map_nil, literalValues_optionSet,
      literalValues_errorEnum, literalValues_accessors, literalValues_display,
      show (namesFor model policy unknown).unknown = unknown from rfl, hmembers] <;>
    rfl

/-- The shapes of the blocks of a module for errors with the given variants and constants. -/
def shapes (strategy : Strategy) (policy : Policy) (types : TypeNames)
    (identifiers : List (String × String)) : List (List Token) :=
  (partsOf strategy policy types "" (identifiers.map fun i => ⟨"", i.1, i.2⟩)).map shape

theorem map_unnamed_declaredFor (names : List String) :
    (declaredFor names).map unnamed =
      (names.map fun name => (variantName name, constantName name)).map fun i =>
        ⟨"", i.1, i.2⟩ := by
  rw [declaredFor, List.map_map, List.map_map]
  rfl

/-- **No text leaves its literal.** The blocks of an emitted module are read as tokens whose shape
is determined by identifiers, and the values of their literals are the texts placed into them. -/
theorem emit_texts_in_literals {strategy : Strategy} {target : String} {policy : Policy}
    {model : Model} {unknown : String}
    (h : (emit (strategy.delegate target policy) model unknown).result = .ok ()) :
    ∃ parts : List (List Token),
      (emit (strategy.delegate target policy) model unknown).blocks.map lex? = parts.map some ∧
        parts.map shape = shapes strategy policy (namesFor model policy unknown)
          (model.sortedNames.map fun name => (variantName name, constantName name)) ∧
        parts.map literalValues =
          (texts strategy policy unknown model.sortedNames).map (List.map some) := by
  obtain ⟨hblocks, hlegible⟩ := blocks_of_emitted h
  refine ⟨_, ?_, ?_, map_literalValues_partsOf strategy policy model unknown⟩
  · rw [hblocks, map_lex?_render hlegible]
  · rw [map_shape_partsOf, map_unnamed_declaredFor]
    rfl

/-- A name with a quote, a backslash, a line break, the end of a comment and a digit after NUL. -/
theorem emit_texts_in_literals_escaped :
    (emit (Strategy.matching.delegate "rust" ⟨.none, false, true, true⟩)
        ⟨"Example", ["Re\"set\\\n*/ at\x00\x37"]⟩ "UnknownError").result = .ok () ∧
      ∃ parts : List (List Token),
        (emit (Strategy.matching.delegate "rust" ⟨.none, false, true, true⟩)
          ⟨"Example", ["Re\"set\\\n*/ at\x00\x37"]⟩ "UnknownError").blocks.map lex? =
            parts.map some ∧
          parts.map shape = shapes .matching ⟨.none, false, true, true⟩
            ⟨"ExampleError", "ExampleErrorTypes", "UnknownError", some "ValidationError"⟩
            [("ReSetAt7", "RE_SET_AT_7")] ∧
          (parts.map literalValues).getLast? = some
            [some "Re\"set\\\n*/ at\x00\x37", some "ValidationError: \x7b\x7d",
              some "UnknownError: \x7b\x7d"] := by
  have hresult : (emit (Strategy.matching.delegate "rust" ⟨.none, false, true, true⟩)
      ⟨"Example", ["Re\"set\\\n*/ at\x00\x37"]⟩ "UnknownError").result = .ok () := by
    rw [result_emit]
    unfold stage
    dsimp only
    rw [sortedNames_singleton]
    rfl
  obtain ⟨parts, hread, hshape, hvalues⟩ := emit_texts_in_literals hresult
  rw [sortedNames_singleton] at hshape hvalues
  refine ⟨hresult, parts, hread, hshape.trans ?_, ?_⟩
  · rfl
  · rw [hvalues]
    rfl

end ErrorModule

end WireErrors
