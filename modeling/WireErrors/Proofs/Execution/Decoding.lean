import WireErrors.Proofs.Execution.Enumerations
import WireErrors.Proofs.Source.Literals

/-!
# Running decode routines

Both shapes of the routine look a wire identifier up in the same way: the value is that of the first
case of the name, and that of an unknown error without one (`bodyValue?_lookup`). The emitted test for
validation errors is `isValidationToken` (`exists_helper`). `HasRoutine.run?_eq` puts the two
together: a routine gives `decoded` where its names stand for what they are meant for, and nothing
anywhere else.
-/

namespace WireErrors

open Source

/-! ## Names in expressions -/

theorem Source.Expr.value?_variable (scope : Scope) (locals : Variables) {name : String}
    (hname : name ≠ "None") :
    (Expr.names [name]).value? scope locals = locals.lookup name := by
  show (if name = "None" then _ else locals.lookup name) = _
  rw [if_neg hname]

namespace Decoder

variable {scope : Scope} {locals : Variables} {token : String}

theorem variant?_of_constructs {type name : String} {fields : List Value}
    (h : scope.constructs type name fields.length = true) :
    scope.variant? type name fields = some (.variant type name fields) := if_pos h

theorem value?_unitValue (locals : Variables) {variant : String}
    (h : scope.constructs scope.self variant 0 = true) :
    (unitValue variant).value? scope locals = some (.variant scope.self variant []) := by
  have hdeclared : (scope.variantNamed? scope.self variant).isSome = true := by
    unfold Scope.constructs at h
    cases hvariant : scope.variantNamed? scope.self variant with
    | none => simp [hvariant] at h
    | some v => rfl
  show (if (scope.variantNamed? scope.self variant).isSome then
    scope.variant? scope.self variant [] else scope.constant? scope.self variant) = _
  rw [if_pos hdeclared]
  exact variant?_of_constructs h

theorem value?_carrying {variant holder : String} (hholder : holder ≠ "None")
    (h : scope.constructs scope.self variant 1 = true)
    (htext : locals.lookup holder = some (.text token)) :
    (carrying variant holder).value? scope locals =
      some (.variant scope.self variant [.text token]) := by
  have hcopy : (Expr.method (.names [holder]) "to_string" []).value? scope locals =
      some (.text token) := by
    rw [Expr.value?, Expr.value?_variable scope locals hholder, htext]
    rfl
  rw [carrying, Expr.value?, Expr.listValues?, hcopy]
  exact variant?_of_constructs h

/-! ## The lookup -/

/-- The value of a lookup among cases. -/
def found (type : String) (cases : List Case) (unknown token : String) : Value :=
  match cases.find? (·.name == token) with
  | some c => .variant type c.variant []
  | none => .variant type unknown [.text token]

theorem found_cons (type : String) (c : Case) (cases : List Case) (unknown token : String) :
    found type (c :: cases) unknown token =
      if c.name = token then .variant type c.variant [] else found type cases unknown token := by
  unfold found
  rw [List.find?_cons]
  by_cases h : c.name = token
  · rw [if_pos h, beq_iff_eq.mpr h]
  · rw [if_neg h, beq_eq_false_iff_ne.mpr h]

/-- The variants that a lookup builds. -/
structure Builds (scope : Scope) (cases : List Case) (unknown : String) : Prop where
  declared : ∀ c ∈ cases, scope.constructs scope.self c.variant 0 = true
  unknown : scope.constructs scope.self unknown 1 = true

variable {cases : List Case} {unknown : String}

theorem Builds.tail {c : Case} (h : Builds scope (c :: cases) unknown) : Builds scope cases unknown :=
  ⟨fun other hother => h.declared other (List.mem_cons_of_mem _ hother), h.unknown⟩

theorem firstValue?_arms (h : Builds scope cases unknown) (token : String) :
    Arm.firstValue? scope locals (.text token)
        (cases.map (fun c => .plain (.literal (Text.quote c.name)) (unitValue c.variant)) ++
          [.plain (.binding "other") (carrying unknown "other")]) =
      some (found scope.self cases unknown token) := by
  induction cases with
  | nil =>
    show (carrying unknown "other").value? scope (("other", .text token) :: locals) = _
    exact value?_carrying (by decide) h.unknown rfl
  | cons c cases ih =>
    have hpattern : (Pattern.literal (Text.quote c.name)).bindings? scope (.text token) =
        some (if c.name = token then some [] else none) := by
      rw [Pattern.bindings?, literalValue?_quote]
      rfl
    rw [found_cons, List.map_cons, List.cons_append, Arm.firstValue?, hpattern]
    by_cases hname : c.name = token
    · rw [if_pos hname, if_pos hname]
      exact value?_unitValue _ (h.declared c List.mem_cons_self)
    · rw [if_neg hname, if_neg hname]
      exact ih h.tail

/-- A statement that other ones follow is passed, or the value is the one it leaves with. -/
theorem bodyValue?_cons (statement : Statement) {rest : List Statement} (hrest : rest ≠ []) :
    Statement.bodyValue? scope locals (statement :: rest) =
      (statement.leaves? scope locals).bind fun result =>
        result.or (Statement.bodyValue? scope locals rest) := by
  rw [Statement.bodyValue?]
  · cases statement.leaves? scope locals with
    | none => rfl
    | some result => cases result <;> rfl
  · intro _ _ hnil
    exact hrest hnil

theorem leaves?_conditional {condition result : Expr} {holds : Bool}
    (hcondition : condition.holds? scope locals = some holds) :
    (Statement.expr (.conditional condition [.expr (.giveBack (some result)) true] .none)
        false).leaves? scope locals =
      if holds then (result.value? scope locals).map some else some none := by
  rw [Statement.leaves?, hcondition]
  cases holds with
  | false => rfl
  | true =>
    show Statement.listLeaves? scope locals [.expr (.giveBack (some result)) true] = _
    rw [Statement.listLeaves?, Statement.leaves?]
    cases result.value? scope locals <;> rfl

theorem bodyValue?_tests (h : Builds scope cases unknown)
    (htext : locals.lookup "error_type" = some (.text token)) :
    Statement.bodyValue? scope locals (lookup .chain cases unknown) =
      some (found scope.self cases unknown token) := by
  induction cases with
  | nil => exact value?_carrying (by decide) h.unknown htext
  | cons c cases ih =>
    have hcondition : (Expr.binary .equal (.names ["error_type"])
        (.literal (Text.quote c.name))).holds? scope locals = some (token == c.name) := by
      rw [Expr.holds?, Expr.value?_variable scope locals (by decide), htext, Expr.value?,
        literalValue?_quote]
      rfl
    have hrest : lookup .chain cases unknown ≠ [] := by simp [lookup]
    rw [found_cons]
    show Statement.bodyValue? scope locals (_ :: lookup .chain cases unknown) = _
    rw [bodyValue?_cons _ hrest, leaves?_conditional hcondition, ih h.tail,
      value?_unitValue locals (h.declared c List.mem_cons_self)]
    by_cases hname : c.name = token
    · rw [if_pos hname, if_pos (beq_iff_eq.mpr hname.symm)]
      rfl
    · rw [if_neg hname, if_neg fun hequal => hname (beq_iff_eq.mp hequal).symm]
      rfl

/-- **Both shapes of the lookup find the first case of a name.** -/
theorem bodyValue?_lookup (strategy : Strategy) (h : Builds scope cases unknown)
    (htext : locals.lookup "error_type" = some (.text token)) :
    Statement.bodyValue? scope locals (lookup strategy cases unknown) =
      some (found scope.self cases unknown token) := by
  cases strategy with
  | chain => exact bodyValue?_tests h htext
  | matching =>
    rw [lookup, Statement.bodyValue?, Expr.value?, Expr.value?_variable scope locals (by decide),
      htext]
    exact firstValue?_arms h token

/-! ## The test for validation errors -/

theorem holds?_startsWith (start : String)
    (htext : locals.lookup "error_type" = some (.text token)) :
    (startsWith start).holds? scope locals =
      some (start.toList.isPrefixOf token.toList) := by
  rw [startsWith, Expr.holds?, Expr.value?_variable scope locals (by decide), htext]
  rw [Expr.listValues?, Expr.value?, literalValue?_quote]
  rfl

/-- Tests that are joined to a condition hold where one of them does. -/
theorem holds?_joined (htext : locals.lookup "error_type" = some (.text token))
    (starts : List String) {first : Expr} {holds : Bool}
    (hfirst : first.holds? scope locals = some holds) :
    (starts.foldl (fun tests start => .binary .or tests (startsWith start)) first).holds?
        scope locals =
      some (holds || starts.any fun start => start.toList.isPrefixOf token.toList) := by
  induction starts generalizing first holds with
  | nil => rw [List.foldl_nil, hfirst, List.any_nil, Bool.or_false]
  | cons start starts ih =>
    have hjoined : (Expr.binary .or first (startsWith start)).holds? scope locals =
        some (holds || start.toList.isPrefixOf token.toList) := by
      rw [Expr.holds?, hfirst]
      cases holds with
      | true => rfl
      | false => exact holds?_startsWith start htext
    rw [List.foldl_cons, ih hjoined, List.any_cons, Bool.or_assoc]

theorem alternativeTexts?_alternatives {texts : List String} (hne : texts ≠ []) :
    alternativeTexts? (alternatives texts) = some texts := by
  induction texts with
  | nil => exact absurd rfl hne
  | cons text rest ih =>
    cases rest with
    | nil =>
      show (Text.literalValue? (Text.quote text)).map _ = _
      rw [literalValue?_quote]
      rfl
    | cons second rest =>
      have hshape : alternatives (text :: second :: rest) =
          .literal (Text.quote text) :: .mark '|' false :: alternatives (second :: rest) := by
        simp [alternatives, List.intercalate, Token.text, Token.sign, Token.sign.go]
      rw [hshape, alternativeTexts?, literalValue?_quote, ih (List.cons_ne_nil _ _)]

/-- **The emitted test for validation errors is the one of the generator.** -/
theorem exists_helper : ∃ helper, validationHelper = .function helper ∧
    helper.name = "is_validation_error" ∧
    ∀ scope token, helper.holds? scope [.text token] = some (isValidationToken token) := by
  refine ⟨_, rfl, rfl, fun scope token => ?_⟩
  have halternatives : alternativeTexts? (alternatives validationTokens) = some validationTokens :=
    alternativeTexts?_alternatives (by decide)
  have hmatches : (Expr.invocation ⟨false, ["matches"]⟩ .paren
      (.ident "error_type" :: Token.sign "," ++ alternatives validationTokens)).holds? scope
        [("error_type", .text token)] = some (validationTokens.contains token) := by
    show matches? _ (.ident "error_type" :: .mark ',' false :: alternatives validationTokens) = _
    rw [matches?, halternatives]
    rfl
  exact holds?_joined rfl validationStarts hmatches

/-! ## The routine -/

/-- Whether a wire identifier is decoded as a validation error. -/
def captures (policy : Policy) (token : String) : Bool :=
  policy.validation && isValidationToken token

/-- What a wire identifier is decoded to, as a value of a type. -/
def decoded (type : String) (policy : Policy) (names : List String) (unknown token : String) :
    Value :=
  if captures policy token then
    .variant type Policy.validationVariant [.text token]
  else if token ∈ names then .variant type (variantName token) []
  else .variant type unknown [.text token]

section

variable {type : String} {policy : Policy} {names : List String} {unknown : String}

theorem decoded_of_captures (h : captures policy token = true) :
    decoded type policy names unknown token =
      .variant type Policy.validationVariant [.text token] := if_pos h

theorem decoded_of_mem (h : captures policy token = false) (htoken : token ∈ names) :
    decoded type policy names unknown token = .variant type (variantName token) [] := by
  rw [decoded, h, if_neg Bool.false_ne_true, if_pos htoken]

theorem validation_of_captures (h : captures policy token = true) : policy.validation = true :=
  (Bool.and_eq_true_iff.mp h).1

theorem reserved_of_validation (hvalidation : policy.validation = true) :
    policy.reserved = [Policy.validationVariant] := if_pos hvalidation

theorem validationVariant_undeclared (haccepted : NamesAccepted names unknown policy.reserved)
    (hvalidation : policy.validation = true) :
    Policy.validationVariant ∉ names.map variantName := by
  intro hmem
  obtain ⟨name, hname, hequal⟩ := List.mem_map.mp hmem
  refine haccepted.variants_unreserved name hname ?_
  rw [reserved_of_validation hvalidation, hequal]
  exact List.mem_singleton_self _

end

theorem found_casesFor (type : String) (names : List String) (unknown token : String) :
    found type (casesFor names) unknown token =
      if token ∈ names then .variant type (variantName token) []
      else .variant type unknown [.text token] := by
  induction names with
  | nil => rfl
  | cons name names ih =>
    show found type (⟨name, variantName name⟩ :: casesFor names) unknown token = _
    rw [found_cons]
    by_cases h : name = token
    · rw [if_pos h, if_pos (h ▸ List.mem_cons_self), ← h]
    · have hmem : token ∈ name :: names ↔ token ∈ names := by
        rw [List.mem_cons, or_iff_right (Ne.symm h)]
      rw [if_neg h, ih]
      simp only [hmem]

/-- What a scope has to offer to a routine: the variants that the routine builds, and the test that it
calls. -/
structure Serves (scope : Scope) (policy : Policy) (names : List String) (unknown : String) :
    Prop where
  builds : Builds scope (casesFor names) unknown
  validation : policy.validation = true →
    scope.constructs scope.self Policy.validationVariant 1 = true
  tests : policy.validation = true → ∀ token,
    scope.test? scope.self "is_validation_error" [.text token] = some (isValidationToken token)

theorem Serves.declared {policy : Policy} {names : List String} {unknown : String}
    (h : Serves scope policy names unknown) :
    ∀ name ∈ names, scope.constructs scope.self (variantName name) 0 = true := fun name hname =>
  h.builds.declared ⟨name, variantName name⟩ (List.mem_map_of_mem hname)

theorem holds?_helperCall (htext : locals.lookup "error_type" = some (.text token)) :
    (Expr.call (.names ["Self", "is_validation_error"]) [.names ["error_type"]]).holds? scope
        locals = scope.test? scope.self "is_validation_error" [.text token] := by
  rw [Expr.holds?, Expr.listValues?, Expr.value?_variable scope locals (by decide), htext]
  rfl

theorem leaves?_validationCheck {policy : Policy} {names : List String} {unknown : String}
    (hserves : Serves scope policy names unknown) (hvalidation : policy.validation = true)
    (htext : locals.lookup "error_type" = some (.text token)) :
    validationCheck.leaves? scope locals =
      some (if isValidationToken token then
        some (.variant scope.self Policy.validationVariant [.text token]) else none) := by
  have hcondition := (holds?_helperCall htext).trans (hserves.tests hvalidation token)
  rw [validationCheck, leaves?_conditional hcondition,
    value?_carrying (by decide) (hserves.validation hvalidation) htext]
  cases isValidationToken token <;> rfl

/-- The statements of a routine. -/
def body (strategy : Strategy) (policy : Policy) (names : List String) (unknown : String) :
    List Statement :=
  (if policy.validation then [validationCheck] else []) ++
    lookup strategy (casesFor names) unknown

theorem body_of_validation (strategy : Strategy) {policy : Policy}
    (hvalidation : policy.validation = true) (names : List String) (unknown : String) :
    body strategy policy names unknown =
      validationCheck :: lookup strategy (casesFor names) unknown := by
  rw [body, if_pos hvalidation, List.singleton_append]

theorem lookup_ne_nil (strategy : Strategy) (cases : List Case) (unknown : String) :
    lookup strategy cases unknown ≠ [] := by
  cases strategy <;> simp [lookup]

/-- **The statements of both routines give `decoded`.** -/
theorem bodyValue?_body {policy : Policy} {names : List String} {unknown : String}
    (strategy : Strategy) (hserves : Serves scope policy names unknown)
    (htext : locals.lookup "error_type" = some (.text token)) :
    Statement.bodyValue? scope locals (body strategy policy names unknown) =
      some (decoded scope.self policy names unknown token) := by
  have hlookup := bodyValue?_lookup strategy hserves.builds htext
  rw [found_casesFor] at hlookup
  unfold decoded captures
  by_cases hvalidation : policy.validation = true
  · rw [body_of_validation strategy hvalidation, bodyValue?_cons _ (lookup_ne_nil strategy _ unknown),
      leaves?_validationCheck hserves hvalidation htext, hlookup, hvalidation, Bool.true_and]
    cases isValidationToken token <;> rfl
  · rw [Bool.not_eq_true] at hvalidation
    simp only [body, hvalidation, Bool.false_and]
    exact hlookup

theorem bodyValue?_of_no_test {policy : Policy} (strategy : Strategy)
    (hvalidation : policy.validation = true)
    (htest : scope.test? scope.self "is_validation_error" [.text token] = none)
    (htext : locals.lookup "error_type" = some (.text token)) (names : List String)
    (unknown : String) :
    Statement.bodyValue? scope locals (body strategy policy names unknown) = none := by
  have hcheck : validationCheck.leaves? scope locals = none := by
    rw [validationCheck, Statement.leaves?, holds?_helperCall htext, htest]
  rw [body_of_validation strategy hvalidation, bodyValue?_cons _ (lookup_ne_nil strategy _ unknown), hcheck]
  rfl

theorem exists_routine (documentation : List String) (body : List Statement) :
    ∃ f, routine documentation body = .function f ∧ f.name = "from_error_type" ∧
      f.parameters = [.named "error_type" .text] ∧ f.body = body :=
  ⟨_, rfl, rfl, rfl, rfl⟩

/-! ## Types with a routine -/

theorem members_eq (strategy : Strategy) (policy : Policy) (names : List String)
    (unknown : String) :
    members strategy policy (casesFor names) unknown =
      (if policy.validation then [validationHelper] else []) ++
        [routine (documentation strategy) (body strategy policy names unknown)] := by
  unfold members body
  cases policy.validation <;> rfl

/-- A program in which a type is the enumeration of a routine and has the functions of the routine. -/
structure HasRoutine (program : Program) (type : String) (strategy : Strategy) (policy : Policy)
    (names : List String) (unknown : String) : Prop where
  members : ∃ others, program.membersFor none type =
    members strategy policy (casesFor names) unknown ++ others
  variants : ∀ name, program.variantNamed? type name =
    (enumeration type policy names unknown).variantNamed? program.comparison type name
  declared : enumeration type policy names unknown ∈ program.items

section

variable {program : Program} {type : String} {strategy : Strategy} {policy : Policy}
  {names : List String} {unknown : String}

theorem HasRoutine.exists_helper (h : HasRoutine program type strategy policy names unknown)
    (hvalidation : policy.validation = true) :
    ∃ f, program.functionNamed? none type "is_validation_error" = some f ∧
      ∀ scope token, f.holds? scope [.text token] = some (isValidationToken token) := by
  obtain ⟨others, hmembers⟩ := h.members
  obtain ⟨f, hf, hname, hholds⟩ := Decoder.exists_helper
  refine ⟨f, ?_, hholds⟩
  rw [Program.functionNamed?, hmembers, members_eq, hvalidation, if_pos rfl, hf]
  simp only [List.cons_append, List.findSome?_cons, Member.functionNamed?, hname, if_true]

theorem HasRoutine.exists_routine (h : HasRoutine program type strategy policy names unknown) :
    ∃ f, program.functionNamed? none type "from_error_type" = some f ∧
      f.parameters = [.named "error_type" .text] ∧ f.body = body strategy policy names unknown := by
  obtain ⟨others, hmembers⟩ := h.members
  obtain ⟨f, hf, hname, hparameters, hbody⟩ :=
    Decoder.exists_routine (documentation strategy) (body strategy policy names unknown)
  refine ⟨f, ?_, hparameters, hbody⟩
  have hkeys : program.comparison.key "is_validation_error" ≠
      program.comparison.key "from_error_type" := by
    rw [Comparison.key_of_lt (by decide), Comparison.key_of_lt (by decide)]
    decide
  rw [Program.functionNamed?, hmembers, members_eq, hf]
  cases policy.validation <;> simp [validationHelper, Member.functionNamed?, hname, hkeys]

theorem HasRoutine.test?_eq (h : HasRoutine program type strategy policy names unknown)
    (hvalidation : policy.validation = true) (token : String) :
    program.test? type "is_validation_error" [.text token] =
      if program.comparison.key unknown = "is_validation_error" then none
      else some (isValidationToken token) := by
  obtain ⟨f, hf, hholds⟩ := h.exists_helper hvalidation
  have hhidden : _ ↔ program.comparison.key unknown = "is_validation_error" :=
    variantNamed?_function program.comparison type policy names unknown (by decide) (by decide)
  rw [Program.test?, h.variants, hf]
  simp only [hhidden, Option.bind_some, hholds]

theorem HasRoutine.variants_separate (h : HasRoutine program type strategy policy names unknown)
    (hseparates : program.separates = true) :
    ((variantNames policy names unknown).map program.comparison.key).Nodup := by
  have hitem := List.all_eq_true.mp (Bool.and_eq_true_iff.mp hseparates).1 _ h.declared
  rw [separates_enumeration] at hitem
  exact of_decide_eq_true hitem

theorem HasRoutine.serves (h : HasRoutine program type strategy policy names unknown)
    (hresolves : Resolves program.comparison policy names unknown) :
    Serves (program.scope type) policy names unknown := by
  obtain ⟨hdeclared, hcarrying⟩ := variantNamed?_of_separate type
    hresolves.variants_separate
  have hconstructs : ∀ {name : String} {count : Nat} {v : Variant},
      (enumeration type policy names unknown).variantNamed? program.comparison type name = some v →
      v.takes count = true → (program.scope type).constructs type name count = true := by
    intro name count v hv htakes
    show (program.variantNamed? type name).any _ = true
    rw [h.variants, hv]
    exact htakes
  refine ⟨⟨fun c hc => ?_, ?_⟩, fun hvalidation => ?_, fun hvalidation token => ?_⟩
  · obtain ⟨name, hname, rfl⟩ := List.mem_map.mp hc
    obtain ⟨v, hv, htakes⟩ := hdeclared name hname
    exact hconstructs hv htakes
  · obtain ⟨v, hv, htakes⟩ := hcarrying unknown
      (List.mem_append_right _ (List.mem_singleton_self _))
    exact hconstructs hv htakes
  · obtain ⟨v, hv, htakes⟩ := hcarrying Policy.validationVariant
      (List.mem_append_left _ (reserved_of_validation hvalidation ▸ List.mem_singleton_self _))
    exact hconstructs hv htakes
  · show program.test? type "is_validation_error" [.text token] = _
    rw [h.test?_eq hvalidation, if_neg (hresolves.helper_visible hvalidation)]

/-- **What a routine gives**: its values where its names stand for what they are meant for, and
nothing at all where not. -/
theorem HasRoutine.run?_eq (h : HasRoutine program type strategy policy names unknown)
    (token : String) :
    program.run? none type "from_error_type" [.text token] =
      if program.separates = true ∧ Resolves program.comparison policy names unknown then
        some (decoded type policy names unknown token)
      else none := by
  obtain ⟨f, hf, hparameters, hbody⟩ := h.exists_routine
  rw [Program.run?, hf, Option.bind_some, Function.value?, hparameters, hbody]
  by_cases hseparates : program.separates = true
  · rw [if_pos hseparates]
    by_cases hresolves : Resolves program.comparison policy names unknown
    · rw [if_pos ⟨hseparates, hresolves⟩]
      exact bodyValue?_body strategy (h.serves hresolves) rfl
    · rw [if_neg fun hboth => hresolves hboth.2]
      have hhidden : policy.validation = true ∧
          program.comparison.key unknown = "is_validation_error" := by
        by_contra hnot
        exact hresolves ⟨h.variants_separate hseparates,
          fun hvalidation heq => hnot ⟨hvalidation, heq⟩⟩
      refine bodyValue?_of_no_test strategy hhidden.1 ?_ rfl names unknown
      show program.test? type "is_validation_error" [.text token] = none
      rw [h.test?_eq hhidden.1, if_pos hhidden.2]
  · rw [if_neg hseparates, if_neg fun hboth => hseparates hboth.1]

/-- By its path, the function of a routine is out of reach of a variant of its name. -/
theorem HasRoutine.call?_eq (h : HasRoutine program type strategy policy names unknown)
    (token : String) :
    program.call? type "from_error_type" [.text token] =
      if program.comparison.key unknown = "from_error_type" then none
      else program.run? none type "from_error_type" [.text token] := by
  have hhidden : _ ↔ program.comparison.key unknown = "from_error_type" :=
    variantNamed?_function program.comparison type policy names unknown (by decide) (by decide)
  rw [Program.call?, h.variants]
  simp only [hhidden]

end

end Decoder

end WireErrors
