import WireErrors.Proofs.ErrorModule.Reading

/-!
# Reading the blocks of a module

The blocks of a module are texts, which are read back as the tokens of its items; together they are
read as one file that consists of these items (`read_blocks`).
-/

namespace WireErrors

open Source Source.Reader

namespace ErrorModule

open ErrorTypes Decoder

variable {policy : Policy} {model : Model} {unknown type : String}

open scoped Spelled

attribute [local simp] commaSeparated

/-! ## The option set -/

theorem readable_optionSetRecord (expected : String) (htype : isSpelled type = true) :
    Readable (optionSetRecord type expected).tokens := by
  refine readable_of ?_ rfl rfl
  simp +decide [optionSetRecord, staticReference, htype]

theorem readable_constantDeclaration {d : Declared} (hconstant : isSpelled d.constant = true) :
    Readable (constantDeclaration d).tokens := by
  refine readable_of ?_ rfl rfl
  simp +decide [constantDeclaration, hconstant]

theorem readable_all : Readable allSignature.tokens := by
  refine readable_of ?_ rfl rfl
  simp +decide [allSignature, staticReference]

theorem readable_allFunction {names : List String}
    (hconstants : ∀ name ∈ names, isSpelled (constantName name) = true) :
    Readable (allFunction names).tokens := by
  have hlist : Readable (commaSeparated (Expr.listTokens
      ((declaredFor names).map fun d => .names ["Self", d.constant]))) := by
    rw [listTokens_eq_map]
    refine readable_commaSeparated fun part hpart => ?_
    obtain ⟨e, he, rfl⟩ := List.mem_map.mp hpart
    obtain ⟨d, hd, rfl⟩ := List.mem_map.mp he
    obtain ⟨name, hname, rfl⟩ := List.mem_map.mp hd
    refine readable_of ?_ rfl rfl
    simp +decide [hconstants name hname]
  have hreference : Readable (Token.sign "&" ++ wordIf false "mut") :=
    ⟨.mark (by decide) .nil, balanced_iff.mpr rfl⟩
  refine readable_function rfl readable_all ?_
  exact ((hreference.append (hlist.group .bracket)).append readable_nil).append readable_nil

theorem readable_descriptionGetter :
    Readable (getter .everyone true " Wire identifier of the error" "description"
      (staticReference (.named "str")) description).tokens := by
  refine readable_of ?_ rfl rfl
  simp +decide [getter, staticReference, description]

theorem readable_optionSetMembers
    (hconstants : ∀ name ∈ model.sortedNames, isSpelled (constantName name) = true) :
    Readable ((optionSetMembers model).flatMap Member.tokens) := by
  refine readable_flatMap fun m hm => ?_
  rcases List.mem_append.mp hm with hm | hm
  · obtain ⟨d, hd, rfl⟩ := List.mem_map.mp hm
    obtain ⟨name, hname, rfl⟩ := List.mem_map.mp hd
    exact readable_constantDeclaration (hconstants name hname)
  · rcases List.mem_cons.mp hm with rfl | hm
    · exact readable_allFunction hconstants
    · obtain rfl := List.mem_singleton.mp hm
      exact readable_descriptionGetter

/-! ## Display -/

theorem readable_fmt : Readable fmtSignature.tokens := by
  refine readable_of ?_ rfl rfl
  simp +decide [fmtSignature, formatter]

theorem readable_displayImpl {body : Expr} (htype : isSpelled type = true)
    (hbody : Readable body.tokens) : Readable (displayImpl type body).tokens := by
  have hpath : Readable (TypeExpr.names ["std", "fmt", "Display"]).tokens := by
    refine readable_of ?_ rfl rfl
    simp +decide
  have hfunction : Readable (Member.function { fmtSignature with body := [.expr body false] }).tokens :=
    readable_function rfl readable_fmt ((hbody.append readable_nil).append readable_nil)
  rw [displayImpl_eq]
  exact readable_interface hpath htype (hfunction.append readable_nil)

theorem readable_conformanceImpl {conformance : Conformance} (htype : isSpelled type = true)
    (hinterface : ∀ library interface, conformance = .custom library interface →
      isSpelled interface = true) :
    Readable ((conformanceImpl conformance type).flatMap Item.tokens) := by
  refine readable_flatMap fun item hitem => ?_
  cases conformance with
  | none => cases hitem
  | display =>
    obtain rfl := List.mem_singleton.mp hitem
    refine readable_displayImpl htype (readable_of ?_ rfl rfl)
    simp +decide [writeText, description]
  | custom library interface =>
    obtain rfl := List.mem_singleton.mp hitem
    have hname : Readable (TypeExpr.named interface).tokens :=
      .ident (hinterface library interface rfl) readable_nil
    have hgetter : Readable (getter .inherited false "" "description" .text description).tokens := by
      refine readable_of ?_ rfl rfl
      simp +decide [getter, description]
    exact readable_interface hname htype (hgetter.append readable_nil)

theorem readable_optionSet (expected : String) (hnamed : Named policy model unknown) :
    Readable ((optionSet (namesFor model policy unknown) policy.conformance expected
      (declaredFor model.sortedNames)).flatMap Item.tokens) := by
  have hconstants := fun name hname => (hnamed.constants name hname).spelled
  have hmembers := readable_inherent hnamed.optionSet.spelled (readable_optionSetMembers hconstants)
  have hconformance := readable_conformanceImpl hnamed.optionSet.spelled
    fun library interface hcustom => (hnamed.interface library interface hcustom).spelled
  rw [optionSet_eq, List.flatMap_append]
  refine .append ?_ hconformance
  exact (readable_optionSetRecord expected hnamed.optionSet.spelled).append
    (hmembers.append readable_nil)

/-! ## The error type -/

theorem readable_declaredVariant {d : Declared} (hvariant : isSpelled d.variant = true) :
    Readable (declaredVariant d).tokens := by
  refine readable_of ?_ rfl rfl
  simp +decide [declaredVariant, hvariant]

theorem readable_carryingVariant {documentation variant : String}
    (hdocumentation : isRaw ("r\"" ++ documentation ++ "\"") = true)
    (hvariant : isSpelled variant = true) :
    Readable (carryingVariant documentation variant).tokens := by
  refine readable_of ?_ rfl rfl
  simp +decide [carryingVariant, hvariant, hdocumentation]

theorem readable_errorVariants (hnamed : Named policy model unknown) :
    ∀ v ∈ errorVariants policy model unknown, Readable v.tokens := by
  refine forall_errorVariants (P := fun v => Readable v.tokens) ?_ ?_ ?_
  · exact fun name hname => readable_declaredVariant (hnamed.variants name hname).spelled
  · exact readable_carryingVariant (by decide) isName_validationVariant.spelled
  · exact readable_carryingVariant (by decide) hnamed.unknown.spelled

theorem readable_errorEnum (hnamed : Named policy model unknown) :
    Readable (errorEnum (namesFor model policy unknown) policy.serializable
      (declaredFor model.sortedNames)).tokens := by
  have hvariants := (readable_flatMap (readable_errorVariants hnamed)).group .brace
  rw [errorEnum_eq]
  refine .append ?_ hvariants
  cases policy.serializable with
  | false =>
    refine readable_of ?_ rfl rfl
    simp +decide [derives, hnamed.error.spelled]
  | true =>
    refine readable_of ?_ rfl rfl
    simp +decide [derives, hnamed.error.spelled]

/-! ## Tables -/

theorem readable_plainArm {pattern : Pattern} {value : Expr} (hpattern : Readable pattern.tokens)
    (hvalue : Readable value.tokens) : Readable (Arm.plain pattern value).tokens := by
  have harrow : Readable (Token.sign "=>") :=
    readable_of (words_sign _) rfl rfl
  have htokens : (Arm.plain pattern value).tokens =
      pattern.tokens ++ (Token.sign "=>" ++ (value.tokens ++ Token.sign ",")) := by
    simp
  rw [htokens]
  exact hpattern.append (harrow.append (hvalue.append readable_comma))

theorem readable_unitPattern {variant : String} (hvariant : isSpelled variant = true) :
    Readable (unitPattern variant).tokens := by
  refine readable_of ?_ rfl rfl
  simp +decide [unitPattern, hvariant]

theorem readable_carrier {variant holder : String} (hvariant : isSpelled variant = true)
    (hholder : isSpelled holder = true) : Readable (carrier variant holder).tokens := by
  refine readable_of ?_ rfl rfl
  simp +decide [carrier, hvariant, hholder]

theorem readable_writeLabelled {variant holder : String} (hholder : isSpelled holder = true) :
    Readable (writeLabelled variant holder).tokens := by
  refine readable_of ?_ rfl rfl
  simp +decide [writeLabelled, hholder]

theorem readable_nameArms (hnamed : Named policy model unknown) :
    ∀ a ∈ nameArms policy model unknown, Readable a.tokens := by
  have hcarried : Readable (Expr.method (.names ["error_type"]) "as_str" []).tokens := by
    refine readable_of ?_ rfl rfl
    simp +decide
  intro a ha
  rw [nameArms, List.append_assoc] at ha
  rcases List.mem_append.mp ha with ha | ha
  · refine forall_declaredArms (P := fun a => Readable a.tokens) (fun name hname => ?_) a ha
    refine readable_plainArm (readable_unitPattern (hnamed.variants name hname).spelled) ?_
    refine readable_of ?_ rfl rfl
    simp
  · refine forall_carriers (P := fun a => Readable a.tokens)
      (fun _ _ => .method (.names ["error_type"]) "as_str" []) ?_ ?_ a ha
    · exact readable_plainArm (readable_carrier isName_validationVariant.spelled (by decide)) hcarried
    · exact readable_plainArm (readable_carrier hnamed.unknown.spelled (by decide)) hcarried

theorem readable_optionArms (hnamed : Named policy model unknown) :
    ∀ a ∈ optionArms model, Readable a.tokens := by
  intro a ha
  rcases List.mem_append.mp ha with ha | ha
  · refine forall_declaredArms (P := fun a => Readable a.tokens) (fun name hname => ?_) a ha
    refine readable_plainArm (readable_unitPattern (hnamed.variants name hname).spelled) ?_
    refine readable_of ?_ rfl rfl
    simp +decide [hnamed.optionSet.spelled, (hnamed.constants name hname).spelled]
  · obtain rfl := List.mem_singleton.mp ha
    refine readable_of ?_ rfl rfl
    simp +decide

theorem readable_displayArms (hnamed : Named policy model unknown) :
    ∀ a ∈ displayArms policy model unknown, Readable a.tokens := by
  intro a ha
  rw [displayArms, List.append_assoc] at ha
  rcases List.mem_append.mp ha with ha | ha
  · refine forall_declaredArms (P := fun a => Readable a.tokens) (fun name hname => ?_) a ha
    refine readable_plainArm (readable_unitPattern (hnamed.variants name hname).spelled) ?_
    refine readable_of ?_ rfl rfl
    simp +decide [writeText]
  · refine forall_carriers (P := fun a => Readable a.tokens) writeLabelled ?_ ?_ a ha
    · exact readable_plainArm (readable_carrier isName_validationVariant.spelled (by decide))
        (readable_writeLabelled (by decide))
    · exact readable_plainArm (readable_carrier hnamed.unknown.spelled (by decide))
        (readable_writeLabelled (by decide))

/-! ## Functions that choose by a variant -/

theorem readable_getter {documentation name : String} {result : TypeExpr} {arms : List Arm}
    (hdocumentation : documentation.isEmpty = false)
    (hsignature : Readable (getterSignature documentation name result).tokens)
    (harms : ∀ a ∈ arms, Readable a.tokens) :
    Readable (getter .everyone false documentation name result
      (.select (.names ["self"]) [] arms)).tokens := by
  have hselect := readable_select (show isSpelled "self" = true by decide) harms
  rw [getter_eq hdocumentation]
  exact readable_function rfl hsignature ((hselect.append readable_nil).append readable_nil)

theorem readable_getterSignature {documentation name : String} {result : TypeExpr}
    (hdocumentation : isRaw ("r\"" ++ documentation ++ "\"") = true)
    (hname : isSpelled name = true) (hresult : Readable result.tokens) :
    Readable (getterSignature documentation name result).tokens := by
  rw [tokens_getterSignature]
  refine .append (readable_of ?_ rfl rfl) hresult
  simp +decide [selfTokens, hdocumentation, hname]

theorem readable_accessors (hnamed : Named policy model unknown) :
    Readable ((accessors (namesFor model policy unknown)
      (declaredFor model.sortedNames)).flatMap Member.tokens) := by
  have htext : Readable TypeExpr.text.tokens := by
    refine readable_of ?_ rfl rfl
    simp +decide
  have hoption : Readable (TypeExpr.path (.plain false
      [.mk "Option" (.angled [.type (.named model.optionSetType)])])).tokens := by
    refine readable_of ?_ rfl rfl
    simp +decide [hnamed.optionSet.spelled]
  rw [accessors_eq]
  refine readable_flatMap fun m hm => ?_
  rcases List.mem_cons.mp hm with rfl | hm
  · refine readable_getter rfl (readable_getterSignature ?_ (by decide) htext)
      (readable_nameArms hnamed)
    decide
  · obtain rfl := List.mem_singleton.mp hm
    refine readable_getter rfl (readable_getterSignature ?_ (by decide) hoption)
      (readable_optionArms hnamed)
    decide

theorem readable_display (hnamed : Named policy model unknown) :
    Readable ((display (namesFor model policy unknown)
      (declaredFor model.sortedNames)).flatMap Item.tokens) := by
  have hselect := readable_select (show isSpelled "self" = true by decide)
    (readable_displayArms hnamed)
  have hpath : Readable (TypeExpr.names ["std", "error", "Error"]).tokens := by
    refine readable_of ?_ rfl rfl
    simp +decide
  rw [display_eq]
  refine readable_flatMap fun item hitem => ?_
  rcases List.mem_cons.mp hitem with rfl | hitem
  · exact readable_displayImpl hnamed.error.spelled hselect
  · obtain rfl := List.mem_singleton.mp hitem
    exact readable_interface hpath hnamed.error.spelled readable_nil

/-! ## All blocks -/

/-- The tokens of each block of a module behind its import. -/
def partsFor (strategy : Strategy) (policy : Policy) (expected : String) (model : Model)
    (unknown : String) : List (List Token) :=
  let types := namesFor model policy unknown
  let declared := declaredFor model.sortedNames
  [(optionSet types policy.conformance expected declared).flatMap Item.tokens,
    [errorEnum types policy.serializable declared].flatMap Item.tokens,
    [.ident "impl", .ident model.errorType, .opening .brace],
    (members strategy policy (casesFor model.sortedNames) unknown).flatMap Member.tokens,
    (accessors types declared).flatMap Member.tokens,
    [.closing .brace]] ++
    if policy.display then [(display types declared).flatMap Item.tokens] else []

variable (strategy : Strategy) (expected : String)

theorem blocksWith_routine (delegate : Delegate) :
    blocksWith delegate model unknown []
        [Decoder.text (members strategy delegate.policy (casesFor model.sortedNames) unknown)] =
      (partsFor strategy delegate.policy delegate.conformance model unknown).map Token.render := by
  have himplementation := render_opened model.errorType
  have hclosed : Token.render [.closing .brace] = "\x7d" := rfl
  unfold blocksWith partsFor
  cases hdisplay : delegate.policy.display <;>
    simp [himplementation, hclosed, ErrorTypes.text, Decoder.text]

theorem blocks_eq (target : String) :
    blocksWith (strategy.delegate target policy) model unknown []
        [Decoder.text (members strategy policy (casesFor model.sortedNames) unknown)] =
      (partsFor strategy policy policy.conformance.expected model unknown).map Token.render :=
  blocksWith_routine strategy (strategy.delegate target policy)

theorem flatten_partsFor : (partsFor strategy policy expected model unknown).flatten =
    (itemsFor strategy policy expected model unknown).flatMap Item.tokens := by
  unfold partsFor itemsFor displayItems errorMembers
  simp only [List.flatMap_append, List.flatMap_cons, tokens_inherent]
  cases hdisplay : policy.display <;> simp [Token.group]

theorem legible_partsFor (hnamed : Named policy model unknown) :
    ∀ part ∈ partsFor strategy policy expected model unknown, Legible part := by
  have hroutine := readable_members strategy policy
    (fun name hname => (hnamed.variants name hname).spelled) hnamed.unknown.spelled
  intro part hpart
  rcases List.mem_append.mp hpart with hpart | hpart
  · simp only [List.mem_cons, List.not_mem_nil, or_false] at hpart
    rcases hpart with rfl | rfl | rfl | rfl | rfl | rfl
    · exact (readable_optionSet expected hnamed).legible
    · rw [List.flatMap_singleton]
      exact (readable_errorEnum hnamed).legible
    · exact .ident (by decide) (.ident hnamed.error.spelled (.opening _ .nil))
    · exact hroutine.legible
    · exact (readable_accessors hnamed).legible
    · exact .closing _ .nil
  · split at hpart
    · obtain rfl := List.mem_singleton.mp hpart
      exact (readable_display hnamed).legible
    · cases hpart

theorem readable_items (hnamed : Named policy model unknown) :
    Readable ((itemsFor strategy policy expected model unknown).flatMap Item.tokens) := by
  have hroutine := readable_members strategy policy
    (fun name hname => (hnamed.variants name hname).spelled) hnamed.unknown.spelled
  have hmembers : Readable ((errorMembers strategy policy model unknown).flatMap Member.tokens) := by
    rw [errorMembers, List.flatMap_append]
    exact hroutine.append (readable_accessors hnamed)
  have himplementation := readable_inherent hnamed.error.spelled hmembers
  unfold itemsFor displayItems
  rw [List.flatMap_append, List.flatMap_append]
  refine .append (.append (readable_optionSet expected hnamed) ?_) ?_
  · exact (readable_errorEnum hnamed).append (himplementation.append readable_nil)
  · split
    · exact readable_display hnamed
    · exact readable_nil

theorem tokens_implementation_ne_nil (interface : Option TypeExpr) (type : String)
    (members : List Member) : (implementation interface type members).tokens ≠ [] := by
  cases interface with
  | none =>
    rw [tokens_inherent]
    exact List.cons_ne_nil _ _
  | some interface =>
    rw [tokens_interface]
    exact List.cons_ne_nil _ _

theorem tokens_ne_nil : ∀ item ∈ itemsFor strategy policy expected model unknown,
    item.tokens ≠ [] := by
  intro item hitem
  rcases List.mem_append.mp hitem with hitem | hitem
  · rcases List.mem_append.mp hitem with hitem | hitem
    · rw [optionSet_eq] at hitem
      rcases List.mem_append.mp hitem with hitem | hitem
      · rcases List.mem_cons.mp hitem with rfl | hitem
        · exact List.cons_ne_nil _ _
        · obtain rfl := List.mem_singleton.mp hitem
          exact tokens_implementation_ne_nil _ _ _
      · unfold conformanceImpl at hitem
        split at hitem
        · obtain rfl := List.mem_singleton.mp hitem
          exact tokens_implementation_ne_nil _ _ _
        · obtain rfl := List.mem_singleton.mp hitem
          exact tokens_implementation_ne_nil _ _ _
        · cases hitem
    · rcases List.mem_cons.mp hitem with rfl | hitem
      · exact List.cons_ne_nil _ _
      · obtain rfl := List.mem_singleton.mp hitem
        exact tokens_implementation_ne_nil _ _ _
  · unfold displayItems at hitem
    split at hitem
    · rcases List.mem_cons.mp hitem with rfl | hitem
      · exact tokens_implementation_ne_nil _ _ _
      · obtain rfl := List.mem_singleton.mp hitem
        exact tokens_implementation_ne_nil _ _ _
    · cases hitem

theorem length_items : model.sortedNames.length + 12 ≤
    ((itemsFor strategy policy expected model unknown).flatMap Item.tokens).length := by
  have hroutine := length_members strategy policy model.sortedNames unknown
  refine Nat.le_trans hroutine ?_
  rw [← flatten_partsFor]
  refine List.Sublist.length_le (List.sublist_flatten_of_mem (List.mem_append_left _ ?_))
  simp

theorem blocksWith_eq (delegate : Delegate) (model : Model) (unknown : String)
    (imports routine : List String) : blocksWith delegate model unknown imports routine =
      imports ++ blocksWith delegate model unknown [] routine := by
  simp [blocksWith]

theorem read_blocksWith {delegate : Delegate} (hnamed : Named delegate.policy model unknown) :
    File.read (Draft.contents ⟨blocksWith delegate model unknown []
        [Decoder.text (members strategy delegate.policy (casesFor model.sortedNames) unknown)]⟩) =
      .ok { attributes := [], items :=
        itemsFor strategy delegate.policy delegate.conformance model unknown } := by
  have hlegible := legible_partsFor strategy delegate.conformance hnamed
  have hflatten : (partsFor strategy delegate.policy delegate.conformance model unknown).flatten = _ :=
    flatten_partsFor strategy delegate.conformance
  rw [blocksWith_routine]
  refine read_items model.sortedNames.length hlegible nofun hflatten
    (readable_items strategy _ hnamed).balanced rfl (tokens_ne_nil strategy _) ?_ ?_
  · exact length_items strategy _
  · exact fun depth rounds hrounds => yields_items hnamed hrounds

/-- **The blocks of a module behind its import are read as its items.** -/
theorem read_blocks (hnamed : Named policy model unknown) (target : String) :
    File.read (Draft.contents ⟨blocksWith (strategy.delegate target policy) model unknown []
        [Decoder.text (members strategy policy (casesFor model.sortedNames) unknown)]⟩) =
      .ok { attributes := [], items :=
        itemsFor strategy policy policy.conformance.expected model unknown } := by
  have hdelegate : Named (strategy.delegate target policy).policy model unknown := hnamed
  exact read_blocksWith strategy hdelegate

end ErrorModule

end WireErrors
