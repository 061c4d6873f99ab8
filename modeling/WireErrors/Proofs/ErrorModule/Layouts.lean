import WireErrors.Proofs.ErrorModule.Reading
import WireErrors.Proofs.Source.Layouts

/-!
# Layouts of an error module

Every item of a module has a complete layout (`complete_itemsFor`): its trees are of kinds that can be
laid out, whatever the names in them are. So a module that can be read can be formatted.
-/

namespace WireErrors

open Source Layout

namespace ErrorModule

open ErrorTypes Decoder

variable {policy : Policy} {model : Model} {unknown type : String}

/-! ## Parts of functions -/

@[simp]
theorem complete_named (name : String) : Complete (TypeExpr.named name).layout :=
  complete_namesType [name]

@[simp]
theorem complete_text : Complete TypeExpr.text.layout := by simp [TypeExpr.text]

@[simp]
theorem complete_self : Complete Parameter.self.layout := by
  simp [Parameter.layout, outerLayout]

@[simp]
theorem complete_parameter {name : String} {t : TypeExpr} :
    Complete (Parameter.named name t).layout ↔ Complete t.layout := by
  simp [Parameter.layout, outerLayout, Pattern.layout]

theorem complete_formatter : Complete formatter.layout := by
  rw [formatter, TypeExpr.layout]
  refine complete_route fun segment hsegment => ?_
  simp only [List.mem_cons, List.not_mem_nil, or_false] at hsegment
  rcases hsegment with rfl | rfl | rfl
  · exact complete_plainSegment true "std"
  · exact complete_plainSegment true "fmt"
  · simp [Argument.layout, lifetimeWord]

theorem complete_some {t : TypeExpr} (h : Complete t.layout) :
    ∀ u, some t = some u → Complete u.layout := fun _ hu => Option.some.inj hu ▸ h

theorem complete_oneExpression {s : Signature} {body : Expr} (hgenerics : s.generics = {})
    (hattributes : PlainAttributes s.attributes) (hparameters : ∀ p ∈ s.parameters, Complete p.layout)
    (hresult : ∀ t, s.result = some t → Complete t.layout) (hbody : body.Formattable) :
    Complete (Member.function { s with body := [.expr body false] }).layout :=
  complete_function hgenerics hattributes hparameters hresult
    (List.forall_mem_singleton.mpr (complete_statement hbody))

theorem complete_getter {visibility : Visibility} {constant : Bool} {documentation name : String}
    {result : TypeExpr} {body : Expr} (hresult : Complete result.layout) (hbody : body.Formattable) :
    Complete (getter visibility constant documentation name result body).layout := by
  have hattributes : PlainAttributes
      (if documentation.isEmpty then [] else [.doc documentation]) := by
    split <;> simp
  refine complete_oneExpression rfl hattributes ?_ ?_ hbody
  · exact List.forall_mem_singleton.mpr complete_self
  · exact complete_some hresult

theorem complete_displayImpl {body : Expr} (hbody : body.Formattable) :
    Complete (displayImpl type body).layout := by
  have hfunction : Complete (Member.function { fmtSignature with body := [.expr body false] }).layout := by
    refine complete_oneExpression rfl plainAttributes_nil ?_ ?_ hbody
    · simp [fmtSignature, complete_formatter]
    · exact complete_some (complete_namesType _)
  rw [displayImpl_eq]
  refine complete_implementation ?_ (complete_named type) (List.forall_mem_singleton.mpr hfunction)
  exact complete_some (complete_namesType _)

/-! ## Expressions -/

theorem formattable_description : description.Formattable :=
  formattable_field (formattable_names ["self"])

theorem formattable_writeText {text : Expr} (htext : text.Formattable) :
    (writeText text).Formattable :=
  formattable_method (formattable_names ["f"]) (List.forall_mem_singleton.mpr htext)

theorem formattable_writeLabelled (variant holder : String) :
    (writeLabelled variant holder).Formattable := formattable_invocation _ _ _

theorem formattable_carrying (variant holder : String) : (carrying variant holder).Formattable :=
  formattable_call (formattable_names _)
    (List.forall_mem_singleton.mpr (formattable_method (formattable_names _) (List.forall_mem_nil _)))

theorem formattable_selectSelf {arms : List Arm} (harms : ∀ a ∈ arms, Complete a.layout) :
    (Expr.select (.names ["self"]) [] arms).Formattable :=
  formattable_select (formattable_names _) harms

/-! ## The option set -/

theorem complete_constantDeclaration (d : Declared) :
    Complete (constantDeclaration d).layout := by
  refine complete_constant plainAttributes_nil (complete_named "Self") (formattable_record ?_)
  exact List.forall_mem_singleton.mpr (complete_plainField (formattable_literal _))

theorem complete_allFunction (names : List String) :
    Complete (Member.function (allFunction names)).layout := by
  refine complete_oneExpression rfl (by simp [allSignature]) nofun ?_ ?_
  · exact complete_some (by simp [staticReference])
  · refine formattable_reference (formattable_array (List.forall_mem_map.mpr fun d _ => ?_))
    exact formattable_names _

theorem complete_optionSetMembers : ∀ m ∈ optionSetMembers model, Complete m.layout := by
  refine List.forall_mem_append.mpr ⟨List.forall_mem_map.mpr fun d _ => ?_, ?_⟩
  · exact complete_constantDeclaration d
  · refine List.forall_mem_cons.mpr ⟨complete_allFunction _, List.forall_mem_singleton.mpr ?_⟩
    exact complete_getter (by simp [staticReference]) formattable_description

theorem complete_optionSetRecord (expected : String) :
    Complete (optionSetRecord type expected).layout := by
  refine complete_record rfl (by simp) (List.forall_mem_singleton.mpr ?_)
  simp [Field.layout, outerLayout, namedLayout, staticReference]

theorem complete_conformanceImpl (conformance : Conformance) :
    ∀ item ∈ conformanceImpl conformance type, Complete item.layout := by
  cases conformance with
  | none => nofun
  | display =>
    refine List.forall_mem_singleton.mpr (complete_displayImpl ?_)
    exact formattable_writeText formattable_description
  | custom library interface =>
    refine List.forall_mem_singleton.mpr (complete_implementation ?_ (complete_named type) ?_)
    · exact complete_some (complete_named interface)
    · exact List.forall_mem_singleton.mpr (complete_getter complete_text formattable_description)

/-! ## The error type -/

theorem complete_errorVariants : ∀ v ∈ errorVariants policy model unknown, Complete v.layout := by
  have hcarrying : ∀ documentation variant,
      Complete (carryingVariant documentation variant).layout := by
    intro documentation variant
    have hattributes : Complete (outerLayout [.doc documentation]) := complete_outerLayout (by simp)
    have hfield : Complete (Field.layout { name := none, type := .named "String" }) := by
      simp [Field.layout, outerLayout, namedLayout]
    simp [Variant.layout, carryingVariant, positionalLayout, commaLayout, hattributes, hfield]
  refine forall_errorVariants (P := fun v => Complete v.layout) (fun name _ => ?_) ?_ ?_
  · have hattributes : Complete (outerLayout [.docText (" The `" ++ name ++ "` error")]) :=
      complete_outerLayout (by simp)
    simp [Variant.layout, declaredVariant, hattributes]
  · exact hcarrying _ _
  · exact hcarrying _ _

theorem complete_errorEnum :
    Complete (errorEnum (namesFor model policy unknown) policy.serializable
      (declaredFor model.sortedNames)).layout := by
  rw [errorEnum_eq]
  exact complete_enumeration rfl (by simp [derives]) complete_errorVariants

/-! ## Tables -/

theorem complete_unitArm {variant : String} {result : Expr} (hresult : result.Formattable)
    (hblock : Expr.blockArm result = none) :
    Complete (Arm.plain (unitPattern variant) result).layout :=
  complete_arm (complete_pathPattern _) hresult hblock

theorem complete_carrierArm {variant holder : String} {result : Expr} (hresult : result.Formattable)
    (hblock : Expr.blockArm result = none) :
    Complete (Arm.plain (carrier variant holder) result).layout :=
  complete_arm (complete_tuplePattern _ _) hresult hblock

theorem complete_nameArms : ∀ a ∈ nameArms policy model unknown, Complete a.layout := by
  have hcarried : (Expr.method (.names ["error_type"]) "as_str" []).Formattable :=
    formattable_method (formattable_names _) (List.forall_mem_nil _)
  rw [nameArms, List.append_assoc]
  refine List.forall_mem_append.mpr ⟨?_, ?_⟩
  · exact forall_declaredArms (P := fun a => Complete a.layout) fun _ _ =>
      complete_unitArm (formattable_literal _) rfl
  · exact forall_carriers (P := fun a => Complete a.layout)
      (fun _ _ => .method (.names ["error_type"]) "as_str" []) (complete_carrierArm hcarried rfl)
      (complete_carrierArm hcarried rfl)

theorem complete_optionArms : ∀ a ∈ optionArms model, Complete a.layout := by
  refine List.forall_mem_append.mpr ⟨?_, List.forall_mem_singleton.mpr ?_⟩
  · refine forall_declaredArms (P := fun a => Complete a.layout) fun _ _ => complete_unitArm ?_ rfl
    exact formattable_call (formattable_names _) (List.forall_mem_singleton.mpr (formattable_names _))
  · exact complete_arm (by simp [Pattern.layout]) (formattable_names _) rfl

theorem complete_displayArms : ∀ a ∈ displayArms policy model unknown, Complete a.layout := by
  rw [displayArms, List.append_assoc]
  refine List.forall_mem_append.mpr ⟨?_, ?_⟩
  · exact forall_declaredArms (P := fun a => Complete a.layout) fun _ _ =>
      complete_unitArm (formattable_writeText (formattable_literal _)) rfl
  · exact forall_carriers (P := fun a => Complete a.layout) writeLabelled
      (complete_carrierArm (formattable_writeLabelled _ _) rfl)
      (complete_carrierArm (formattable_writeLabelled _ _) rfl)

theorem complete_accessors :
    ∀ m ∈ accessors (namesFor model policy unknown) (declaredFor model.sortedNames),
      Complete m.layout := by
  rw [accessors_eq]
  refine List.forall_mem_cons.mpr ⟨?_, List.forall_mem_singleton.mpr ?_⟩
  · exact complete_getter complete_text (formattable_selectSelf complete_nameArms)
  · refine complete_getter ?_ (formattable_selectSelf complete_optionArms)
    rw [TypeExpr.layout]
    refine complete_route (List.forall_mem_singleton.mpr ?_)
    simp [Argument.layout]

theorem complete_displayItems :
    ∀ item ∈ displayItems policy model unknown, Complete item.layout := by
  unfold displayItems
  split
  · rw [display_eq]
    refine List.forall_mem_cons.mpr ⟨?_, List.forall_mem_singleton.mpr ?_⟩
    · exact complete_displayImpl (formattable_selectSelf complete_displayArms)
    · refine complete_implementation ?_ (complete_named _) (List.forall_mem_nil _)
      exact complete_some (complete_namesType _)
  · nofun

/-! ## The decode routine -/

theorem complete_validationHelper : Complete validationHelper.layout := by
  have hstart : ∀ start, (Decoder.startsWith start).Formattable := fun start =>
    formattable_method (formattable_names _) (List.forall_mem_singleton.mpr (formattable_literal _))
  refine complete_oneExpression rfl (by simp) (by simp) ?_ ?_
  · exact complete_some (complete_named "bool")
  · exact formattable_binary (formattable_binary (formattable_invocation _ _ _) (hstart _)) (hstart _)

theorem complete_returning {condition value : Expr} (hcondition : condition.Formattable)
    (hvalue : value.Formattable) :
    Complete (Statement.expr (.conditional condition [.expr (.giveBack (some value)) true] .none)
      false).layout :=
  complete_statement (formattable_conditional hcondition
    (List.forall_mem_singleton.mpr (complete_statement (formattable_giveBack hvalue))))

theorem complete_validationCheck : Complete validationCheck.layout := by
  refine complete_returning (formattable_call (formattable_names _) ?_) (formattable_carrying _ _)
  exact List.forall_mem_singleton.mpr (formattable_names _)

theorem complete_lookup (strategy : Strategy) (cases : List Case) :
    ∀ s ∈ lookup strategy cases unknown, Complete s.layout := by
  cases strategy with
  | matching =>
    refine List.forall_mem_singleton.mpr (complete_statement (formattable_select
      (formattable_names _) (List.forall_mem_append.mpr ⟨List.forall_mem_map.mpr fun c _ => ?_,
        List.forall_mem_singleton.mpr ?_⟩)))
    · exact complete_arm (by simp [Pattern.layout]) (formattable_names _) rfl
    · exact complete_arm (by simp [Pattern.layout]) (formattable_carrying _ _) rfl
  | chain =>
    refine List.forall_mem_append.mpr ⟨List.forall_mem_map.mpr fun c _ => ?_,
      List.forall_mem_singleton.mpr (complete_statement (formattable_carrying _ _))⟩
    exact complete_returning (formattable_binary (formattable_names _) (formattable_literal _))
      (formattable_names _)

theorem complete_routine (strategy : Strategy) {body : List Statement}
    (hbody : ∀ s ∈ body, Complete s.layout) :
    Complete (routine (documentation strategy) body).layout := by
  refine complete_function rfl ?_ (by simp) ?_ hbody
  · exact List.forall_mem_map.mpr fun line _ => isPlain_doc line
  · exact complete_some (complete_named "Self")

theorem complete_members (strategy : Strategy) (policy : Policy) (cases : List Case) :
    ∀ m ∈ members strategy policy cases unknown, Complete m.layout := by
  have hlookup : ∀ s ∈ lookup strategy cases unknown, Complete s.layout :=
    complete_lookup strategy cases
  unfold members
  split
  · refine List.forall_mem_cons.mpr ⟨complete_validationHelper, List.forall_mem_singleton.mpr ?_⟩
    exact complete_routine strategy (List.forall_mem_cons.mpr ⟨complete_validationCheck, hlookup⟩)
  · exact List.forall_mem_singleton.mpr (complete_routine strategy hlookup)

/-! ## All items -/

/-- **Every item of a module has a complete layout.** -/
theorem complete_itemsFor (strategy : Strategy) (expected : String) :
    ∀ item ∈ itemsFor strategy policy expected model unknown, Complete item.layout := by
  refine List.forall_mem_append.mpr ⟨List.forall_mem_append.mpr ⟨?_, ?_⟩, complete_displayItems⟩
  · rw [optionSet_eq]
    refine List.forall_mem_append.mpr ⟨List.forall_mem_cons.mpr
      ⟨complete_optionSetRecord expected, List.forall_mem_singleton.mpr ?_⟩,
      complete_conformanceImpl _⟩
    exact complete_implementation nofun (complete_named _) complete_optionSetMembers
  · refine List.forall_mem_cons.mpr ⟨complete_errorEnum, List.forall_mem_singleton.mpr ?_⟩
    exact complete_implementation nofun (complete_named _)
      (List.forall_mem_append.mpr ⟨complete_members strategy policy _, complete_accessors⟩)

end ErrorModule

end WireErrors
