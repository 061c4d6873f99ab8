import WireErrors.Proofs.ErrorModule.Items

/-!
# Words of a module

Types go by one word in a module: the two that the module defines, and some that every module knows
(`mem_typeWords_iff`). Longer paths start with the name of a library (`mem_pathRoots_iff`). What is
imported stands beside these words.
-/

namespace WireErrors

namespace Source

theorem last?_ofNames (names : List String) : (Import.ofNames names).last? = names.getLast? := by
  fun_induction Import.ofNames names with
  | case1 => rfl
  | case2 name => rfl
  | case3 name rest hrest ih =>
    rw [Import.last?, ih, List.getLast?_cons_of_ne_nil hrest]

end Source

open Source

namespace ErrorModule

open ErrorTypes Decoder

variable {policy : Policy} {model : Model} {unknown : String}

/-! ## Words of types -/

/-- The words that types go by in a module, beside the one for the type that an item is about. -/
def wordsFor (policy : Policy) (model : Model) : List String :=
  [model.errorType, model.optionSetType, "String", "Option", "str"] ++
    if policy.validation then ["bool"] else []

/-- The words in the types of an item. -/
def itemWords (word? : Route → Option String) (item : Item) : List String :=
  item.types.flatMap (TypeExpr.words word?)

def memberWords (word? : Route → Option String) (members : List Member) : List String :=
  (members.flatMap Member.types).flatMap (TypeExpr.words word?)

theorem itemWords_implementation (interface : Option TypeExpr) (type : String)
    (members : List Member) : itemWords Route.single? (implementation interface type members) =
      type :: memberWords Route.single? members := rfl

theorem memberWords_append (word? : Route → Option String) (first second : List Member) :
    memberWords word? (first ++ second) = memberWords word? first ++ memberWords word? second := by
  simp only [memberWords, List.flatMap_append]

theorem mem_memberWords_constants {word? : Route → Option String} {names : List String}
    {word : String} (h : word ∈ memberWords word? ((declaredFor names).map constantDeclaration)) :
    word ∈ TypeExpr.words word? (.named "Self") := by
  simp only [memberWords, List.flatMap_map] at h
  obtain ⟨type, htype, hword⟩ := List.mem_flatMap.mp h
  obtain ⟨d, -, hd⟩ := List.mem_flatMap.mp htype
  rwa [List.mem_singleton.mp hd] at hword

theorem mem_optionSetMembers_words {word : String} :
    word ∈ memberWords Route.single? (optionSetMembers model) ↔ word ∈ ["Self", "str"] := by
  have hrest : ∀ names, memberWords Route.single? [.function (allFunction names),
      getter .everyone true " Wire identifier of the error" "description"
        (staticReference (.named "str")) description] = ["Self", "str"] := fun _ => rfl
  rw [optionSetMembers, memberWords_append, hrest, List.mem_append]
  refine ⟨fun h => h.elim (fun hconstant => ?_) id, .inr⟩
  rw [List.mem_singleton.mp (mem_memberWords_constants hconstant)]
  exact List.mem_cons_self

theorem memberWords_members (strategy : Strategy) (names : List String) :
    memberWords Route.single? (members strategy policy (casesFor names) unknown) =
      (if policy.validation then ["str", "bool"] else []) ++ ["str", "Self"] := by
  unfold members
  cases policy.validation <;> rfl

theorem memberWords_accessors : memberWords Route.single? (accessors (namesFor model policy unknown)
    (declaredFor model.sortedNames)) = ["str", "Option", model.optionSetType] := rfl

theorem itemWords_errorEnum (word? : Route → Option String) (names : List String)
    (serializable : Bool) :
    itemWords word? (errorEnum (namesFor model policy unknown) serializable (declaredFor names)) =
      (policy.reserved ++ [unknown]).flatMap fun _ => TypeExpr.words word? (.named "String") := by
  have hdeclared : ∀ declared : List Declared, (declared.map fun d =>
      ({ attributes := [.docText (" The `" ++ d.name ++ "` error")], name := d.variant } :
        Variant)).flatMap (·.fields.types) = [] := by
    intro declared
    rw [List.flatMap_map]
    exact List.flatMap_eq_nil_iff.mpr fun _ _ => rfl
  unfold itemWords errorEnum Item.types namesFor Policy.reserved
  simp only [List.flatMap_append, hdeclared]
  cases policy.validation <;> simp [carryingVariant, Fields.types]

theorem mem_itemWords_errorEnum {names : List String} {serializable : Bool} {word : String} :
    word ∈ itemWords Route.single? (errorEnum (namesFor model policy unknown) serializable
      (declaredFor names)) ↔ word = "String" := by
  have hwords : TypeExpr.words Route.single? (.named "String") = ["String"] := rfl
  rw [itemWords_errorEnum, hwords]
  simp

theorem mem_displayItems_words {word : String}
    (h : word ∈ (displayItems policy model unknown).flatMap (itemWords Route.single?)) :
    word = model.errorType := by
  unfold displayItems at h
  split at h
  · have hwords : (display (namesFor model policy unknown) (declaredFor model.sortedNames)).flatMap
        (itemWords Route.single?) = [model.errorType, model.errorType] := rfl
    rw [hwords] at h
    simpa using h
  · cases h

theorem mem_conformanceImpl_words {conformance : Conformance} {type word : String}
    (h : word ∈ (conformanceImpl conformance type).flatMap (itemWords Route.single?)) :
    word = type ∨ word = "str" := by
  cases conformance with
  | none => cases h
  | display =>
    have hwords : (conformanceImpl .display type).flatMap (itemWords Route.single?) = [type] := rfl
    rw [hwords] at h
    exact .inl (List.mem_singleton.mp h)
  | custom library interface =>
    have hwords : (conformanceImpl (.custom library interface) type).flatMap
        (itemWords Route.single?) = [type, "str"] := rfl
    rw [hwords] at h
    simpa using h

theorem filterMap_definedType? (strategy : Strategy) (expected : String) :
    (itemsFor strategy policy expected model unknown).filterMap Item.definedType? =
      [model.optionSetType, model.errorType] := by
  have hconformance : (conformanceImpl policy.conformance model.optionSetType).filterMap
      Item.definedType? = [] := by
    cases policy.conformance <;> rfl
  have hdisplay : (displayItems policy model unknown).filterMap Item.definedType? = [] := by
    unfold displayItems
    split <;> rfl
  rw [itemsFor, optionSet_eq]
  simp only [List.filterMap_append, hconformance, hdisplay]
  rfl

theorem mem_errorMembers_words {strategy : Strategy} {word : String} :
    word ∈ memberWords Route.single? (errorMembers strategy policy model unknown) ↔
      word ∈ ["str", "Self", "Option", model.optionSetType] ++
        if policy.validation then ["bool"] else [] := by
  rw [errorMembers, memberWords_append, memberWords_members, memberWords_accessors]
  cases policy.validation <;> grind

/-- **What words types go by in a module.** -/
theorem mem_typeWords_iff (strategy : Strategy) (policy : Policy) (expected : String) (model : Model)
    (unknown word : String) :
    word ∈ typeWords (itemsFor strategy policy expected model unknown) ↔
      word ∈ wordsFor policy model ∨ word = "Self" := by
  have hrecord : itemWords Route.single? (optionSetRecord model.optionSetType expected) = ["str"] :=
    rfl
  rw [typeWords, filterMap_definedType?, itemsFor, optionSet_eq]
  show _ ∈ _ ++ List.flatMap (itemWords Route.single?) _ ↔ _
  simp only [List.flatMap_append, List.flatMap_cons, List.flatMap_nil, List.mem_append, hrecord,
    itemWords_implementation, List.mem_cons, mem_optionSetMembers_words, mem_itemWords_errorEnum,
    mem_errorMembers_words, wordsFor]
  have hconformance : word ∈ (conformanceImpl policy.conformance model.optionSetType).flatMap
      (itemWords Route.single?) → word = model.optionSetType ∨ word = "str" :=
    mem_conformanceImpl_words
  have hdisplay : word ∈ (displayItems policy model unknown).flatMap (itemWords Route.single?) →
      word = model.errorType := mem_displayItems_words
  grind

/-! ## Starts of paths -/

/-- No name that can be written is the word for the type that an item is about, which has no raw
form. -/
theorem key_ne_self {comparison : Comparison} {name : String} (hspelled : isSpelled name = true)
    (hkeyword : isKeyword name = false) : comparison.key name ≠ "Self" := by
  intro hself
  have hplain : withoutRaw name = "Self" ∨ name = "Self" := by
    cases comparison with
    | spellings => exact .inr hself
    | identifiers =>
      have hform : Text.normalForm (withoutRaw name) = "Self" := hself
      refine .inl ((Text.eq_of_normalForm ?_).symm.trans hform)
      rw [hform]
      decide
  rcases isSpelled_cases hspelled with hspelling | ⟨plain, hraw, -, hnever⟩
  · have hhash : '#' ∉ name.toList := fun hmem =>
      absurd (isWordChar_of_isPlainSpelling hspelling hmem) (by decide)
    rw [withoutRaw_of_not_mem hhash, or_self] at hplain
    rw [hplain] at hkeyword
    exact absurd hkeyword (by decide)
  · rcases hplain with hplain | rfl
    · rw [withoutRaw, hraw] at hplain
      rw [show String.ofList plain = "Self" from hplain] at hnever
      exact absurd hnever (by decide)
    · have hhead : "Self".toList.head? = some 'r' := by rw [hraw]; rfl
      exact absurd hhead (by decide)

theorem imported?_conformanceImport (path : Path) (interface : String) :
    (conformanceImport path interface).imported? = some interface := by
  show (Import.ofNames (path.segments ++ [interface])).last? = some interface
  rw [last?_ofNames, List.getLast?_concat]

end ErrorModule

end WireErrors
