import WireErrors.Proofs.ErrorModule.Names
import WireErrors.Proofs.ErrorModule.Outcome

/-!
# Derived names can be written

The check of names looks at variants, and the check behind it at the error type; constants and the
name of the option set are derived beside them and never checked. They can be written nevertheless
(`derived_names_written`): generation only gets stuck at a text that it takes as it is given.
-/

namespace WireErrors

open Source

/-! ## Constants -/

theorem spell_of_isSpelled {text : String} (h : isSpelled text = true) : spell text = .ok text :=
  spell_eq_ok_iff.mpr ⟨h, rfl⟩

theorem isIdentifier_constantName {name : String} (h : isIdentifier (variantName name) = true) :
    isIdentifier (constantName name) = true := by
  rw [isIdentifier_of_isSpelled (isSpelled_constantName h), isKeyword_constantName h]
  rfl

namespace ErrorModule

/-! ## Names of types -/

/-- What is written of the names of a model. -/
structure TypesWritten (model : Model) : Prop where
  error : spell model.errorType = .ok model.errorType
  optionSet : spell model.optionSetType = .ok model.optionSetType
  optionSet_identifier : isIdentifier model.optionSetType = true

theorem isIdentifier_optionSetType {model : Model} (h : isIdentifier model.errorType = true) :
    isIdentifier model.optionSetType = true := by
  have hkeyword : isKeyword model.optionSetType = false := isKeyword_append (by decide) _
  rw [isIdentifier_of_isSpelled (isSpelled_optionSetType h), hkeyword]
  rfl

theorem typesWritten_of_isIdentifier {model : Model} (h : isIdentifier model.errorType = true) :
    TypesWritten model where
  error := spell_of_isSpelled (isSpelled_of_isPlainSpelling (isPlainSpelling_errorType h))
  optionSet := spell_of_isSpelled (isSpelled_optionSetType h)
  optionSet_identifier := isIdentifier_optionSetType h

/-! ## Declared names -/

/-- What is written of declared names: their variants and constants, one by one and in the tables
that blocks are made of. -/
structure DeclaredWritten (names : List String) : Prop where
  variant : ∀ name ∈ names, spell (variantName name) = .ok (variantName name)
  constant : ∀ name ∈ names, spell (constantName name) = .ok (constantName name)
  constant_identifier : ∀ name ∈ names, isIdentifier (constantName name) = true
  cases : casesOf names = .ok (casesFor names)
  table : declare names = .ok (declaredFor names)

theorem declaredWritten_of_accepted {names : List String} {unknown : String}
    {reserved : List String} (h : NamesAccepted names unknown reserved) : DeclaredWritten names where
  variant name hname := spell_of_isSpelled (h.variants_spelled name hname)
  constant name hname := spell_of_isSpelled (h.constants_spelled name hname)
  constant_identifier name hname := isIdentifier_constantName (h.variants_identifiers name hname)
  cases := casesOf_eq_ok_iff.mpr ⟨h.variants_spelled, rfl⟩
  table := declare_of_accepted h

/-! ## Whole modules -/

theorem of_spelling_unspellable {unknown expected text : String}
    (h : spelling unknown expected = .error (.unspellable text)) : text ∈ [unknown, expected] := by
  unfold spelling at h
  split at h
  · cases h
    exact List.mem_cons_self
  · split at h
    · cases h
      exact List.mem_cons_of_mem _ List.mem_cons_self
    · cases h

theorem of_emit_unspellable {strategy : Strategy} {target : String} {policy : Policy} {model : Model}
    {unknown text : String} (h : (emit (strategy.delegate target policy) model unknown).result =
      .error (.unspellable text)) : text ∈ [unknown, policy.conformance.expected] := by
  rw [result_emit_eq_outcome] at h
  unfold outcome at h
  rcases of_except_bind_eq_error h with hpolicy | ⟨_, -, h⟩
  · cases hvalidate : policy.validate target with
    | error error =>
      rw [hvalidate] at hpolicy
      cases hpolicy
    | ok =>
      rw [hvalidate] at hpolicy
      cases hpolicy
  rcases of_except_bind_eq_error h with hnames | ⟨_, -, h⟩
  · cases hcheck : checkNames model.sortedNames unknown policy.reserved with
    | error violation =>
      rw [hcheck] at hnames
      cases hnames
    | ok =>
      rw [hcheck] at hnames
      cases hnames
  split at h
  · cases h
  · exact of_spelling_unspellable h

/-- **Derived names can be written.** If the variant of a text is an identifier, its constant is one,
too. All variants and constants of accepted names are written as identifiers, and so are both types of
a model whose error type is one. A module of a built-in delegate is therefore stuck at no name but
the one for unknown errors or the trait of its conformance. -/
theorem derived_names_written {names reserved : List String} {target unknown : String}
    {model : Model} (hnames : (validateNames target names unknown reserved).result = .ok ())
    (herror : isIdentifier model.errorType = true) :
    (∀ text, isIdentifier (variantName text) = true → isIdentifier (constantName text) = true) ∧
    DeclaredWritten names ∧ TypesWritten model ∧
    ∀ (strategy : Strategy) (policy : Policy) (text : String),
      (emit (strategy.delegate target policy) model unknown).result = .error (.unspellable text) →
      text ∈ [unknown, policy.conformance.expected] :=
  ⟨fun _ => isIdentifier_constantName,
    declaredWritten_of_accepted (accepted_of_validateNames hnames),
    typesWritten_of_isIdentifier herror, fun _ _ _ => of_emit_unspellable⟩

/-- Letters that two capitals stand for, and a base name of two words. -/
theorem derived_names_written_sharp :
    spell "ʼN_STRASSE" = .ok "ʼN_STRASSE" ∧ isIdentifier "ʼN_STRASSE" = true ∧
      spell "AwsQueueErrorTypes" = .ok "AwsQueueErrorTypes" := by
  have hnames : (validateNames "rust" ["ŉ-straße", "HTTPError"] "UnknownError" []).result =
      .ok () := by rfl
  have herror : isIdentifier (Model.mk "aws-queue" []).errorType = true := by decide +kernel
  obtain ⟨-, hdeclared, htypes, -⟩ := derived_names_written hnames herror
  have hconstant : constantName "ŉ-straße" = "ʼN_STRASSE" := by decide +kernel
  have hname : "ŉ-straße" ∈ ["ŉ-straße", "HTTPError"] := List.mem_cons_self
  rw [← hconstant]
  exact ⟨hdeclared.constant _ hname, hdeclared.constant_identifier _ hname, htypes.optionSet⟩

end ErrorModule

end WireErrors
