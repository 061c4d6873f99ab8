import WireErrors.Proofs.ErrorModule.Staging
import WireErrors.Proofs.Letters

/-!
# What can be written as an identifier

Derived names can be written as identifiers once they are accepted as such: they hold letters only.
The name for unknown errors and the trait of a custom conformance are taken as they are given; for
these, being accepted leaves open whether they are bare.
-/

namespace WireErrors

open Source Text

/-! ## Derived names -/

theorem isPlainSpelling_of_isSpelled {text : String} (h : isSpelled text = true)
    (hhash : '#' ∉ text.toList) : isPlainSpelling text.toList = true := by
  rcases isSpelled_cases h with hplain | ⟨plain, hraw, -⟩
  · exact hplain
  · rw [hraw] at hhash
    exact absurd (by simp) hhash

theorem isSpelled_of_isPlainSpelling {text : String} (h : isPlainSpelling text.toList = true) :
    isSpelled text = true := by
  have hspelled := spelledChars_plain h
  rwa [SpelledChars, String.ofList_toList] at hspelled

/-- An identifier of letters is spelled as it is. -/
theorem isPlainSpelling_of_letters {text : String} (h : isIdentifier text = true)
    (hletters : ∀ c ∈ text.toList, IsLetter c) : isPlainSpelling text.toList = true := by
  have hbare : IsBare text := fun c hc => (hletters c hc).not_skipped
  refine isPlainSpelling_of_isSpelled ((isSpelled_iff_isBare h).mpr hbare) fun hhash => ?_
  exact absurd (hletters _ hhash) (by decide)

theorem isLetter_of_mem_variantName {name : String} {c : Char} (h : c ∈ (variantName name).toList) :
    IsLetter c := by
  rw [variantName, String.toList_ofList] at h
  exact isLetter_of_mem_upperCamel h

theorem isPlainSpelling_variantName {name : String} (h : isIdentifier (variantName name) = true) :
    isPlainSpelling (variantName name).toList = true :=
  isPlainSpelling_of_letters h fun _ hc => isLetter_of_mem_variantName hc

theorem isSpelled_variantName {name : String} (h : isIdentifier (variantName name) = true) :
    isSpelled (variantName name) = true :=
  isSpelled_of_isPlainSpelling (isPlainSpelling_variantName h)

theorem isSpelled_constantName {name : String} (h : isIdentifier (variantName name) = true) :
    isSpelled (constantName name) = true := by
  have hvariant := isPlainSpelling_variantName h
  rw [variantName, String.toList_ofList] at hvariant
  refine isSpelled_of_isPlainSpelling ?_
  rw [constantName, String.toList_ofList]
  exact isPlainSpelling_shoutySnake hvariant

/-! ## Names of types -/

theorem isLetter_of_mem_named {name suffix : String} (hsuffix : ∀ c ∈ suffix.toList, IsLetter c) :
    ∀ c ∈ (variantName name ++ suffix).toList, IsLetter c := by
  rw [String.toList_append]
  exact List.forall_mem_append.mpr ⟨fun c hc => isLetter_of_mem_variantName hc, hsuffix⟩

theorem isPlainSpelling_errorType {model : Model} (h : isIdentifier model.errorType = true) :
    isPlainSpelling model.errorType.toList = true :=
  isPlainSpelling_of_letters h (isLetter_of_mem_named (by decide))

theorem isPlainSpelling_append {start first second : List Char}
    (h : isPlainSpelling (start ++ first) = true) (hsecond : isPlainSpelling second = true)
    (hcontinue : second.all isIdentContinue = true) : isPlainSpelling (start ++ second) = true := by
  cases start with
  | nil => exact hsecond
  | cons c start =>
    rw [List.cons_append, isPlainSpelling, List.all_append, Bool.and_eq_true,
      Bool.and_eq_true] at h ⊢
    exact ⟨h.1, h.2.1, hcontinue⟩

theorem isSpelled_optionSetType {model : Model} (h : isIdentifier model.errorType = true) :
    isSpelled model.optionSetType = true := by
  have herror := isPlainSpelling_errorType h
  rw [Model.errorType, String.toList_append] at herror
  refine isSpelled_of_isPlainSpelling ?_
  rw [Model.optionSetType, String.toList_append]
  exact isPlainSpelling_append herror (by decide) (by decide)

/-! ## Tables of identifiers -/

section

variable {policy : Policy} {model : Model} {names : List String} {unknown : String}

theorem NamesAccepted.variants_spelled {reserved : List String}
    (h : NamesAccepted names unknown reserved) : ∀ name ∈ names, isSpelled (variantName name) = true :=
  fun name hname => isSpelled_variantName (h.variants_identifiers name hname)

theorem NamesAccepted.constants_spelled {reserved : List String}
    (h : NamesAccepted names unknown reserved) : ∀ name ∈ names, isSpelled (constantName name) = true :=
  fun name hname => isSpelled_constantName (h.variants_identifiers name hname)

theorem spell_of_isIdentifier {text : String} (h : isIdentifier text = true) :
    spell text = if IsBare text then .ok text else .error (.unspellable text) := by
  unfold spell
  simp only [isSpelled_iff_isBare h]

theorem Decoder.result_emit_of_accepted (strategy : Strategy) (target : String)
    (h : checkNames names unknown policy.reserved = .ok ()) :
    (Decoder.emit strategy target policy names unknown).result =
      if IsBare unknown then .ok () else .error (.unspellable unknown) := by
  have haccepted := checkNames_eq_ok_iff.mp h
  have hcases : casesOf names = .ok (casesFor names) :=
    casesOf_eq_ok_iff.mpr ⟨haccepted.variants_spelled, rfl⟩
  unfold Decoder.emit
  simp only [Emission.result_bind, result_validateNames, h, mapError_ok,
    Emission.result_forM_log, Emission.result_ofExcept, hcases,
    spell_of_isIdentifier haccepted.unknown_identifier]
  split <;> rfl

namespace ErrorModule

theorem typeNames_of_isIdentifier (policy : Policy) (herror : isIdentifier model.errorType = true)
    (hunknown : isIdentifier unknown = true) :
    typeNames model policy unknown =
      if IsBare unknown then .ok (namesFor model policy unknown)
      else .error (.unspellable unknown) := by
  have herrorWord : spell model.errorType = .ok model.errorType :=
    spell_eq_ok_iff.mpr ⟨isSpelled_of_isPlainSpelling (isPlainSpelling_errorType herror), rfl⟩
  have hoptionWord : spell model.optionSetType = .ok model.optionSetType :=
    spell_eq_ok_iff.mpr ⟨isSpelled_optionSetType herror, rfl⟩
  unfold typeNames
  rw [herrorWord, hoptionWord, spell_of_isIdentifier hunknown]
  split <;> rfl

theorem declare_of_accepted {reserved : List String} (h : NamesAccepted names unknown reserved) :
    declare names = .ok (declaredFor names) := by
  have hconstants : spellAll (names.map constantName) = .ok (names.map constantName) :=
    spellAll_eq_ok_iff.mpr ⟨List.forall_mem_map.mpr h.constants_spelled, rfl⟩
  have hcases : casesOf names = .ok (casesFor names) :=
    casesOf_eq_ok_iff.mpr ⟨h.variants_spelled, rfl⟩
  unfold declare
  rw [hconstants, hcases]
  show Except.ok (List.zipWith _ (casesFor names) (names.map constantName)) = _
  rw [casesFor, List.zipWith_map, List.zipWith_self]
  rfl

theorem importBlock_of_checked (h : policy.check = .ok ()) :
    ∃ imports, importBlock policy.conformance =
      if IsBare policy.conformance.expected then .ok imports
      else .error (.unspellable policy.conformance.expected) := by
  cases hconformance : policy.conformance with
  | display => exact ⟨[], (if_pos (by decide)).symm⟩
  | none => exact ⟨[], (if_pos (by decide)).symm⟩
  | custom library interface =>
    obtain ⟨hidentifier, path, hpath⟩ := custom_of_check h hconformance
    have hexpected : (Conformance.custom library interface).expected = interface := rfl
    refine ⟨[ErrorTypes.text [ErrorTypes.conformanceImport path interface]], ?_⟩
    rw [hexpected]
    simp only [importBlock, hpath, spell_of_isIdentifier hidentifier]
    split <;> rfl

theorem importBlock_error {policy : Policy} {failure : Failure} (h : policy.check = .ok ())
    (himport : importBlock policy.conformance = .error failure) :
    failure = .unspellable policy.conformance.expected := by
  obtain ⟨imports, hblock⟩ := importBlock_of_checked h
  rw [himport] at hblock
  split at hblock
  · cases hblock
  · exact Except.error.inj hblock

end ErrorModule

end

end WireErrors
