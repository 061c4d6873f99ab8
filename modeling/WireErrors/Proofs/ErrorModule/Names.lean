import WireErrors.Proofs.Casing
import WireErrors.Proofs.ErrorModule.Staging
import WireErrors.Proofs.Source.Documents

/-!
# Identifiers of a module

All identifiers in the blocks of a staged module can stand in source text as they are, and none is a
keyword (`Staged.named`). Not all of them have been checked: the constants are not, and neither is the
name of the option set.
-/

namespace WireErrors

open Source

namespace ErrorModule

/-- What all identifiers of a module fulfil. -/
structure Named (policy : Policy) (model : Model) (unknown : String) : Prop where
  error : IsName model.errorType
  optionSet : IsName model.optionSetType
  unknown : IsName unknown
  variants : ∀ name ∈ model.sortedNames, IsName (variantName name)
  constants : ∀ name ∈ model.sortedNames, IsName (constantName name)
  interface : ∀ library interface, policy.conformance = .custom library interface →
    IsName interface

theorem isKeyword_append {suffix : String} (hsuffix : ∀ keyword ∈ keywords,
    suffix.toList.isSuffixOf keyword.toList = false) (start : String) :
    isKeyword (start ++ suffix) = false := by
  rw [Bool.eq_false_iff]
  intro hkeyword
  have hno := hsuffix _ (List.contains_iff_mem.mp hkeyword)
  rw [String.toList_append, List.isSuffixOf_iff_suffix.mpr (List.suffix_append ..)] at hno
  cases hno

theorem Staged.named {delegate : Delegate} {model : Model} {unknown : String}
    {imports : List String} (h : Staged delegate model unknown imports) :
    Named delegate.policy model unknown where
  error := ⟨h.error_spelled, isKeyword_append (by decide) _⟩
  optionSet := ⟨h.optionSet_spelled, isKeyword_append (by decide) _⟩
  unknown := ⟨h.unknown_spelled,
    isKeyword_of_isIdentifier h.unknown_spelled h.accepted.unknown_identifier⟩
  variants name hname := ⟨h.variants_spelled name hname,
    isKeyword_of_isIdentifier (h.variants_spelled name hname)
      (h.accepted.variants_identifiers name hname)⟩
  constants name hname := ⟨h.constants_spelled name hname,
    isKeyword_constantName (h.accepted.variants_identifiers name hname)⟩
  interface library interface hcustom := ⟨h.interface_spelled library interface hcustom,
    isKeyword_of_isIdentifier (h.interface_spelled library interface hcustom)
      (isIdentifier_interface (check_eq_ok_of_validate h.policy_valid) hcustom)⟩

theorem isName_validationVariant : IsName Policy.validationVariant := ⟨by decide, by decide⟩

theorem eq_of_mem_validation {policy : Policy} {model : Model} {unknown variant : String}
    (h : variant ∈ (namesFor model policy unknown).validation.toList) :
    variant = Policy.validationVariant := by
  unfold namesFor at h
  cases hvalidation : policy.validation with
  | false => simp [hvalidation] at h
  | true => simpa [hvalidation] using h

end ErrorModule

end WireErrors
