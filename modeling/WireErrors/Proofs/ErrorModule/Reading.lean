import WireErrors.Proofs.Decoder.Blocks
import WireErrors.Proofs.ErrorModule.Types

/-!
# Reading the items of a module

The items of a module are read one by one, if all of its identifiers are names (`yields_items`).
-/

namespace WireErrors

open Source Source.Reader

namespace ErrorModule

open ErrorTypes Decoder

/-! ## Items -/

theorem yields_errorImpl (type : String) (htype : isKeyword type = false) {depth rounds : Nat}
    (rest : List Token) :
    Yields (Reader.readers (depth + 14)).item (rounds + 12)
      ((implementation (some (.names ["std", "error", "Error"])) type []).tokens ++ rest)
      (implementation (some (.names ["std", "error", "Error"])) type []) rest := by
  rw [tokens_interface, List.cons_append, List.append_assoc, List.cons_append, List.cons_append,
    group_append]
  exact yields_interface htype ⟨rfl, rfl, rfl, rfl⟩ rfl rfl rfl rfl

theorem display_eq (policy : Policy) (model : Model) (unknown : String) :
    display (namesFor model policy unknown) (declaredFor model.sortedNames) =
      [displayImpl model.errorType (.select (.names ["self"]) [] (displayArms policy model unknown)),
        implementation (some (.names ["std", "error", "Error"])) model.errorType []] := by
  simp only [display, displayArms, declaredArms]
  rfl

variable {strategy : Strategy} {policy : Policy} {expected : String} {model : Model}
  {unknown : String} {depth rounds : Nat}

theorem yields_displayItems (hnamed : Named policy model unknown)
    (hrounds : model.sortedNames.length + 2 < rounds + 12) :
    ∀ item ∈ displayItems policy model unknown, ∀ rest,
      Yields (Reader.readers (depth + 14)).item (rounds + 12) (item.tokens ++ rest) item rest := by
  have hlength : (displayArms policy model unknown).length < rounds + 12 :=
    Nat.lt_of_le_of_lt (length_displayArms_le ..) hrounds
  intro item hitem rest
  unfold displayItems at hitem
  split at hitem
  · rw [display_eq] at hitem
    rcases List.mem_cons.mp hitem with rfl | hitem
    · exact yields_displayImpl hnamed.error.word (fun _ => rfl) (fun _ =>
        yields_table (readsArm_displayArms hnamed) hlength) rest
    · obtain rfl := List.mem_singleton.mp hitem
      exact yields_errorImpl _ hnamed.error.word rest
  · cases hitem

theorem yields_optionSet (hnamed : Named policy model unknown)
    (hrounds : model.sortedNames.length + 2 < rounds + 12) :
    ∀ item ∈ optionSet (namesFor model policy unknown) policy.conformance expected
        (declaredFor model.sortedNames), ∀ rest,
      Yields (Reader.readers (depth + 14)).item (rounds + 12) (item.tokens ++ rest) item rest := by
  intro item hitem rest
  rw [optionSet_eq] at hitem
  rcases List.mem_append.mp hitem with hitem | hitem
  · rcases List.mem_cons.mp hitem with rfl | hitem
    · exact yields_optionSetRecord hnamed.optionSet.word rest
    · obtain rfl := List.mem_singleton.mp hitem
      exact yields_optionSetMembers hnamed.optionSet.word
        (fun name hname => (hnamed.constants name hname).word) hrounds rest
  · exact yields_conformanceImpl hnamed.optionSet.word
      (fun library interface hcustom => (hnamed.interface library interface hcustom).word) item
      hitem rest

theorem yields_errorMembers (hnamed : Named policy model unknown)
    (hrounds : model.sortedNames.length + 2 < rounds + 12) (rest : List Token) :
    Yields (Reader.readers (depth + 14)).item (rounds + 12)
      ((implementation none model.errorType (errorMembers strategy policy model unknown)).tokens ++
        rest)
      (implementation none model.errorType (errorMembers strategy policy model unknown)) rest := by
  have hvariants := fun name hname => (hnamed.variants name hname).word
  have haccessors : ∀ m ∈ accessors (namesFor model policy unknown) (declaredFor model.sortedNames),
      ∀ rest, Yields (member (Reader.readers (depth + 13))) (rounds + 12) (m.tokens ++ rest) m rest ∧
        isEnd (m.tokens ++ rest) = false :=
    yields_accessors hnamed hrounds
  exact yields_members_inherent strategy hvariants hnamed.unknown.word hnamed.error.word haccessors
    (show 2 < 10 by decide) hrounds rest

theorem yields_items (hnamed : Named policy model unknown)
    (hrounds : model.sortedNames.length + 2 < rounds + 12) :
    ∀ item ∈ itemsFor strategy policy expected model unknown, ∀ rest,
      Yields (Reader.readers (depth + 14)).item (rounds + 12) (item.tokens ++ rest) item rest := by
  intro item hitem rest
  rcases List.mem_append.mp hitem with hitem | hitem
  · rcases List.mem_append.mp hitem with hitem | hitem
    · exact yields_optionSet hnamed hrounds item hitem rest
    · rcases List.mem_cons.mp hitem with rfl | hitem
      · exact yields_errorEnum hnamed hrounds rest
      · obtain rfl := List.mem_singleton.mp hitem
        exact yields_errorMembers hnamed hrounds rest
  · exact yields_displayItems hnamed hrounds item hitem rest

end ErrorModule

end WireErrors
