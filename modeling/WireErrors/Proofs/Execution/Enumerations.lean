import WireErrors.Proofs.Execution.Interpreter
import WireErrors.Proofs.ErrorModule.Spelling
import WireErrors.Proofs.Normalization

/-!
# The names of an error type

The variants of an error type and the functions of a decode routine share one set of names. Whether a
function is hidden by a variant depends on the name for unknown errors alone: all other variants
consist of letters, while the functions have a `_` in their names (`variantNamed?_function`).
`Resolves` says when each name in a routine stands for what it is meant for.
-/

namespace WireErrors

open Source Text

/-! ## Keys -/

namespace Source

variable {comparison : Comparison} {name variant : String}

theorem withoutRaw_of_not_mem (h : '#' ∉ name.toList) : withoutRaw name = name := by
  unfold withoutRaw
  split
  next plain hraw =>
    rw [hraw] at h
    exact absurd (by simp) h
  next => rfl

theorem Comparison.key_of_lt (h : ∀ c ∈ name.toList, c.toNat < 0xC0 ∧ c ≠ '#') :
    comparison.key name = name := by
  cases comparison with
  | spellings => rfl
  | identifiers =>
    have hhash : '#' ∉ name.toList := fun hmem => (h _ hmem).2 rfl
    rw [Comparison.key, identity, withoutRaw_of_not_mem hhash, normalForm_of_lt fun c hc => (h c hc).1]

theorem Comparison.key_eq_self {text : String} (hhash : '#' ∉ text.toList)
    (h : ∀ c ∈ (comparison.key text).toList, IsOwn c) : comparison.key text = text := by
  cases comparison with
  | spellings => rfl
  | identifiers =>
    rw [Comparison.key, identity, withoutRaw_of_not_mem hhash] at h ⊢
    exact eq_of_normalForm h

/-- No variant that consists of letters has the name of a function with another character in it. -/
theorem Comparison.key_ne_of_letters (hvariant : ∀ c ∈ variant.toList, IsLetter c)
    (hname : ∀ c ∈ name.toList, IsOwn c) (hother : ∃ c ∈ name.toList, ¬IsLetter c) :
    comparison.key variant ≠ name := by
  obtain ⟨c, hc, hsign⟩ := hother
  rintro rfl
  have hhash : '#' ∉ variant.toList := fun hmem => absurd (hvariant _ hmem) (by decide)
  exact hsign (hvariant c (Comparison.key_eq_self hhash hname ▸ hc))

end Source

/-! ## The enumeration -/

namespace Decoder

variable {comparison : Comparison} {type : String} {policy : Policy} {names : List String}
  {unknown name : String}

/-- The enumeration that a routine decodes to. -/
def enumeration (type : String) (policy : Policy) (names : List String) (unknown : String) : Item :=
  ErrorTypes.errorEnum
    { error := type
      optionSet := type ++ "Types"
      unknown := unknown
      validation := if policy.validation then some Policy.validationVariant else none }
    policy.serializable (ErrorModule.declaredFor names)

theorem enumeration_eq (model : Model) (policy : Policy) (names : List String) (unknown : String) :
    ErrorTypes.errorEnum (ErrorModule.namesFor model policy unknown) policy.serializable
        (ErrorModule.declaredFor names) =
      enumeration model.errorType policy names unknown := by
  unfold enumeration ErrorTypes.errorEnum ErrorModule.namesFor
  rfl

def variantNames (policy : Policy) (names : List String) (unknown : String) : List String :=
  names.map variantName ++ policy.reserved ++ [unknown]

/-- The variants of the enumeration, all of which have a text in them or nothing. -/
theorem exists_variants (type : String) (policy : Policy) (names : List String) (unknown : String) :
    ∃ heading variants, enumeration type policy names unknown = .enumeration heading variants ∧
      heading.name = type ∧ variants.map (·.name) = variantNames policy names unknown ∧
      (∀ name ∈ names, ∃ v ∈ variants, v.name = variantName name ∧ v.takes 0 = true) ∧
      ∀ name ∈ policy.reserved ++ [unknown], ∃ v ∈ variants, v.name = name ∧ v.takes 1 = true := by
  refine ⟨_, _, rfl, rfl, ?_, fun name hname => ?_, fun name hname => ?_⟩
  · unfold variantNames Policy.reserved ErrorModule.declaredFor
    cases policy.validation <;> simp [ErrorTypes.carryingVariant]
  · refine ⟨_, List.mem_append_left _ (List.mem_append_left _ (List.mem_map_of_mem
      (List.mem_map_of_mem hname))), rfl, rfl⟩
  · rcases List.mem_append.mp hname with hreserved | hlast
    · refine ⟨_, List.mem_append_left _ (List.mem_append_right _ (List.mem_map_of_mem ?_)), rfl, rfl⟩
      unfold Policy.reserved at hreserved
      cases hvalidation : policy.validation with
      | false => simp [hvalidation] at hreserved
      | true => simpa [hvalidation] using hreserved
    · obtain rfl := List.mem_singleton.mp hlast
      exact ⟨_, List.mem_append_right _ (List.mem_singleton_self _), rfl, rfl⟩

/-- Whether the names in a routine stand for what they are meant for. -/
structure Resolves (comparison : Comparison) (policy : Policy) (names : List String)
    (unknown : String) : Prop where
  variants_separate : ((variantNames policy names unknown).map comparison.key).Nodup
  helper_visible : policy.validation = true → comparison.key unknown ≠ "is_validation_error"

instance (comparison : Comparison) (policy : Policy) (names : List String) (unknown : String) :
    Decidable (Resolves comparison policy names unknown) :=
  decidable_of_iff
    (((variantNames policy names unknown).map comparison.key).Nodup ∧
      (policy.validation = true → comparison.key unknown ≠ "is_validation_error"))
    ⟨fun h => ⟨h.1, h.2⟩, fun h => ⟨h.variants_separate, h.helper_visible⟩⟩

theorem find?_of_nodup {α : Type} {key : α → String} {list : List α} {a : α}
    (hnodup : (list.map key).Nodup) (ha : a ∈ list) : list.find? (key · == key a) = some a := by
  induction list with
  | nil => cases ha
  | cons b list ih =>
    rw [List.map_cons, List.nodup_cons] at hnodup
    rw [List.find?_cons]
    rcases List.mem_cons.mp ha with rfl | hmem
    · rw [beq_self_eq_true]
    · have hne : key b ≠ key a := fun heq => hnodup.1 (heq ▸ List.mem_map_of_mem hmem)
      rw [beq_eq_false_iff_ne.mpr hne]
      exact ih hnodup.2 hmem

theorem variantNamed?_of_separate (type : String)
    (hseparate : ((variantNames policy names unknown).map comparison.key).Nodup) :
    (∀ name ∈ names, ∃ v, (enumeration type policy names unknown).variantNamed? comparison type
        (variantName name) = some v ∧ v.takes 0 = true) ∧
      ∀ name ∈ policy.reserved ++ [unknown], ∃ v,
        (enumeration type policy names unknown).variantNamed? comparison type name = some v ∧
          v.takes 1 = true := by
  obtain ⟨heading, variants, henum, hheading, hnames, hdeclared, hcarrying⟩ :=
    exists_variants type policy names unknown
  rw [← hnames, List.map_map] at hseparate
  have hfind : ∀ v ∈ variants, (enumeration type policy names unknown).variantNamed? comparison type
      v.name = some v := by
    intro v hv
    rw [henum, Item.variantNamed?, if_pos hheading]
    exact find?_of_nodup hseparate hv
  constructor
  · intro name hname
    obtain ⟨v, hv, heq, htakes⟩ := hdeclared name hname
    exact ⟨v, heq ▸ hfind v hv, htakes⟩
  · intro name hname
    obtain ⟨v, hv, heq, htakes⟩ := hcarrying name hname
    exact ⟨v, heq ▸ hfind v hv, htakes⟩

theorem separates_enumeration : (enumeration type policy names unknown).separates comparison =
    decide ((variantNames policy names unknown).map comparison.key).Nodup := by
  obtain ⟨heading, variants, henum, -, hnames, -⟩ := exists_variants type policy names unknown
  rw [henum, Item.separates, ← hnames, List.map_map]
  rfl

/-- A function of the routine is hidden by the variant for unknown errors or by none. -/
theorem variantNamed?_function (comparison : Comparison) (type : String) (policy : Policy)
    (names : List String) (unknown : String) (hplain : ∀ c ∈ name.toList, IsOwn c ∧ c ≠ '#')
    (hother : ∃ c ∈ name.toList, ¬IsLetter c) :
    ((enumeration type policy names unknown).variantNamed? comparison type name).isSome = true ↔
      comparison.key unknown = name := by
  obtain ⟨heading, variants, henum, hheading, hnames, -⟩ := exists_variants type policy names unknown
  have hkey : comparison.key name = name := Comparison.key_of_lt fun c hc =>
    ⟨Nat.lt_trans (hplain c hc).1.1 (by decide), (hplain c hc).2⟩
  have hletters : ∀ variant ∈ names.map variantName ++ policy.reserved,
      comparison.key variant ≠ name := by
    intro variant hvariant
    refine Comparison.key_ne_of_letters ?_ (fun c hc => (hplain c hc).1) hother
    rcases List.mem_append.mp hvariant with hvariant | hvariant
    · obtain ⟨declared, -, rfl⟩ := List.mem_map.mp hvariant
      exact fun c hc => isLetter_of_mem_variantName hc
    · unfold Policy.reserved at hvariant
      split at hvariant
      · rw [List.mem_singleton.mp hvariant]
        decide
      · cases hvariant
  have hmem : (∃ v ∈ variants, comparison.key v.name = name) ↔
      ∃ variant ∈ variantNames policy names unknown, comparison.key variant = name := by
    rw [← hnames]
    simp
  rw [henum, Item.variantNamed?, if_pos hheading, List.find?_isSome]
  simp only [beq_iff_eq, hkey]
  rw [hmem]
  constructor
  · rintro ⟨variant, hvariant, heq⟩
    rcases List.mem_append.mp hvariant with hvariant | hvariant
    · exact absurd heq (hletters variant hvariant)
    · rwa [List.mem_singleton.mp hvariant] at heq
  · exact fun heq => ⟨unknown, List.mem_append_right _ (List.mem_singleton_self _), heq⟩

theorem resolves_spellings_iff (haccepted : NamesAccepted names unknown policy.reserved) :
    Resolves .spellings policy names unknown ↔
      (policy.validation = true → unknown ≠ "is_validation_error") := by
  refine ⟨fun h => h.helper_visible, fun h => ⟨?_, h⟩⟩
  have hkeys : (variantNames policy names unknown).map (Comparison.key .spellings) =
      variantNames policy names unknown := List.map_id _
  rw [hkeys, variantNames, List.nodup_append]
  refine ⟨?_, List.nodup_singleton _, ?_⟩
  · rw [List.nodup_append]
    refine ⟨haccepted.variants_nodup, ?_, ?_⟩
    · unfold Policy.reserved
      split <;> simp
    · rintro variant hvariant reserved hreserved rfl
      obtain ⟨name, hname, rfl⟩ := List.mem_map.mp hvariant
      exact haccepted.variants_unreserved name hname hreserved
  · rintro variant hvariant other hother rfl
    rw [List.mem_singleton.mp hother] at hvariant
    rcases List.mem_append.mp hvariant with hvariant | hvariant
    · exact haccepted.unknown_no_variant hvariant
    · exact haccepted.unknown_unreserved hvariant

end Decoder

end WireErrors
