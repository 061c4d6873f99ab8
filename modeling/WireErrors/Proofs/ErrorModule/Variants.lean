import WireErrors.Proofs.Execution.Enumerations

/-!
# Variants as identifiers

The check of names compares texts, while the variants of an enumeration have to differ as
identifiers: a raw identifier is the plain one, different ways to compose a character make no
difference, and what stands around an identifier does not count. Texts that differ may therefore be
the same variant, those of declared errors and the name for unknown errors alike
(`variants_nodup_iff`).
-/

namespace WireErrors

open Source Text

/-! ## Denoted identifiers -/

theorem identity_of_letters {text : String} (hletters : ∀ c ∈ text.toList, IsLetter c) :
    identity text = normalForm text := by
  have hhash : '#' ∉ text.toList := fun hmem => absurd (hletters _ hmem) (by decide)
  rw [identity, withoutRaw_of_not_mem hhash]

theorem identifier?_of_letters {text : String} (h : isIdentifier text = true)
    (hletters : ∀ c ∈ text.toList, IsLetter c) : identifier? text = some (normalForm text) := by
  obtain ⟨name, hread, -⟩ := exists_of_isIdentifier h
  obtain rfl := eq_of_read_ident hread fun c hc => (hletters c hc).not_skipped
  rw [identifier?, hread]
  exact congrArg some (identity_of_letters hletters)

theorem exists_identifier {text : String} (h : isIdentifier text = true) :
    ∃ word, identifier? text = some word := by
  obtain ⟨name, hread, -⟩ := exists_of_isIdentifier h
  exact ⟨identity name, by rw [identifier?, hread]⟩

/-! ## Variants of the error enum -/

/-- The names of the variants of an enumeration. -/
def variantsOf : Item → List String
  | .enumeration _ variants => variants.map (·.name)
  | _ => []

namespace ErrorModule

variable {target : String} {names : List String} {unknown : String} {policy : Policy}

theorem validation_toList (model : Model) (policy : Policy) (unknown : String) :
    (namesFor model policy unknown).validation.toList = policy.reserved := by
  unfold namesFor Policy.reserved
  cases policy.validation <;> rfl

theorem variantsOf_errorEnum (model : Model) (policy : Policy) (names : List String)
    (unknown : String) :
    variantsOf (ErrorTypes.errorEnum (namesFor model policy unknown) policy.serializable
      (declaredFor names)) = Decoder.variantNames policy names unknown := by
  obtain ⟨heading, variants, henum, -, hnames, -⟩ :=
    Decoder.exists_variants model.errorType policy names unknown
  rw [Decoder.enumeration_eq, henum]
  exact hnames

theorem normalForm_reserved (policy : Policy) :
    ∀ variant ∈ policy.reserved, normalForm variant = variant := by
  unfold Policy.reserved
  split
  · exact List.forall_mem_singleton.mpr (normalForm_of_lt (by decide))
  · nofun

/-- No declared variant is the reserved one, whatever its characters are composed of. -/
theorem normalForm_unreserved (h : NamesAccepted names unknown policy.reserved) :
    ∀ name ∈ names, normalForm (variantName name) ∉ policy.reserved := by
  intro name hname hmem
  refine h.variants_unreserved name hname ?_
  have hown : ∀ variant ∈ policy.reserved, ∀ c ∈ variant.toList, IsOwn c := by
    unfold Policy.reserved
    split
    · exact List.forall_mem_singleton.mpr (by decide)
    · nofun
  rwa [eq_of_normalForm (hown _ hmem)] at hmem

theorem identifier?_of_mem (h : NamesAccepted names unknown policy.reserved) :
    ∀ variant ∈ names.map variantName ++ policy.reserved,
      identifier? variant = some (normalForm variant) := by
  intro variant hvariant
  rcases List.mem_append.mp hvariant with hvariant | hvariant
  · obtain ⟨name, hname, rfl⟩ := List.mem_map.mp hvariant
    exact identifier?_of_letters (h.variants_identifiers name hname) fun c hc =>
      isLetter_of_mem_variantName hc
  · unfold Policy.reserved at hvariant
    split at hvariant
    · rw [List.mem_singleton.mp hvariant]
      exact identifier?_of_letters rfl (by decide)
    · cases hvariant

theorem nodup_known (h : NamesAccepted names unknown policy.reserved) :
    ((names.map variantName ++ policy.reserved).map normalForm).Nodup ↔
      (names.map fun name => normalForm (variantName name)).Nodup := by
  have hreserved : (policy.reserved.map normalForm).Nodup := by
    rw [List.map_congr_left (normalForm_reserved policy), List.map_id']
    unfold Policy.reserved
    split <;> simp
  rw [List.map_append, List.map_map, List.nodup_append]
  refine ⟨And.left, fun hnodup => ⟨hnodup, hreserved, fun form hform other hother => ?_⟩⟩
  obtain ⟨name, hname, rfl⟩ := List.mem_map.mp hform
  obtain ⟨variant, hvariant, rfl⟩ := List.mem_map.mp hother
  intro heq
  have hsame : normalForm (variantName name) = variant :=
    heq.trans (normalForm_reserved policy variant hvariant)
  exact normalForm_unreserved h name hname (hsame ▸ hvariant)

/-- **When the variants of the error enum differ as identifiers.** The check of names compares the
variants of declared errors and the name for unknown errors as texts. As identifiers, they differ
exactly if the normal forms of declared variants do and what the name for unknown errors denotes is
none of them and not reserved; so they do if all of these texts are the identifiers that they denote. -/
theorem variants_nodup_iff (model : Model)
    (h : (validateNames target names unknown policy.reserved).result = .ok ()) :
    ∃ word, identifier? unknown = some word ∧
      (((variantsOf (ErrorTypes.errorEnum (namesFor model policy unknown) policy.serializable
        (declaredFor names))).map identifier?).Nodup ↔
          (names.map fun name => normalForm (variantName name)).Nodup ∧
          word ∉ (names.map fun name => normalForm (variantName name)) ++ policy.reserved) ∧
      ((∀ name ∈ names, normalForm (variantName name) = variantName name) → word = unknown →
        ((variantsOf (ErrorTypes.errorEnum (namesFor model policy unknown) policy.serializable
          (declaredFor names))).map identifier?).Nodup) := by
  have haccepted := accepted_of_validateNames h
  obtain ⟨word, hword⟩ := exists_identifier haccepted.unknown_identifier
  have hiff : ((variantsOf (ErrorTypes.errorEnum (namesFor model policy unknown) policy.serializable
      (declaredFor names))).map identifier?).Nodup ↔
        (names.map fun name => normalForm (variantName name)).Nodup ∧
        word ∉ (names.map fun name => normalForm (variantName name)) ++ policy.reserved := by
    have hknown : (names.map variantName ++ policy.reserved).map identifier? =
        ((names.map variantName ++ policy.reserved).map normalForm).map some := by
      rw [List.map_map]
      exact List.map_congr_left (identifier?_of_mem haccepted)
    have hforms : (names.map variantName ++ policy.reserved).map normalForm =
        (names.map fun name => normalForm (variantName name)) ++ policy.reserved := by
      rw [List.map_append, List.map_map, List.map_congr_left (normalForm_reserved policy),
        List.map_id']
      rfl
    rw [variantsOf_errorEnum, Decoder.variantNames, List.map_append, hknown, List.map_singleton, hword,
      List.nodup_append, List.nodup_map_iff fun _ _ => Option.some.inj, nodup_known haccepted, hforms]
    refine and_congr_right fun _ => ⟨fun hdiffer hmem => ?_, fun hnot => ⟨by simp, ?_⟩⟩
    · exact hdiffer.2 _ (List.mem_map_of_mem hmem) _ (List.mem_singleton_self _) rfl
    · rintro _ hmem _ hlast rfl
      rw [List.mem_singleton.mp hlast] at hmem
      obtain ⟨form, hform, heq⟩ := List.mem_map.mp hmem
      exact hnot (Option.some.inj heq ▸ hform)
  refine ⟨word, hword, hiff, ?_⟩
  rintro hstable rfl
  rw [hiff, List.map_congr_left hstable]
  refine ⟨haccepted.variants_nodup, fun hmem => ?_⟩
  rcases List.mem_append.mp hmem with hmem | hmem
  · exact haccepted.unknown_no_variant hmem
  · exact haccepted.unknown_unreserved hmem

theorem variants_nodup_throttling :
    ((variantsOf (ErrorTypes.errorEnum
      (namesFor ⟨"Queue", []⟩ ⟨.display, true, true, true⟩ "UnknownError") true
      (declaredFor ["Throttling", "Missing"]))).map identifier?).Nodup := by
  have haccepted : (validateNames "rust" ["Throttling", "Missing"] "UnknownError"
      (Policy.reserved ⟨.display, true, true, true⟩)).result = .ok () := rfl
  obtain ⟨word, hword, hnodup, hplain⟩ := variants_nodup_iff ⟨"Queue", []⟩ haccepted
  have hunknown : identifier? "UnknownError" = some "UnknownError" := by decide +kernel
  refine hplain (by decide +kernel) ?_
  exact (Option.some.inj (hunknown.symm.trans hword)).symm

/-- A raw name for unknown errors is accepted beside the variant that it denotes. -/
theorem variants_raw_collision :
    (validateNames "rust" ["Throttling"] "r#Throttling" (Policy.plain .display).reserved).result =
        .ok () ∧
      ((variantsOf (ErrorTypes.errorEnum
        (namesFor ⟨"Queue", []⟩ (.plain .display) "r#Throttling") false
        (declaredFor ["Throttling"]))).map identifier?) =
        [some "Throttling", some "Throttling"] := ⟨rfl, rfl⟩

end ErrorModule

end WireErrors
