import WireErrors.ErrorModule
import WireErrors.Proofs.Declared
import WireErrors.Proofs.Emission.Sequencing

/-!
# Accepted names

What a list of declared names and a name for unknown errors have to fulfil, as one structure, and
that the check of names accepts exactly those and refuses all others for the first violation
(`validateNames_decides`). Then what the tables of identifiers hold once all of them could be spelled.
The rest of the theory knows the check only through `NamesAccepted`.
-/

namespace WireErrors

open Source

/-! ## The contract of names -/

/-- Names with variants of their own, apart from the reserved ones, and another name for unknown
errors. -/
structure NamesAccepted (names : List String) (unknown : String) (reserved : List String) :
    Prop where
  names_nodup : names.Nodup
  variants_identifiers : ∀ name ∈ names, isIdentifier (variantName name) = true
  variants_unreserved : ∀ name ∈ names, variantName name ∉ reserved
  variants_nodup : (names.map variantName).Nodup
  unknown_identifier : isIdentifier unknown = true
  unknown_undeclared : unknown ∉ names
  unknown_no_variant : unknown ∉ names.map variantName
  unknown_unreserved : unknown ∉ reserved

theorem any_withVariant_iff {names : List String} {unknown : String} :
    ((names.map withVariant).any fun (name, variant) => name == unknown || variant == unknown) = true ↔
      unknown ∈ names ∨ unknown ∈ names.map variantName := by
  simp only [List.any_map, List.any_eq_true, Function.comp_apply, withVariant, Bool.or_eq_true,
    beq_iff_eq, List.mem_map]
  constructor
  · rintro ⟨name, hmem, rfl | hvariant⟩
    · exact .inl hmem
    · exact .inr ⟨name, hmem, hvariant⟩
  · rintro (hmem | ⟨name, hmem, hvariant⟩)
    · exact ⟨unknown, hmem, .inl rfl⟩
    · exact ⟨name, hmem, .inr hvariant⟩

/-! ## The check -/

/-- The first reason for which a name cannot stand for unknown errors beside declared ones. -/
inductive BlamesUnknown (reserved names : List String) (unknown : String) : Violation → Prop
  | invalid (hinvalid : isIdentifier unknown = false) :
      BlamesUnknown reserved names unknown (.invalidIdentifier unknown)
  | collision (hidentifier : isIdentifier unknown = true)
      (hdeclared : unknown ∈ names ∨ unknown ∈ names.map variantName) :
      BlamesUnknown reserved names unknown (.unknownCollision unknown)
  | reserved (hidentifier : isIdentifier unknown = true) (hundeclared : unknown ∉ names)
      (hdistinct : unknown ∉ names.map variantName) (hreserved : unknown ∈ reserved) :
      BlamesUnknown reserved names unknown (.reservedName unknown)

variable {names reserved : List String} {unknown : String} {violation : Violation}

theorem NamesAccepted.declared (h : NamesAccepted names unknown reserved) :
    DeclaredAccepted names reserved :=
  ⟨h.names_nodup, h.variants_identifiers, h.variants_unreserved, h.variants_nodup⟩

theorem BlamesUnknown.not_accepted (h : BlamesUnknown reserved names unknown violation) :
    ¬NamesAccepted names unknown reserved := by
  intro haccepted
  cases h with
  | invalid hinvalid => exact absurd (hinvalid.symm.trans haccepted.unknown_identifier) nofun
  | collision _ hdeclared =>
    exact hdeclared.elim haccepted.unknown_undeclared haccepted.unknown_no_variant
  | reserved _ _ _ hreserved => exact haccepted.unknown_unreserved hreserved

theorem BlamesUnknown.unique {other : Violation}
    (h : BlamesUnknown reserved names unknown violation)
    (hother : BlamesUnknown reserved names unknown other) : violation = other := by
  cases h with
  | invalid hinvalid =>
    cases hother with
    | invalid => rfl
    | collision hidentifier | reserved hidentifier =>
      exact absurd (hinvalid.symm.trans hidentifier) nofun
  | collision hidentifier hdeclared =>
    cases hother with
    | invalid hinvalid => exact absurd (hinvalid.symm.trans hidentifier) nofun
    | collision => rfl
    | reserved _ hundeclared hdistinct => exact absurd hdeclared (not_or.mpr ⟨hundeclared, hdistinct⟩)
  | reserved hidentifier hundeclared hdistinct =>
    cases hother with
    | invalid hinvalid => exact absurd (hinvalid.symm.trans hidentifier) nofun
    | collision _ hdeclared => exact absurd hdeclared (not_or.mpr ⟨hundeclared, hdistinct⟩)
    | reserved => rfl

/-- The last step: behind declared names that are accepted, the name for unknown errors decides. -/
theorem checkNames_step (h : DeclaredAccepted names reserved) (unknown : String) :
    (NamesAccepted names unknown reserved ∧ checkNames names unknown reserved = .ok ()) ∨
    ∃ violation, BlamesUnknown reserved names unknown violation ∧
      checkNames names unknown reserved = .error violation := by
  rw [checkNames, checkDeclared_of_accepted h]
  dsimp only
  by_cases hinvalid : isIdentifier unknown = false
  · exact .inr ⟨_, .invalid hinvalid, if_pos (by simp [hinvalid])⟩
  rw [Bool.not_eq_false] at hinvalid
  rw [if_neg (by simp [hinvalid])]
  by_cases hcollides : unknown ∈ names ∨ unknown ∈ names.map variantName
  · exact .inr ⟨_, .collision hinvalid hcollides, if_pos (any_withVariant_iff.mpr hcollides)⟩
  rw [if_neg fun hany => hcollides (any_withVariant_iff.mp hany)]
  obtain ⟨hundeclared, hdistinct⟩ := not_or.mp hcollides
  by_cases hreserved : unknown ∈ reserved
  · exact .inr ⟨_, .reserved hinvalid hundeclared hdistinct hreserved,
      if_pos (by simpa using hreserved)⟩
  · exact .inl ⟨⟨h.names_nodup, h.variants_identifiers, h.variants_unreserved, h.variants_nodup,
      hinvalid, hundeclared, hdistinct, hreserved⟩, if_neg (by simpa using hreserved)⟩

theorem declared_cases (names reserved : List String) :
    DeclaredAccepted names reserved ∨ ¬DeclaredAccepted names reserved ∧
      ∃ violation, checkDeclared reserved [] names = .error violation ∧
        ∀ unknown, checkNames names unknown reserved = .error violation := by
  cases hcheck : checkDeclared reserved [] names with
  | ok accepted => exact .inl ((checkDeclared_eq_ok_iff declaredAccepted_nil).mp hcheck).1
  | error violation =>
    refine .inr ⟨fun haccepted => ?_, violation, rfl, fun unknown => ?_⟩
    · rw [checkDeclared_of_accepted haccepted] at hcheck
      cases hcheck
    · rw [checkNames, hcheck]

theorem checkNames_eq_ok_iff :
    checkNames names unknown reserved = .ok () ↔ NamesAccepted names unknown reserved := by
  rcases declared_cases names reserved with hdeclared | ⟨hnot, violation, -, hcheck⟩
  · rcases checkNames_step hdeclared unknown with ⟨haccepted, hcheck⟩ | ⟨violation, hblames, hcheck⟩
    · exact iff_of_true hcheck haccepted
    · rw [hcheck]
      exact iff_of_false nofun hblames.not_accepted
  · rw [hcheck]
    exact iff_of_false nofun fun haccepted => hnot haccepted.declared

theorem checkNames_eq_error_iff :
    checkNames names unknown reserved = .error violation ↔
      (∃ earlier name later, names = earlier ++ name :: later ∧
        DeclaredAccepted earlier reserved ∧ Blames reserved earlier name violation) ∨
      (DeclaredAccepted names reserved ∧ BlamesUnknown reserved names unknown violation) := by
  have hrefused : checkDeclared reserved [] names = .error violation ↔
      ∃ earlier name later, names = earlier ++ name :: later ∧
        DeclaredAccepted earlier reserved ∧ Blames reserved earlier name violation :=
    checkDeclared_eq_error_iff declaredAccepted_nil
  rw [← hrefused]
  rcases declared_cases names reserved with hdeclared | ⟨hnot, other, hother, hcheck⟩
  · rw [checkDeclared_of_accepted hdeclared, and_iff_right hdeclared]
    rcases checkNames_step hdeclared unknown with ⟨haccepted, hcheck⟩ | ⟨other, hblames, hcheck⟩
    · rw [hcheck]
      exact iff_of_false nofun fun h => h.elim nofun fun hblames => hblames.not_accepted haccepted
    · rw [hcheck, Except.error.injEq]
      constructor
      · rintro rfl
        exact .inr hblames
      · exact fun h => h.elim nofun hblames.unique
  · rw [hcheck, hother, Except.error.injEq, Except.error.injEq]
    exact ⟨.inl, fun h => h.resolve_right fun hunknown => hnot hunknown.1⟩

/-! ## The check as an emission -/

/-- The log entry for names that are refused. -/
def rejection (target : String) (violation : Violation) : Event :=
  ⟨.warn, "error model rejected: " ++ violation.message, [("target_name", target)]⟩

/-- A logged refusal. -/
def refusal (target : String) (violation : Violation) : Emission Unit :=
  ⟨[.event (rejection target violation)], .error (.refused (.contract target violation))⟩

@[simp] theorem result_refusal (target : String) (violation : Violation) :
    (refusal target violation).result = .error (.refused (.contract target violation)) := rfl

theorem validateNames_of_ok {target : String} (h : checkNames names unknown reserved = .ok ()) :
    validateNames target names unknown reserved = pure () := by
  unfold validateNames
  rw [h]

theorem validateNames_of_error {target : String}
    (h : checkNames names unknown reserved = .error violation) :
    validateNames target names unknown reserved = refusal target violation := by
  unfold validateNames
  rw [h]
  rfl

@[simp] theorem result_validateNames (target : String) (names : List String) (unknown : String)
    (reserved : List String) :
    (validateNames target names unknown reserved).result =
      (checkNames names unknown reserved).mapError fun violation =>
        .refused (.contract target violation) := by
  cases hcheck : checkNames names unknown reserved with
  | ok =>
    rw [validateNames_of_ok hcheck]
    rfl
  | error violation =>
    rw [validateNames_of_error hcheck]
    exact result_refusal target violation

@[simp] theorem blocks_validateNames (target : String) (names : List String) (unknown : String)
    (reserved : List String) : (validateNames target names unknown reserved).blocks = [] := by
  cases hcheck : checkNames names unknown reserved with
  | ok =>
    rw [validateNames_of_ok hcheck]
    rfl
  | error violation =>
    rw [validateNames_of_error hcheck]
    rfl

theorem accepted_of_validateNames {target : String} {names : List String} {unknown : String}
    {reserved : List String} (h : (validateNames target names unknown reserved).result = .ok ()) :
    NamesAccepted names unknown reserved := by
  rw [result_validateNames] at h
  cases hcheck : checkNames names unknown reserved with
  | error violation =>
    rw [hcheck] at h
    cases h
  | ok => exact checkNames_eq_ok_iff.mp hcheck

/-- **The check of names decides its contract and blames the right name.** It accepts exactly the
names that fulfil the contract. It refuses with a violation of the target exactly when this is the
first one: that of a declared name behind accepted ones, or, when all declared names are accepted,
that of the name for unknown errors. -/
theorem validateNames_decides (target : String) (names : List String) (unknown : String)
    (reserved : List String) :
    ((validateNames target names unknown reserved).result = .ok () ↔
      NamesAccepted names unknown reserved) ∧
    ∀ failure, (validateNames target names unknown reserved).result = .error failure ↔
      ∃ violation, failure = .refused (.contract target violation) ∧
        ((∃ earlier name later, names = earlier ++ name :: later ∧
          DeclaredAccepted earlier reserved ∧ Blames reserved earlier name violation) ∨
        (DeclaredAccepted names reserved ∧ BlamesUnknown reserved names unknown violation)) := by
  rw [← checkNames_eq_ok_iff]
  simp only [← checkNames_eq_error_iff, result_validateNames]
  cases checkNames names unknown reserved with
  | ok => simp
  | error violation => simp [eq_comm]

/-- A reserved name is blamed before one that is declared again behind it. -/
example : (validateNames "rust" ["Missing", "Denied", "Missing"] "UnknownError" ["Denied"]).result =
    .error (.refused (.contract "rust" (.reservedName "Denied"))) := rfl

/-! ## Spelled identifiers -/

theorem spell_eq_ok_iff {text word : String} :
    spell text = .ok word ↔ isSpelled text = true ∧ word = text := by
  unfold spell
  split
  next h => simp [h, eq_comm]
  next h => simp [h]

theorem spellAll_eq_ok_iff {texts words : List String} :
    spellAll texts = .ok words ↔ (∀ text ∈ texts, isSpelled text = true) ∧ words = texts := by
  induction texts generalizing words with
  | nil =>
    rw [spellAll, Except.ok.injEq, eq_comm]
    simp
  | cons text rest ih =>
    rw [spellAll, List.forall_mem_cons]
    by_cases htext : isSpelled text = false
    · have hspell : spell text = .error (.unspellable text) := by simp [spell, htext]
      rw [hspell]
      exact ⟨nofun, fun h => absurd (htext.symm.trans h.1.1) nofun⟩
    rw [Bool.not_eq_false] at htext
    have hspell : spell text = .ok text := if_pos htext
    rw [hspell]
    cases hrest : spellAll rest with
    | error failure =>
      have hnot : ¬∀ other ∈ rest, isSpelled other = true := by
        intro hall
        have := ih.mpr ⟨hall, rfl⟩
        rw [hrest] at this
        cases this
      exact ⟨nofun, fun h => absurd h.1.2 hnot⟩
    | ok others =>
      obtain ⟨hall, rfl⟩ := ih.mp hrest
      simp only [Except.ok.injEq]
      constructor
      · rintro rfl
        exact ⟨⟨htext, hall⟩, rfl⟩
      · rintro ⟨-, rfl⟩
        rfl

theorem casesOf_eq_ok_iff {names : List String} {cases : List Case} :
    casesOf names = .ok cases ↔
      (∀ name ∈ names, isSpelled (variantName name) = true) ∧
      cases = names.map fun name => ⟨name, variantName name⟩ := by
  have hzip : List.zipWith Case.mk names (names.map variantName) =
      names.map fun name => ⟨name, variantName name⟩ := by
    rw [List.zipWith_map_right, List.zipWith_self]
  unfold casesOf
  cases hspell : spellAll (names.map variantName) with
  | error failure =>
    refine ⟨nofun, fun h => ?_⟩
    have := spellAll_eq_ok_iff.mpr ⟨List.forall_mem_map.mpr h.1, rfl⟩
    rw [hspell] at this
    cases this
  | ok variants =>
    obtain ⟨hall, rfl⟩ := spellAll_eq_ok_iff.mp hspell
    rw [Except.map, hzip, Except.ok.injEq]
    exact ⟨fun h => ⟨List.forall_mem_map.mp hall, h.symm⟩, fun h => h.2.symm⟩

end WireErrors
