import Mathlib.Data.List.Nodup
import WireErrors.Model

/-!
# Declared names, one by one

The check of declared names takes in each name that fits behind the ones before it (`Fits`) and stops
at the first that does not, with the first reason that applies to it (`Blames`). One name is decided
by `checkDeclared_step`; what a whole list is accepted as or refused for follows by induction.
-/

namespace WireErrors

open Source

/-! ## Names that fit -/

/-- The conditions that declared names fulfil without regard to the name for unknown errors. -/
structure DeclaredAccepted (names reserved : List String) : Prop where
  names_nodup : names.Nodup
  variants_identifiers : ∀ name ∈ names, isIdentifier (variantName name) = true
  variants_unreserved : ∀ name ∈ names, variantName name ∉ reserved
  variants_nodup : (names.map variantName).Nodup

/-- A name that can be declared behind earlier ones. -/
structure Fits (reserved earlier : List String) (name : String) : Prop where
  fresh : name ∉ earlier
  identifier : isIdentifier (variantName name) = true
  unreserved : variantName name ∉ reserved
  distinct : variantName name ∉ earlier.map variantName

/-- A declared name beside its variant. -/
def withVariant (name : String) : String × String := (name, variantName name)

variable {names reserved earlier : List String} {name : String} {violation : Violation}

theorem declaredAccepted_nil : DeclaredAccepted [] reserved :=
  ⟨List.nodup_nil, nofun, nofun, List.nodup_nil⟩

theorem declaredAccepted_concat :
    DeclaredAccepted (earlier ++ [name]) reserved ↔
      DeclaredAccepted earlier reserved ∧ Fits reserved earlier name := by
  have hconcat : ∀ (items : List String) (item : String),
      (items ++ [item]).Nodup ↔ items.Nodup ∧ item ∉ items := fun items item => by
    rw [← List.concat_eq_append, List.nodup_concat, and_comm]
  have hall : ∀ p : String → Prop, (∀ other ∈ earlier ++ [name], p other) ↔
      (∀ other ∈ earlier, p other) ∧ p name := fun p => by
    rw [List.forall_mem_append, List.forall_mem_singleton]
  constructor
  · rintro ⟨hnames, hidentifiers, hunreserved, hvariants⟩
    rw [List.map_append, List.map_singleton] at hvariants
    rw [hconcat] at hnames hvariants
    rw [hall] at hidentifiers hunreserved
    exact ⟨⟨hnames.1, hidentifiers.1, hunreserved.1, hvariants.1⟩,
      ⟨hnames.2, hidentifiers.2, hunreserved.2, hvariants.2⟩⟩
  · rintro ⟨⟨hnames, hidentifiers, hunreserved, hvariants⟩, hfits⟩
    refine ⟨(hconcat _ _).mpr ⟨hnames, hfits.fresh⟩, (hall _).mpr ⟨hidentifiers, hfits.identifier⟩,
      (hall _).mpr ⟨hunreserved, hfits.unreserved⟩, ?_⟩
    rw [List.map_append, List.map_singleton]
    exact (hconcat _ _).mpr ⟨hvariants, hfits.distinct⟩

theorem DeclaredAccepted.of_append {later : List String}
    (h : DeclaredAccepted (earlier ++ later) reserved) : DeclaredAccepted earlier reserved where
  names_nodup := h.names_nodup.of_append_left
  variants_identifiers other hother := h.variants_identifiers other (List.mem_append_left _ hother)
  variants_unreserved other hother := h.variants_unreserved other (List.mem_append_left _ hother)
  variants_nodup := by
    have hvariants := h.variants_nodup
    rw [List.map_append] at hvariants
    exact hvariants.of_append_left

theorem DeclaredAccepted.fits {later : List String}
    (h : DeclaredAccepted (earlier ++ name :: later) reserved) : Fits reserved earlier name := by
  have hsplit : earlier ++ name :: later = (earlier ++ [name]) ++ later := by simp
  rw [hsplit] at h
  exact (declaredAccepted_concat.mp h.of_append).2

/-! ## Reasons -/

/-- The first reason for which a name cannot be declared behind earlier ones. -/
inductive Blames (reserved earlier : List String) (name : String) : Violation → Prop
  | duplicate (hrepeated : name ∈ earlier) : Blames reserved earlier name (.duplicateName name)
  | invalid (hfresh : name ∉ earlier) (hinvalid : isIdentifier (variantName name) = false) :
      Blames reserved earlier name (.invalidIdentifier name)
  | reserved (hfresh : name ∉ earlier) (hidentifier : isIdentifier (variantName name) = true)
      (hreserved : variantName name ∈ reserved) :
      Blames reserved earlier name (.reservedName name)
  /-- The name shares its variant with one earlier name and no other. -/
  | collision (hfresh : name ∉ earlier) (hidentifier : isIdentifier (variantName name) = true)
      (hunreserved : variantName name ∉ reserved) {first : String} (hfirst : first ∈ earlier)
      (hvariant : variantName first = variantName name)
      (honly : ∀ other ∈ earlier, variantName other = variantName name → other = first) :
      Blames reserved earlier name (.variantCollision first name (variantName name))

theorem Blames.not_fits (h : Blames reserved earlier name violation) :
    ¬Fits reserved earlier name := by
  intro hfits
  cases h with
  | duplicate hrepeated => exact hfits.fresh hrepeated
  | invalid _ hinvalid => exact absurd (hinvalid.symm.trans hfits.identifier) nofun
  | reserved _ _ hreserved => exact hfits.unreserved hreserved
  | collision _ _ _ hfirst hvariant _ =>
    exact hfits.distinct (List.mem_map.mpr ⟨_, hfirst, hvariant⟩)

theorem Blames.unique {other : Violation} (h : Blames reserved earlier name violation)
    (hother : Blames reserved earlier name other) : violation = other := by
  cases h with
  | duplicate hrepeated =>
    cases hother with
    | duplicate => rfl
    | invalid hfresh | reserved hfresh | collision hfresh => exact absurd hrepeated hfresh
  | invalid hfresh hinvalid =>
    cases hother with
    | duplicate hrepeated => exact absurd hrepeated hfresh
    | invalid => rfl
    | reserved _ hidentifier | collision _ hidentifier =>
      exact absurd (hinvalid.symm.trans hidentifier) nofun
  | reserved hfresh hidentifier hreserved =>
    cases hother with
    | duplicate hrepeated => exact absurd hrepeated hfresh
    | invalid _ hinvalid => exact absurd (hinvalid.symm.trans hidentifier) nofun
    | reserved => rfl
    | collision _ _ hunreserved => exact absurd hreserved hunreserved
  | collision hfresh hidentifier hunreserved hfirst hvariant _ =>
    cases hother with
    | duplicate hrepeated => exact absurd hrepeated hfresh
    | invalid _ hinvalid => exact absurd (hinvalid.symm.trans hidentifier) nofun
    | reserved _ _ hreserved => exact absurd hreserved hunreserved
    | collision _ _ _ _ _ honly => rw [honly _ hfirst hvariant]

/-! ## The check, name by name -/

/-- One step: a name that fits is taken in, and any other ends the check for the first reason that
applies to it. -/
theorem checkDeclared_step (h : DeclaredAccepted earlier reserved) (name : String)
    (rest : List String) :
    (Fits reserved earlier name ∧
      checkDeclared reserved (earlier.map withVariant) (name :: rest) =
        checkDeclared reserved ((earlier ++ [name]).map withVariant) rest) ∨
    ∃ violation, Blames reserved earlier name violation ∧
      checkDeclared reserved (earlier.map withVariant) (name :: rest) = .error violation := by
  have hrepeats : (earlier.map withVariant).any (·.1 == name) = true ↔ name ∈ earlier := by
    simp [withVariant]
  rw [checkDeclared]
  by_cases hname : name ∈ earlier
  · exact .inr ⟨_, .duplicate hname, if_pos (hrepeats.mpr hname)⟩
  rw [if_neg fun hany => hname (hrepeats.mp hany)]
  by_cases hinvalid : isIdentifier (variantName name) = false
  · exact .inr ⟨_, .invalid hname hinvalid, if_pos (by simp [hinvalid])⟩
  rw [Bool.not_eq_false] at hinvalid
  rw [if_neg (by simp [hinvalid])]
  by_cases hreserved : variantName name ∈ reserved
  · exact .inr ⟨_, .reserved hname hinvalid hreserved, if_pos (by simpa using hreserved)⟩
  rw [if_neg (by simpa using hreserved)]
  cases hfind : (earlier.map withVariant).find? (·.2 == variantName name) with
  | none =>
    have hdistinct : variantName name ∉ earlier.map variantName := by
      intro hmem
      obtain ⟨other, hother, hvariant⟩ := List.mem_map.mp hmem
      exact List.find?_eq_none.mp hfind (withVariant other) (List.mem_map_of_mem hother)
        (by simp [withVariant, hvariant])
    refine .inl ⟨⟨hname, hinvalid, hreserved, hdistinct⟩, ?_⟩
    rw [List.map_append]
    rfl
  | some pair =>
    obtain ⟨first, hfirst, rfl⟩ := List.mem_map.mp (List.mem_of_find?_eq_some hfind)
    have hvariant : variantName first = variantName name := by
      simpa [withVariant] using List.find?_some hfind
    refine .inr ⟨_, .collision hname hinvalid hreserved hfirst hvariant fun other hother hsame => ?_,
      rfl⟩
    exact List.inj_on_of_nodup_map h.variants_nodup hother hfirst (hsame.trans hvariant.symm)

theorem checkDeclared_eq_ok_iff (h : DeclaredAccepted earlier reserved)
    {result : List (String × String)} :
    checkDeclared reserved (earlier.map withVariant) names = .ok result ↔
      DeclaredAccepted (earlier ++ names) reserved ∧ result = (earlier ++ names).map withVariant := by
  induction names generalizing earlier with
  | nil =>
    rw [checkDeclared, Except.ok.injEq, List.append_nil, eq_comm]
    exact (and_iff_right h).symm
  | cons next rest ih =>
    rcases checkDeclared_step h next rest with ⟨hfits, hstep⟩ | ⟨other, hblames, hstep⟩
    · rw [hstep, ih (declaredAccepted_concat.mpr ⟨h, hfits⟩), List.append_assoc,
        List.singleton_append]
    · rw [hstep]
      exact iff_of_false nofun fun haccepted => hblames.not_fits haccepted.1.fits

theorem checkDeclared_of_accepted (h : DeclaredAccepted names reserved) :
    checkDeclared reserved [] names = .ok (names.map withVariant) :=
  (checkDeclared_eq_ok_iff declaredAccepted_nil).mpr ⟨h, rfl⟩

theorem checkDeclared_eq_error_iff (h : DeclaredAccepted earlier reserved) :
    checkDeclared reserved (earlier.map withVariant) names = .error violation ↔
      ∃ before name later, names = before ++ name :: later ∧
        DeclaredAccepted (earlier ++ before) reserved ∧
        Blames reserved (earlier ++ before) name violation := by
  induction names generalizing earlier with
  | nil => exact ⟨nofun, fun ⟨_, _, _, hnil, _⟩ => by simp at hnil⟩
  | cons next rest ih =>
    rcases checkDeclared_step h next rest with ⟨hfits, hstep⟩ | ⟨other, hblames, hstep⟩
    · rw [hstep, ih (declaredAccepted_concat.mpr ⟨h, hfits⟩)]
      constructor
      · rintro ⟨before, name, later, rfl, haccepted, hblames⟩
        rw [List.append_assoc, List.singleton_append] at haccepted hblames
        exact ⟨next :: before, name, later, rfl, haccepted, hblames⟩
      · rintro ⟨before, name, later, hsplit, haccepted, hblames⟩
        cases before with
        | nil =>
          obtain ⟨rfl, rfl⟩ := List.cons.inj hsplit
          rw [List.append_nil] at hblames
          exact absurd hfits hblames.not_fits
        | cons first before =>
          obtain ⟨rfl, rfl⟩ := List.cons.inj hsplit
          refine ⟨before, name, later, rfl, ?_, ?_⟩
          · rwa [List.append_assoc, List.singleton_append]
          · rwa [List.append_assoc, List.singleton_append]
    · rw [hstep, Except.error.injEq]
      constructor
      · rintro rfl
        refine ⟨[], next, rest, rfl, ?_, ?_⟩
        · rwa [List.append_nil]
        · rwa [List.append_nil]
      · rintro ⟨before, name, later, hsplit, haccepted, hblames'⟩
        cases before with
        | nil =>
          obtain ⟨rfl, rfl⟩ := List.cons.inj hsplit
          rw [List.append_nil] at hblames'
          exact hblames.unique hblames'
        | cons first before =>
          obtain ⟨rfl, rfl⟩ := List.cons.inj hsplit
          exact absurd haccepted.fits hblames.not_fits

end WireErrors
