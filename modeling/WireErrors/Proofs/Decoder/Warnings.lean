import WireErrors.Proofs.Decoder.Correctness
import WireErrors.Proofs.Emission.Events

/-!
# Warnings about variants

A declared error whose wire identifier denotes a validation error has a variant that no wire
identifier is decoded as. The warnings logged with a decode routine are about exactly these errors,
as the emitted routine itself shows where it decodes anything at all (`emit_warnings`).
-/

namespace WireErrors

open Source

namespace Decoder

variable {strategy : Strategy} {target : String} {policy : Policy} {names : List String}
  {unknown : String}

/-! ## Warnings -/

/-- The warning about a declared error that is decoded as another one. -/
def shadowWarning (target name : String) : Event :=
  ⟨.warn, "declared error is decoded as " ++ Policy.validationVariant ++
    ", its own variant is never constructed", [("target_name", target), ("error_name", name)]⟩

/-- The warnings among some events. -/
def warnings (events : List Event) : List Event := events.filter fun e => e.level == .warn

theorem shadowedNames_eq (policy : Policy) (names : List String) :
    shadowedNames policy names = names.filter (captures policy) := by
  unfold shadowedNames captures
  cases policy.validation <;> simp

theorem mem_shadowedNames {name : String} (hname : name ∈ names) :
    name ∈ shadowedNames policy names ↔ captures policy name = true := by
  rw [shadowedNames_eq, List.mem_filter, and_iff_right hname]

theorem events_validateNames_of_ok {reserved : List String}
    (h : (validateNames target names unknown reserved).result = .ok ()) :
    (validateNames target names unknown reserved).events = [] := by
  rw [validateNames_of_ok (checkNames_eq_ok_iff.mpr (accepted_of_validateNames h))]
  rfl

theorem warnings_emit (h : (emit strategy target policy names unknown).result = .ok ()) :
    warnings (emit strategy target policy names unknown).events =
      (shadowedNames policy names).map (shadowWarning target) := by
  have hevents : (emit strategy target policy names unknown).events =
      (shadowedNames policy names).map (shadowWarning target) ++ [⟨.debug, announcement strategy,
        [("target_name", target), ("cases", toString names.length)]⟩] := by
    unfold emit at h ⊢
    obtain ⟨_, hcheck, h, -⟩ := Emission.of_bind_eq_ok h
    obtain ⟨_, hlogged, h, -⟩ := Emission.of_bind_eq_ok h
    obtain ⟨cases, hcases, h, -⟩ := Emission.of_bind_eq_ok h
    obtain ⟨word, hword, -, -⟩ := Emission.of_bind_eq_ok h
    rw [Emission.events_bind_of_ok _ hcheck, Emission.events_bind_of_ok _ hlogged,
      Emission.events_bind_of_ok _ hcases, Emission.events_bind_of_ok _ hword,
      Emission.events_bind_of_ok _ (Emission.result_log _), events_validateNames_of_ok hcheck,
      Emission.events_forM_log]
    rw [Emission.result_ofExcept] at hcases
    obtain ⟨-, rfl⟩ := casesOf_eq_ok_iff.mp hcases
    simp [shadowWarning]
  have hwarnings : ∀ list : List String,
      warnings (list.map (shadowWarning target)) = list.map (shadowWarning target) := fun list =>
    List.filter_eq_self.mpr (List.forall_mem_map.mpr fun _ _ => rfl)
  rw [hevents, warnings, List.filter_append, ← warnings, hwarnings]
  exact List.append_nil _

/-! ## Variants that are never constructed -/

/-- The own variant of a declared error is never constructed just if the name denotes a validation
error: the variant for those is reserved, so no declared error has it. -/
theorem captures_iff_decoded_ne (haccepted : NamesAccepted names unknown policy.reserved)
    {name type : String} (hname : name ∈ names) :
    captures policy name = true ↔
      ∀ fields, decoded type policy names unknown name ≠
        .variant type (variantName name) fields := by
  constructor
  · intro hcaptures fields hequal
    rw [decoded_of_captures hcaptures] at hequal
    have hvariant : Policy.validationVariant = variantName name := (Value.variant.inj hequal).2.1
    refine validationVariant_undeclared haccepted (validation_of_captures hcaptures) ?_
    exact hvariant ▸ List.mem_map_of_mem hname
  · intro hnever
    cases hcaptures : captures policy name with
    | true => rfl
    | false => exact absurd (decoded_of_mem hcaptures hname) (hnever [])

/-- What a routine gives for a declared name is what the warning about it says, or what its absence
says. -/
structure WarnsRightly (shadowed : List String) (type name : String) (outcome : Option Value) :
    Prop where
  never : name ∈ shadowed ↔ ∀ fields, outcome ≠ some (.variant type (variantName name) fields)
  validation : name ∈ shadowed →
    outcome = some (.variant type Policy.validationVariant [.text name])

theorem warnsRightly_iff (haccepted : NamesAccepted names unknown policy.reserved)
    {name type : String} (hname : name ∈ names) {decodes : Prop} [Decidable decodes]
    {outcome : Option Value}
    (houtcome : outcome = if decodes then some (decoded type policy names unknown name) else none) :
    WarnsRightly (shadowedNames policy names) type name outcome ↔ decodes := by
  constructor
  · rintro ⟨hnever, hvalidation⟩
    by_contra hnot
    rw [if_neg hnot] at houtcome
    have hshadowed : name ∈ shadowedNames policy names := hnever.mpr fun fields => by
      rw [houtcome]
      nofun
    rw [hvalidation hshadowed] at houtcome
    cases houtcome
  · intro hdecodes
    rw [houtcome, if_pos hdecodes]
    refine ⟨?_, fun hshadowed => ?_⟩
    · rw [mem_shadowedNames hname]
      simp only [ne_eq, Option.some.injEq]
      exact captures_iff_decoded_ne haccepted hname
    · exact congrArg some (decoded_of_captures ((mem_shadowedNames hname).mp hshadowed))

/-- **When warnings are sound and complete.** The errors that an emitted routine comes with warnings
about are declared ones, in the order given and once each. They are those for which the routine never
constructs their own variant, and it decodes each of them as a validation error that carries the name,
just if the names of the routine stand for what they are meant for; where they do not, neither holds of
any name, for nothing is decoded. -/
theorem emit_warnings (h : (emit strategy target policy names unknown).result = .ok ()) :
    ∃ shadowed : List String,
      warnings (emit strategy target policy names unknown).events =
        shadowed.map (shadowWarning target) ∧
      shadowed.Sublist names ∧ shadowed.Nodup ∧ (policy.validation = false → shadowed = []) ∧
      (Resolves .spellings policy names unknown ↔
        (policy.validation = true → unknown ≠ "is_validation_error")) ∧
      ∃ block, (emit strategy target policy names unknown).blocks = [block] ∧
        ∀ type, IsTypeName type →
          ∃ file, File.read (placed type block).contents = .ok file ∧
            ∀ comparison, ∀ name ∈ names,
              (WarnsRightly shadowed type name
                  ((programOf comparison type policy names unknown file).run? none type
                    "from_error_type" [.text name]) ↔
                Resolves comparison policy names unknown) ∧
              (WarnsRightly shadowed type name
                  ((programOf comparison type policy names unknown file).call? type
                    "from_error_type" [.text name]) ↔
                Resolves comparison policy names unknown ∧
                  comparison.key unknown ≠ "from_error_type") := by
  obtain ⟨hemitted, hblocks⟩ := of_emit_eq_ok h
  have haccepted := hemitted.accepted
  have hsublist : (shadowedNames policy names).Sublist names := by
    rw [shadowedNames_eq]
    exact List.filter_sublist
  refine ⟨shadowedNames policy names, warnings_emit h, hsublist,
    haccepted.names_nodup.sublist hsublist, fun hoff => ?_, resolves_spellings_iff haccepted, _,
    hblocks, fun type htype => ⟨_, read_fileOf strategy hemitted htype,
      fun comparison name hname => ?_⟩⟩
  · rw [shadowedNames, hoff, if_neg Bool.false_ne_true]
  · exact ⟨warnsRightly_iff haccepted hname (run?_programOf name),
      warnsRightly_iff haccepted hname (call?_programOf name)⟩

theorem emit_warnings_throttling :
    (emit .chain "rust" ⟨.none, false, false, true⟩
        ["Throttling", "ValidationError:Field", "ValidationException"] "UnknownError").result =
      .ok () ∧
    ∃ block, (emit .chain "rust" ⟨.none, false, false, true⟩
        ["Throttling", "ValidationError:Field", "ValidationException"] "UnknownError").blocks =
        [block] ∧
      warnings (emit .chain "rust" ⟨.none, false, false, true⟩
        ["Throttling", "ValidationError:Field", "ValidationException"] "UnknownError").events =
        ["ValidationError:Field", "ValidationException"].map (shadowWarning "rust") ∧
      ∃ file, File.read (placed "Error" block).contents = .ok file ∧
        (programOf .identifiers "Error" ⟨.none, false, false, true⟩
            ["Throttling", "ValidationError:Field", "ValidationException"] "UnknownError" file).call?
            "Error" "from_error_type" [.text "ValidationError:Field"] =
          some (.variant "Error" "ValidationError" [.text "ValidationError:Field"]) := by
  have hresult : (emit .chain "rust" ⟨.none, false, false, true⟩
      ["Throttling", "ValidationError:Field", "ValidationException"] "UnknownError").result =
      .ok () := rfl
  obtain ⟨shadowed, hwarnings, -, -, -, -, block, hblocks, hplaced⟩ := emit_warnings hresult
  have hlist : shadowed.map (shadowWarning "rust") =
      ["ValidationError:Field", "ValidationException"].map (shadowWarning "rust") :=
    hwarnings.symm.trans rfl
  obtain ⟨file, hfile, hdecodes⟩ := hplaced "Error" ⟨rfl, rfl, by decide +kernel⟩
  have hmem : "ValidationError:Field" ∈ shadowed := by
    have hwarning : shadowWarning "rust" "ValidationError:Field" ∈
        shadowed.map (shadowWarning "rust") := hlist ▸ List.mem_cons_self
    obtain ⟨name, hname, hequal⟩ := List.mem_map.mp hwarning
    have hsame : name = "ValidationError:Field" := by simpa [shadowWarning] using hequal
    exact hsame ▸ hname
  have hrightly := (hdecodes .identifiers "ValidationError:Field" (by decide)).2.mpr
    (by decide +kernel)
  exact ⟨hresult, block, hblocks, hwarnings.trans hlist, file, hfile, hrightly.validation hmem⟩

/-- A warning about a name that nothing is decoded for, and none about another one. -/
theorem emit_warnings_hidden :
    (emit .matching "rust" ⟨.none, false, false, true⟩ ["Throttling", "ValidationException"]
        "is_validation_error").result = .ok () ∧
      warnings (emit .matching "rust" ⟨.none, false, false, true⟩
        ["Throttling", "ValidationException"] "is_validation_error").events =
          [shadowWarning "rust" "ValidationException"] ∧
      ∃ block, (emit .matching "rust" ⟨.none, false, false, true⟩
          ["Throttling", "ValidationException"] "is_validation_error").blocks = [block] ∧
        ∃ file, File.read (placed "Error" block).contents = .ok file ∧
          ∀ comparison, ∀ name ∈ ["Throttling", "ValidationException"],
            (programOf comparison "Error" ⟨.none, false, false, true⟩
              ["Throttling", "ValidationException"] "is_validation_error" file).run? none "Error"
              "from_error_type" [.text name] = none := by
  have hresult : (emit .matching "rust" ⟨.none, false, false, true⟩
      ["Throttling", "ValidationException"] "is_validation_error").result = .ok () := rfl
  obtain ⟨hemitted, hblocks⟩ := of_emit_eq_ok hresult
  refine ⟨hresult, warnings_emit hresult, _, hblocks, _,
    read_fileOf .matching hemitted ⟨rfl, rfl, by decide +kernel⟩, fun comparison name _ => ?_⟩
  rw [run?_programOf, if_neg]
  exact fun hresolves => hresolves.helper_visible rfl (Comparison.key_of_lt (by decide))

end Decoder

end WireErrors
