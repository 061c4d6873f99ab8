import WireErrors.Proofs.Decoder.Blocks

/-!
# What emitted decode routines do

`emit_decodes` is the meaning of an emitted routine: its block, placed into the implementation of an
error type, is read as a file, and the function that this file defines builds, from any wire
identifier, the variant for validation errors, the variant of the declared error, or the variant for
unknown errors, the same in both shapes of the routine. Names that are accepted may keep a routine from
this, where `Resolves` fails: a variant for unknown errors may hide the test for validation errors
(`emit_decodes_hidden`).
-/

namespace WireErrors

open Source

namespace Decoder

/-- The program of a file with the block of a routine, and of the enumeration that it decodes to. -/
def programOf (comparison : Comparison) (type : String) (policy : Policy) (names : List String)
    (unknown : String) (file : File) : Program :=
  ⟨comparison, enumeration type policy names unknown :: file.items⟩

/-- A name for the type that a routine is placed into. -/
structure IsTypeName (type : String) : Prop where
  spelled : isSpelled type = true
  word : isKeyword type = false
  /-- The routine has these words for other types. -/
  free : identity type ∉ ["String", "str", "bool"]

section

variable {comparison : Comparison} {type : String} {strategy : Strategy} {policy : Policy}
  {names : List String} {unknown : String}

/-- A file that consists of a routine in the implementation of its type. -/
def fileOf (type : String) (strategy : Strategy) (policy : Policy) (names : List String)
    (unknown : String) : File :=
  { attributes := [], items := [ErrorTypes.implementation none type
      (members strategy policy (casesFor names) unknown)] }

theorem hasRoutine_programOf : HasRoutine
    (programOf comparison type policy names unknown (fileOf type strategy policy names unknown)) type
    strategy policy names unknown where
  members := by
    have hpath : (TypeExpr.named type).path? = some ⟨false, [type]⟩ := rfl
    have hroutine : (ErrorTypes.implementation none type
        (Decoder.members strategy policy (casesFor names) unknown)).membersFor none type =
          Decoder.members strategy policy (casesFor names) unknown := by
      rw [ErrorTypes.implementation, Item.membersFor, hpath]
      exact if_pos ⟨rfl, rfl⟩
    refine ⟨[], ?_⟩
    show List.flatMap _ [enumeration type policy names unknown, _] = _
    rw [List.flatMap_cons, List.flatMap_singleton, hroutine, List.append_nil]
    rfl
  variants name := by
    rw [Program.variantNamed?, programOf, fileOf, List.findSome?_cons]
    cases (enumeration type policy names unknown).variantNamed? comparison type name <;> rfl
  declared := List.mem_cons_self

theorem separates_members (comparison : Comparison) (type : String) (strategy : Strategy)
    (policy : Policy) (names : List String) (unknown : String) :
    (ErrorTypes.implementation none type
      (members strategy policy (casesFor names) unknown)).separates comparison = true := by
  obtain ⟨f, hf, hname, -⟩ := exists_routine (documentation strategy)
    (body strategy policy names unknown)
  have hhelper : validationHelper.name? = some "is_validation_error" := rfl
  have hroutine : (Member.function f).name? = some "from_error_type" := congrArg some hname
  have hkeys : comparison.key "is_validation_error" ≠ comparison.key "from_error_type" := by
    rw [Comparison.key_of_lt (by decide), Comparison.key_of_lt (by decide)]
    decide
  rw [ErrorTypes.implementation, Item.separates, members_eq, hf, decide_eq_true_iff]
  cases policy.validation <;> simp [hhelper, hroutine, hkeys]

theorem separates_programOf :
    (programOf comparison type policy names unknown
      (fileOf type strategy policy names unknown)).separates =
        decide ((variantNames policy names unknown).map comparison.key).Nodup := by
  have hmembers := separates_members comparison type strategy policy names unknown
  have himports : (enumeration type policy names unknown :: (fileOf type strategy policy names
      unknown).items).filterMap Item.imported? = [] := rfl
  have hroots : (enumeration type policy names unknown :: (fileOf type strategy policy names
      unknown).items).filterMap Item.importRoot? = [] := rfl
  rw [Program.separates, programOf]
  dsimp only
  rw [himports, hroots, fileOf]
  simp only [List.all_cons, List.all_nil, Comparison.apart, hmembers, separates_enumeration,
    Bool.and_true]

theorem run?_programOf (token : String) :
    (programOf comparison type policy names unknown
      (fileOf type strategy policy names unknown)).run? none type "from_error_type" [.text token] =
        if Resolves comparison policy names unknown then
          some (decoded type policy names unknown token)
        else none := by
  rw [hasRoutine_programOf.run?_eq, separates_programOf]
  refine if_congr ?_ rfl rfl
  rw [decide_eq_true_iff]
  exact and_iff_right_of_imp Resolves.variants_separate

theorem call?_programOf (token : String) :
    (programOf comparison type policy names unknown
      (fileOf type strategy policy names unknown)).call? type "from_error_type" [.text token] =
        if Resolves comparison policy names unknown ∧ comparison.key unknown ≠ "from_error_type" then
          some (decoded type policy names unknown token)
        else none := by
  rw [hasRoutine_programOf.call?_eq, run?_programOf]
  show (if comparison.key unknown = "from_error_type" then _ else _) = _
  by_cases hhidden : comparison.key unknown = "from_error_type"
  · rw [if_pos hhidden, if_neg fun hboth => hboth.2 hhidden]
  · rw [if_neg hhidden, if_congr (and_iff_left hhidden) rfl rfl]

end

theorem result_emit_eq (strategy other : Strategy) (target : String) (policy : Policy)
    (names : List String) (unknown : String) :
    (emit strategy target policy names unknown).result =
      (emit other target policy names unknown).result := by
  unfold emit
  simp only [Emission.result_bind, Emission.result_log, Emission.result_block]

theorem read_fileOf {policy : Policy} {names : List String} {unknown type : String}
    (strategy : Strategy) (h : Emitted policy names unknown) (htype : IsTypeName type) :
    File.read (placed type (text (members strategy policy (casesFor names) unknown))).contents =
      .ok (fileOf type strategy policy names unknown) := by
  have hvariants : ∀ name ∈ names, isKeyword (variantName name) = false := fun name hname =>
    isKeyword_of_isIdentifier (h.variants_spelled name hname)
      (h.accepted.variants_identifiers name hname)
  have hkeyword := isKeyword_of_isIdentifier h.unknown_spelled h.accepted.unknown_identifier
  exact read_placed strategy policy h.variants_spelled hvariants h.unknown_spelled hkeyword
    htype.spelled htype.word

/-- **When emitted routines decode correctly.** A routine of either shape decodes each wire identifier
as it should just if the names of its type stand for what they are meant for, and nothing if not. For
accepted names, compared as they are spelled, this is a matter of the name for unknown errors and the
test for validation errors alone. Where the routine is called by its path, it must not have the name
for unknown errors, either. Declared errors keep variants of their own. -/
theorem emit_decodes {strategy : Strategy} {target : String} {policy : Policy}
    {names : List String} {unknown : String}
    (h : (emit strategy target policy names unknown).result = .ok ()) :
    (∀ shape, (emit shape target policy names unknown).result = .ok () ∧
      ∃ block, (emit shape target policy names unknown).blocks = [block] ∧
        ∀ type, IsTypeName type →
          ∃ file, File.read (placed type block).contents = .ok file ∧
            ∀ comparison token,
              (programOf comparison type policy names unknown file).run? none type
                  "from_error_type" [.text token] =
                (if Resolves comparison policy names unknown then
                  some (decoded type policy names unknown token)
                else none) ∧
              (programOf comparison type policy names unknown file).call? type
                  "from_error_type" [.text token] =
                (if Resolves comparison policy names unknown ∧
                    comparison.key unknown ≠ "from_error_type" then
                  some (decoded type policy names unknown token)
                else none)) ∧
    (Resolves .spellings policy names unknown ↔
      (policy.validation = true → unknown ≠ "is_validation_error")) ∧
    ((names.filter fun name => !captures policy name).map variantName).Nodup ∧
    ∀ name ∈ names, captures policy name = false →
      variantName name ≠ unknown ∧
      (policy.validation = true → variantName name ≠ Policy.validationVariant) := by
  obtain ⟨hemitted, -⟩ := of_emit_eq_ok h
  have haccepted := hemitted.accepted
  refine ⟨fun shape => ?_, resolves_spellings_iff haccepted, ?_,
    fun name hname _ => ⟨?_, fun hvalidation hequal => ?_⟩⟩
  · have hshape : (emit shape target policy names unknown).result = .ok () :=
      (result_emit_eq shape strategy target policy names unknown).trans h
    refine ⟨hshape, _, (of_emit_eq_ok hshape).2, fun type htype =>
      ⟨_, read_fileOf shape hemitted htype, fun comparison token =>
        ⟨run?_programOf token, call?_programOf token⟩⟩⟩
  · exact haccepted.variants_nodup.sublist (List.filter_sublist.map variantName)
  · intro hequal
    exact haccepted.unknown_no_variant (hequal ▸ List.mem_map_of_mem hname)
  · exact validationVariant_undeclared haccepted hvalidation
      (hequal ▸ List.mem_map_of_mem hname)

theorem emit_decodes_throttling :
    ∃ block, (emit .chain "rust" ⟨.none, false, false, true⟩
        ["Throttling", "ValidationException", "missing-thing"] "UnknownError").blocks = [block] ∧
      ∃ file, File.read (placed "Error" block).contents = .ok file ∧
        ∀ token, (programOf .identifiers "Error" ⟨.none, false, false, true⟩
            ["Throttling", "ValidationException", "missing-thing"] "UnknownError" file).call? "Error"
            "from_error_type" [.text token] =
          some (decoded "Error" ⟨.none, false, false, true⟩
            ["Throttling", "ValidationException", "missing-thing"] "UnknownError" token) := by
  have hresult : (emit .chain "rust" ⟨.none, false, false, true⟩
      ["Throttling", "ValidationException", "missing-thing"] "UnknownError").result = .ok () := rfl
  obtain ⟨-, block, hblocks, hplaced⟩ := (emit_decodes hresult).1 .chain
  obtain ⟨file, hfile, hdecodes⟩ := hplaced "Error" ⟨rfl, rfl, by decide +kernel⟩
  refine ⟨block, hblocks, file, hfile, fun token => (hdecodes .identifiers token).2.trans ?_⟩
  exact if_pos (by decide +kernel)

/-- A name for unknown errors that hides the test for validation errors is accepted. -/
theorem emit_decodes_hidden :
    (emit .matching "rust" ⟨.none, false, false, true⟩ ["Throttling"] "is_validation_error").result =
        .ok () ∧
      ∃ block, (emit .matching "rust" ⟨.none, false, false, true⟩ ["Throttling"]
          "is_validation_error").blocks = [block] ∧
        ∃ file, File.read (placed "Error" block).contents = .ok file ∧
          ∀ comparison token, (programOf comparison "Error" ⟨.none, false, false, true⟩ ["Throttling"]
            "is_validation_error" file).run? none "Error" "from_error_type" [.text token] = none := by
  have hresult : (emit .matching "rust" ⟨.none, false, false, true⟩ ["Throttling"]
      "is_validation_error").result = .ok () := rfl
  obtain ⟨hemitted, hblocks⟩ := of_emit_eq_ok hresult
  refine ⟨hresult, _, hblocks, _, read_fileOf .matching hemitted ⟨rfl, rfl, by decide +kernel⟩,
    fun comparison token => ?_⟩
  rw [run?_programOf, if_neg]
  exact fun hresolves => hresolves.helper_visible rfl (Comparison.key_of_lt (by decide))

end Decoder

end WireErrors
