import WireErrors.Proofs.Routine

/-!
# What a staged module consists of

`of_stage_eq_ok` is the one description of a module that could be staged: what its policy and names
fulfil, and its blocks in order, `blocksWith`, between which the delegate's own ones stand. Emitting
hands exactly the staged blocks on, or none (`blocks_emit_of_ok`, `emit_allOrNothing`).
-/

namespace WireErrors

open Source

namespace ErrorModule

/-! ## The parts of a module -/

/-- The identifiers of the module of a model. -/
def namesFor (model : Model) (policy : Policy) (unknown : String) : TypeNames where
  error := model.errorType
  optionSet := model.optionSetType
  unknown := unknown
  validation := if policy.validation then some Policy.validationVariant else none

/-- Declared names with both of their identifiers. -/
def declaredFor (names : List String) : List Declared :=
  names.map fun name => ⟨name, variantName name, constantName name⟩

/-- The import that comes first in a module: one for a custom conformance, and else none. -/
def Imports : Conformance → List String → Prop
  | .custom library interface, imports =>
    ∃ path, Path.ofText? library = some path ∧
      imports = [ErrorTypes.text [ErrorTypes.conformanceImport path interface]]
  | .display, imports => imports = []
  | .none, imports => imports = []

/-- The blocks of a module around some imports and the blocks of a decode routine. -/
def blocksWith (delegate : Delegate) (model : Model) (unknown : String)
    (imports routine : List String) : List String :=
  let types := namesFor model delegate.policy unknown
  let declared := declaredFor model.sortedNames
  imports ++
    [ErrorTypes.text
        (ErrorTypes.optionSet types delegate.policy.conformance delegate.conformance declared),
      ErrorTypes.text [ErrorTypes.errorEnum types delegate.policy.serializable declared],
      "impl " ++ model.errorType ++ " \x7b"] ++
    routine ++
    [Decoder.text (ErrorTypes.accessors types declared), "\x7d"] ++
    if delegate.policy.display then [ErrorTypes.text (ErrorTypes.display types declared)] else []

/-! ## Tables of identifiers -/

theorem typeNames_eq_ok {model : Model} {policy : Policy} {unknown : String} {types : TypeNames}
    (h : typeNames model policy unknown = .ok types) :
    types = namesFor model policy unknown ∧ isSpelled model.errorType = true ∧
      isSpelled model.optionSetType = true ∧ isSpelled unknown = true := by
  unfold typeNames at h
  obtain ⟨errorWord, herror, h⟩ := of_except_bind_eq_ok h
  obtain ⟨optionWord, hoption, h⟩ := of_except_bind_eq_ok h
  obtain ⟨unknownWord, hunknown, h⟩ := of_except_bind_eq_ok h
  rw [spell_eq_ok_iff] at herror hoption hunknown
  rw [← Except.ok.inj h, herror.2, hoption.2, hunknown.2]
  exact ⟨rfl, herror.1, hoption.1, hunknown.1⟩

theorem declare_eq_ok {names : List String} {declared : List Declared}
    (h : declare names = .ok declared) :
    declared = declaredFor names ∧ (∀ name ∈ names, isSpelled (variantName name) = true) ∧
      ∀ name ∈ names, isSpelled (constantName name) = true := by
  unfold declare at h
  obtain ⟨constants, hconstants, h⟩ := of_except_bind_eq_ok h
  obtain ⟨cases, hcases, h⟩ := of_except_bind_eq_ok h
  obtain ⟨hspelled, rfl⟩ := spellAll_eq_ok_iff.mp hconstants
  obtain ⟨hvariants, rfl⟩ := casesOf_eq_ok_iff.mp hcases
  cases h
  refine ⟨?_, hvariants, List.forall_mem_map.mp hspelled⟩
  rw [List.zipWith_map, List.zipWith_self]
  rfl

theorem interface_spelled_of_importBlock {library interface : String} {imports : List String}
    (h : importBlock (.custom library interface) = .ok imports) : isSpelled interface = true := by
  unfold importBlock at h
  dsimp only at h
  split at h
  · obtain ⟨word, hword, -⟩ := of_except_bind_eq_ok h
    exact (spell_eq_ok_iff.mp hword).1
  · cases h

theorem importBlock_eq_ok {conformance : Conformance} {imports : List String}
    (h : importBlock conformance = .ok imports) : Imports conformance imports := by
  cases conformance with
  | display =>
    cases h
    rfl
  | none =>
    cases h
    rfl
  | custom library interface =>
    unfold importBlock at h
    dsimp only at h
    split at h
    next path hpath =>
      obtain ⟨word, hword, h⟩ := of_except_bind_eq_ok h
      rw [← Except.ok.inj h, (spell_eq_ok_iff.mp hword).2]
      exact ⟨path, hpath, rfl⟩
    next => cases h

/-! ## Policies -/

theorem check_eq_ok_of_validate {policy : Policy} {target : String}
    (h : policy.validate target = .ok ()) : policy.check = .ok () := by
  unfold Policy.validate at h
  cases hcheck : policy.check with
  | error violation =>
    rw [hcheck] at h
    cases h
  | ok => rfl

/-- The trait of a custom conformance is read as an identifier, and its library as a path. -/
theorem custom_of_check {policy : Policy} {library interface : String}
    (h : policy.check = .ok ()) (hcustom : policy.conformance = .custom library interface) :
    isIdentifier interface = true ∧ ∃ path, Path.ofText? library = some path := by
  unfold Policy.check at h
  rw [hcustom] at h
  dsimp only at h
  split at h
  · cases h
  split at h
  · cases h
  next hidentifier =>
    split at h
    · cases h
    next hlibrary =>
      rw [Bool.or_eq_true, not_or, Option.isNone_iff_eq_none] at hlibrary
      exact ⟨by simpa using hidentifier, Option.ne_none_iff_exists'.mp hlibrary.2⟩

theorem isIdentifier_interface {policy : Policy} {library interface : String}
    (h : policy.check = .ok ()) (hcustom : policy.conformance = .custom library interface) :
    isIdentifier interface = true :=
  (custom_of_check h hcustom).1

/-! ## Staging -/

/-- What a module that could be staged tells about its policy and names. -/
structure Staged (delegate : Delegate) (model : Model) (unknown : String) (imports : List String) :
    Prop where
  policy_valid : delegate.policy.validate delegate.name = .ok ()
  accepted : NamesAccepted model.sortedNames unknown delegate.policy.reserved
  error_identifier : isIdentifier model.errorType = true
  error_spelled : isSpelled model.errorType = true
  optionSet_spelled : isSpelled model.optionSetType = true
  unknown_spelled : isSpelled unknown = true
  variants_spelled : ∀ name ∈ model.sortedNames, isSpelled (variantName name) = true
  constants_spelled : ∀ name ∈ model.sortedNames, isSpelled (constantName name) = true
  imports_emitted : Imports delegate.policy.conformance imports
  interface_spelled : ∀ library interface,
    delegate.policy.conformance = .custom library interface → isSpelled interface = true
  routine_emitted : (delegate.emit model.sortedNames unknown).result = .ok ()

theorem Staged.blocks_routine {strategy : Strategy} {target : String} {policy : Policy}
    {model : Model} {unknown : String} {imports : List String}
    (h : Staged (strategy.delegate target policy) model unknown imports) :
    ((strategy.delegate target policy).emit model.sortedNames unknown).blocks =
      [Decoder.text (Decoder.members strategy policy (casesFor model.sortedNames) unknown)] :=
  (Decoder.of_emit_eq_ok h.routine_emitted).2

theorem mapError_refused_eq_ok {x : Except GenerationError Unit}
    (h : x.mapError Failure.refused = .ok ()) : x = .ok () := by
  cases x with
  | error error => cases h
  | ok => rfl

theorem of_stage_eq_ok {delegate : Delegate} {model : Model} {unknown : String}
    (h : (stage delegate model unknown).result = .ok ()) :
    ∃ imports, Staged delegate model unknown imports ∧
      (stage delegate model unknown).blocks = blocksWith delegate model unknown imports
        (delegate.emit model.sortedNames unknown).blocks := by
  unfold stage at h ⊢
  dsimp only at h ⊢
  obtain ⟨_, hpolicy, h, hblocks⟩ := Emission.of_bind_eq_ok h
  rw [hblocks]
  obtain ⟨_, hnames, h, hblocks⟩ := Emission.of_bind_eq_ok h
  rw [hblocks]
  by_cases herror : isIdentifier model.errorType = false
  · rw [if_pos (by simpa using herror)] at h
    obtain ⟨_, hrefused, -⟩ := Emission.of_bind_eq_ok h
    cases hrefused
  rw [Bool.not_eq_false] at herror
  rw [if_neg (by simp [herror])] at h ⊢
  obtain ⟨types, htypes, h, hblocks⟩ := Emission.of_bind_eq_ok h
  rw [hblocks]
  obtain ⟨imports, himports, h, hblocks⟩ := Emission.of_bind_eq_ok h
  rw [hblocks]
  obtain ⟨_, -, h, hblocks⟩ := Emission.of_bind_eq_ok h
  rw [hblocks]
  obtain ⟨declared, hdeclared, h, hblocks⟩ := Emission.of_bind_eq_ok h
  rw [hblocks]
  rw [Emission.result_ofExcept] at hpolicy htypes himports hdeclared
  obtain ⟨rfl, herrorSpelled, hoptionSpelled, hunknownSpelled⟩ := typeNames_eq_ok htypes
  obtain ⟨rfl, hvariants, hconstants⟩ := declare_eq_ok hdeclared
  obtain ⟨_, -, h, hblocks⟩ := Emission.of_bind_eq_ok h
  rw [hblocks]
  obtain ⟨_, -, h, hblocks⟩ := Emission.of_bind_eq_ok h
  rw [hblocks]
  obtain ⟨_, -, h, hblocks⟩ := Emission.of_bind_eq_ok h
  rw [hblocks]
  obtain ⟨_, hroutine, h, hblocks⟩ := Emission.of_bind_eq_ok h
  rw [hblocks]
  obtain ⟨_, -, h, hblocks⟩ := Emission.of_bind_eq_ok h
  rw [hblocks]
  obtain ⟨_, -, h, hblocks⟩ := Emission.of_bind_eq_ok h
  rw [hblocks]
  refine ⟨imports, ⟨mapError_refused_eq_ok hpolicy, accepted_of_validateNames hnames, herror,
    herrorSpelled, hoptionSpelled, hunknownSpelled, hvariants, hconstants,
    importBlock_eq_ok himports, ?_, hroutine⟩, ?_⟩
  · intro library interface hcustom
    rw [hcustom] at himports
    exact interface_spelled_of_importBlock himports
  have hdisplay : (if delegate.policy.display = true then
      Emission.block (ErrorTypes.text (ErrorTypes.display
        (namesFor model delegate.policy unknown) (declaredFor model.sortedNames)))
      else pure ()).blocks = if delegate.policy.display = true then
        [ErrorTypes.text (ErrorTypes.display (namesFor model delegate.policy unknown)
          (declaredFor model.sortedNames))] else [] := by
    split <;> rfl
  rw [hdisplay]
  simp only [Emission.blocks_ofExcept, blocks_validateNames, Emission.blocks_appendAll,
    Emission.blocks_block, List.nil_append, List.append_assoc, List.cons_append, blocksWith]
  rfl

/-! ## Emitting -/

theorem result_emit (delegate : Delegate) (model : Model) (unknown : String) :
    (emit delegate model unknown).result = (stage delegate model unknown).result := by
  unfold emit
  dsimp only
  rw [Emission.result_bind, Emission.result_staged]
  cases (stage delegate model unknown).result <;> rfl

theorem blocks_emit_of_ok {delegate : Delegate} {model : Model} {unknown : String}
    (h : (emit delegate model unknown).result = .ok ()) :
    (emit delegate model unknown).blocks = (stage delegate model unknown).blocks := by
  unfold emit at h ⊢
  dsimp only at h ⊢
  obtain ⟨_, -, -, hblocks⟩ := Emission.of_bind_eq_ok h
  rw [hblocks, Emission.blocks_staged, Emission.blocks_bind_of_ok _ (Emission.result_log _)]
  simp only [Emission.blocks_log, Emission.blocks_appendAll, List.nil_append]

theorem emit_allOrNothing (delegate : Delegate) (model : Model) (unknown : String) :
    (emit delegate model unknown).AllOrNothing := by
  refine .after (Emission.blocks_staged _) fun _ _ => ?_
  refine .after (Emission.blocks_log _) fun _ _ => ?_
  exact Emission.allOrNothing_of_ok (Emission.result_appendAll _)

theorem of_emit_eq_ok {delegate : Delegate} {model : Model} {unknown : String}
    (h : (emit delegate model unknown).result = .ok ()) :
    ∃ imports, Staged delegate model unknown imports ∧
      (emit delegate model unknown).blocks = blocksWith delegate model unknown imports
        (delegate.emit model.sortedNames unknown).blocks := by
  rw [blocks_emit_of_ok h]
  exact of_stage_eq_ok ((result_emit ..).symm.trans h)

end ErrorModule

end WireErrors
