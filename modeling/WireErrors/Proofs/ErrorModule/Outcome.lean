import WireErrors.Proofs.ErrorModule.Spelling

/-!
# Outcomes of generation

The result of generation is its `outcome` (`result_emit_eq_outcome`): the checks of the policy, of the
names and of the error type in this order, and then whether the texts that are taken as they are given
can be written.
-/

namespace WireErrors

open Source

namespace ErrorModule

variable {policy : Policy} {model : Model} {unknown : String}

/-! ## One check after another -/

/-- What comes of texts that are taken as they are given, once everything is accepted. -/
def spelling (unknown expected : String) : Except Failure Unit :=
  if ¬IsBare unknown then .error (.unspellable unknown)
  else if ¬IsBare expected then .error (.unspellable expected)
  else .ok ()

theorem stage_of_invalid_policy (delegate : Delegate) {error : GenerationError}
    (hpolicy : delegate.policy.validate delegate.name = .error error) :
    stage delegate model unknown = Emission.refuse error := by
  unfold stage
  dsimp only
  rw [hpolicy]
  rfl

theorem stage_of_unaccepted (delegate : Delegate) {violation : Violation}
    (hpolicy : delegate.policy.validate delegate.name = .ok ())
    (hnames : checkNames model.sortedNames unknown delegate.policy.reserved = .error violation) :
    stage delegate model unknown = refusal delegate.name violation := by
  unfold stage
  dsimp only
  rw [hpolicy, validateNames_of_error hnames]
  rfl

theorem stage_of_no_identifier (delegate : Delegate)
    (hpolicy : delegate.policy.validate delegate.name = .ok ())
    (hnames : checkNames model.sortedNames unknown delegate.policy.reserved = .ok ())
    (herror : isIdentifier model.errorType = false) :
    stage delegate model unknown =
      Emission.refuse (.contract delegate.name (.invalidIdentifier model.baseName)) := by
  unfold stage
  dsimp only
  rw [hpolicy, validateNames_of_ok hnames, if_pos (by simp [herror])]
  rfl

/-- What comes out behind the checks of a module. -/
theorem result_stage_of_accepted (strategy : Strategy) (target : String)
    (hpolicy : policy.check = .ok ())
    (hnames : checkNames model.sortedNames unknown policy.reserved = .ok ())
    (herror : isIdentifier model.errorType = true) :
    (stage (strategy.delegate target policy) model unknown).result =
      spelling unknown policy.conformance.expected := by
  have haccepted := checkNames_eq_ok_iff.mp hnames
  have htypes := typeNames_of_isIdentifier policy herror haccepted.unknown_identifier
  have hdeclared := declare_of_accepted haccepted
  have hroutine := Decoder.result_emit_of_accepted strategy target hnames
  unfold stage Strategy.delegate spelling
  dsimp only
  rw [Policy.validate, hpolicy, mapError_ok, mapError_ok, Emission.ofExcept_ok, Emission.pure_bind,
    validateNames_of_ok hnames, Emission.pure_bind, if_neg (by simp [herror])]
  by_cases hunknown : IsBare unknown
  · rw [if_neg (not_not_intro hunknown)]
    rw [if_pos hunknown] at htypes hroutine
    rw [Emission.result_bind, Emission.result_ofExcept, htypes]
    show (Emission.ofExcept (importBlock policy.conformance) >>= _).result = _
    rw [Emission.result_bind, Emission.result_ofExcept]
    obtain ⟨imports, himport⟩ := importBlock_of_checked hpolicy
    by_cases hbare : IsBare policy.conformance.expected
    · rw [if_neg (not_not_intro hbare), himport, if_pos hbare]
      simp only [Emission.result_bind, Emission.result_appendAll, Emission.result_ofExcept,
        hdeclared, Emission.result_block, hroutine]
      split <;> rfl
    · rw [if_pos hbare, himport, if_neg hbare]
      rfl
  · rw [if_neg hunknown] at htypes
    rw [if_pos hunknown, Emission.result_bind, Emission.result_ofExcept, htypes]
    rfl

/-! ## The outcome -/

/-- What comes of the generation of a module. -/
def outcome (target : String) (policy : Policy) (model : Model) (unknown : String) :
    Except Failure Unit := do
  (policy.validate target).mapError .refused
  (checkNames model.sortedNames unknown policy.reserved).mapError fun violation =>
    .refused (.contract target violation)
  if isIdentifier model.errorType = false then
    .error (.refused (.contract target (.invalidIdentifier model.baseName)))
  else spelling unknown policy.conformance.expected

theorem result_emit_eq_outcome (strategy : Strategy) (target : String) (policy : Policy)
    (model : Model) (unknown : String) :
    (emit (strategy.delegate target policy) model unknown).result =
      outcome target policy model unknown := by
  rw [result_emit]
  unfold outcome
  cases hpolicy : policy.validate target with
  | error error =>
    rw [stage_of_invalid_policy (strategy.delegate target policy) hpolicy]
    rfl
  | ok =>
    cases hnames : checkNames model.sortedNames unknown policy.reserved with
    | error violation =>
      rw [stage_of_unaccepted (strategy.delegate target policy) hpolicy hnames]
      rfl
    | ok =>
      cases herror : isIdentifier model.errorType with
      | false =>
        rw [stage_of_no_identifier (strategy.delegate target policy) hpolicy hnames herror]
        rfl
      | true =>
        exact result_stage_of_accepted strategy target (check_eq_ok_of_validate hpolicy) hnames
          herror

end ErrorModule

end WireErrors
