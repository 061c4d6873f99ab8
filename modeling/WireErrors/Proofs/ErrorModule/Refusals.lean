import WireErrors.Proofs.ErrorModule.Outcome

/-!
# What generation refuses, and where it gets stuck

A module is refused for its policy, for its names or for the name of its error type, in this order,
and for nothing else (`refused_iff`). Generation ends with its blocks or with a refusal, unless a text
that it accepted as an identifier cannot be written as one (`stuck_iff_not_bare`).
-/

namespace WireErrors

open Source

namespace ErrorModule

/-! ## Refusals -/

theorem validate_error {policy : Policy} {target : String} {error : GenerationError}
    (h : policy.validate target = .error error) : ∃ violation, error = .contract target violation := by
  unfold Policy.validate at h
  cases hcheck : policy.check with
  | error violation =>
    rw [hcheck] at h
    exact ⟨violation, (Except.error.inj h).symm⟩
  | ok =>
    rw [hcheck] at h
    cases h

section

variable {strategy : Strategy} {target : String} {policy : Policy} {model : Model} {unknown : String}

theorem spelling_ne_refused (unknown expected : String) (error : GenerationError) :
    spelling unknown expected ≠ .error (.refused error) := by
  unfold spelling
  split
  · exact nofun
  · split <;> exact nofun

/-- The checks of the policy, of the names and of the error type decide in this order. -/
theorem emit_eq_refused_iff (error : GenerationError) :
    (emit (strategy.delegate target policy) model unknown).result = .error (.refused error) ↔
      policy.validate target = .error error ∨
      (policy.validate target = .ok () ∧
        (validateNames target model.sortedNames unknown policy.reserved).result =
          .error (.refused error)) ∨
      (policy.validate target = .ok () ∧
        (validateNames target model.sortedNames unknown policy.reserved).result = .ok () ∧
        isIdentifier model.errorType = false ∧
        error = .contract target (.invalidIdentifier model.baseName)) := by
  rw [result_emit, result_validateNames]
  cases hpolicy : policy.validate target with
  | error earlier =>
    rw [stage_of_invalid_policy (strategy.delegate target policy) hpolicy]
    simp
  | ok =>
    cases hnames : checkNames model.sortedNames unknown policy.reserved with
    | error violation =>
      rw [stage_of_unaccepted (strategy.delegate target policy) hpolicy hnames]
      simp [Strategy.delegate]
    | ok =>
      cases herror : isIdentifier model.errorType with
      | false =>
        rw [stage_of_no_identifier (strategy.delegate target policy) hpolicy hnames
          herror]
        simp [Strategy.delegate, eq_comm]
      | true =>
        have hrest := spelling_ne_refused unknown policy.conformance.expected error
        rw [result_stage_of_accepted strategy target (check_eq_ok_of_validate hpolicy) hnames herror]
        simp [hrest]

end

/-- **What generation refuses, and as what.** The checks of the policy, of the names and of the error
type decide, in this order; every refusal is a broken contract of the target, the library of a checked
policy always gives an import, and a decode routine refuses no names that were accepted before. -/
theorem refused_iff (strategy : Strategy) (target : String) (policy : Policy) (model : Model)
    (unknown : String) :
    (∀ error, (emit (strategy.delegate target policy) model unknown).result = .error (.refused error) ↔
      policy.validate target = .error error ∨
      (policy.validate target = .ok () ∧
        (validateNames target model.sortedNames unknown policy.reserved).result =
          .error (.refused error)) ∨
      (policy.validate target = .ok () ∧
        (validateNames target model.sortedNames unknown policy.reserved).result = .ok () ∧
        isIdentifier model.errorType = false ∧
        error = .contract target (.invalidIdentifier model.baseName))) ∧
    (∀ error, (emit (strategy.delegate target policy) model unknown).result = .error (.refused error) →
      ∃ violation, error = .contract target violation) ∧
    (policy.validate target = .ok () → ∀ failure, importBlock policy.conformance = .error failure →
      failure = .unspellable policy.conformance.expected) ∧
    ∀ names, (validateNames target names unknown policy.reserved).result = .ok () →
      ∀ error, (Decoder.emit strategy target policy names unknown).result ≠ .error (.refused error) := by
  refine ⟨fun error => emit_eq_refused_iff error, fun error h => ?_, fun h => ?_, fun names h => ?_⟩
  · rcases (emit_eq_refused_iff error).mp h with hpolicy | ⟨-, hnames⟩ | ⟨-, -, -, herror⟩
    · exact validate_error hpolicy
    · rw [result_validateNames] at hnames
      cases hcheck : checkNames model.sortedNames unknown policy.reserved with
      | error violation =>
        rw [hcheck] at hnames
        cases hnames
        exact ⟨violation, rfl⟩
      | ok =>
        rw [hcheck] at hnames
        cases hnames
    · exact ⟨_, herror⟩
  · exact fun failure himport => importBlock_error (check_eq_ok_of_validate h) himport
  · rw [Decoder.result_emit_of_accepted strategy target
      (checkNames_eq_ok_iff.mpr (accepted_of_validateNames h))]
    split <;> exact nofun

end ErrorModule

/-! ## Settled results -/

/-- Whether generation came to an end, with its blocks or with a refusal. -/
def Settled (result : Except Failure Unit) : Prop :=
  result = .ok () ∨ ∃ error, result = .error (.refused error)

theorem settled_ok : Settled (.ok ()) := .inl rfl

theorem settled_refused (error : GenerationError) : Settled (.error (.refused error)) :=
  .inr ⟨error, rfl⟩

theorem not_settled_unspellable (text : String) : ¬Settled (.error (.unspellable text)) := by
  rintro (h | ⟨error, h⟩)
  · cases h
  · cases h

namespace Decoder

theorem settled_iff (strategy : Strategy) (target : String) (policy : Policy) (names : List String)
    (unknown : String) :
    Settled (emit strategy target policy names unknown).result ↔
      (checkNames names unknown policy.reserved = .ok () → IsBare unknown) := by
  cases hnames : checkNames names unknown policy.reserved with
  | error violation =>
    have hresult : (emit strategy target policy names unknown).result =
        .error (.refused (.contract target violation)) := by
      unfold emit
      rw [Emission.result_bind, result_validateNames, hnames]
      rfl
    rw [hresult]
    exact iff_of_true (settled_refused _) nofun
  | ok =>
    rw [result_emit_of_accepted strategy target hnames]
    by_cases hunknown : IsBare unknown
    · rw [if_pos hunknown]
      exact iff_of_true settled_ok fun _ => hunknown
    · rw [if_neg hunknown]
      exact iff_of_false (not_settled_unspellable unknown) fun h => hunknown (h rfl)

end Decoder

namespace ErrorModule

theorem settled_spelling_iff (unknown expected : String) :
    Settled (spelling unknown expected) ↔ IsBare unknown ∧ IsBare expected := by
  unfold spelling
  by_cases hunknown : IsBare unknown
  · rw [if_neg (not_not_intro hunknown)]
    by_cases hexpected : IsBare expected
    · rw [if_neg (not_not_intro hexpected)]
      exact iff_of_true settled_ok ⟨hunknown, hexpected⟩
    · rw [if_pos hexpected]
      exact iff_of_false (not_settled_unspellable expected) fun h => hexpected h.2
  · rw [if_pos hunknown]
    exact iff_of_false (not_settled_unspellable unknown) fun h => hunknown h.1

theorem settled_iff (strategy : Strategy) (target : String) (policy : Policy) (model : Model)
    (unknown : String) :
    Settled (emit (strategy.delegate target policy) model unknown).result ↔
      (policy.validate target = .ok () →
        checkNames model.sortedNames unknown policy.reserved = .ok () →
        isIdentifier model.errorType = true →
        IsBare unknown ∧ IsBare policy.conformance.expected) := by
  rw [result_emit]
  cases hpolicy : policy.validate target with
  | error error =>
    rw [stage_of_invalid_policy (strategy.delegate target policy) hpolicy]
    exact iff_of_true (settled_refused error) nofun
  | ok =>
    cases hnames : checkNames model.sortedNames unknown policy.reserved with
    | error violation =>
      rw [stage_of_unaccepted (strategy.delegate target policy) hpolicy hnames]
      exact iff_of_true (settled_refused _) fun _ => nofun
    | ok =>
      cases herror : isIdentifier model.errorType with
      | false =>
        rw [stage_of_no_identifier (strategy.delegate target policy) hpolicy hnames herror]
        exact iff_of_true (settled_refused _) fun _ _ => nofun
      | true =>
        rw [result_stage_of_accepted strategy target (check_eq_ok_of_validate hpolicy) hnames herror,
          settled_spelling_iff]
        exact ⟨fun hbare _ _ _ => hbare, fun h => h rfl rfl rfl⟩

end ErrorModule

/-- **Where generation gets stuck.** A text that is accepted as an identifier can be written as one
exactly if it is bare, and what is not decides alone: the name for unknown errors for a decode
routine, and with it the trait of a custom conformance for a module. -/
theorem stuck_iff_not_bare (strategy : Strategy) (target : String) (policy : Policy)
    (names : List String) (model : Model) (unknown : String) :
    (isIdentifier unknown = true → (isSpelled unknown = true ↔ IsBare unknown)) ∧
    (¬Settled (Decoder.emit strategy target policy names unknown).result ↔
      checkNames names unknown policy.reserved = .ok () ∧ ¬IsBare unknown) ∧
    (¬Settled (ErrorModule.emit (strategy.delegate target policy) model unknown).result ↔
      policy.validate target = .ok () ∧
        checkNames model.sortedNames unknown policy.reserved = .ok () ∧
        isIdentifier model.errorType = true ∧
        ¬(IsBare unknown ∧ IsBare policy.conformance.expected)) := by
  refine ⟨isSpelled_iff_isBare, ?_, ?_⟩
  · rw [Decoder.settled_iff, Classical.not_imp]
  · rw [ErrorModule.settled_iff, Classical.not_imp, Classical.not_imp, Classical.not_imp]

/-- Blank space behind the name for unknown errors is neither refused nor written. -/
theorem stuck_at_blank :
    isIdentifier "Foo " = true ∧
      (Decoder.emit .matching "rust" (.plain .display) ["Throttling"] "Foo ").result =
        .error (.unspellable "Foo ") := ⟨rfl, rfl⟩

end WireErrors
