import WireErrors.Proofs.ErrorModule.Files
import WireErrors.Proofs.ErrorModule.Outcome

/-!
# What generation gives

A module that is generated has the blocks `moduleBlocks`, and one that is not has none (`gives_emit`).
Result and blocks name the parts of the policy that they depend on.
-/

namespace WireErrors

open Source

/-- The delegate with another trait named in the documentation of the option set. -/
def Delegate.expecting (delegate : Delegate) (expected : String) : Delegate :=
  { delegate with conformance := expected }

namespace ErrorModule

open ErrorTypes Decoder

/-! ## Results -/

variable {model : Model} {unknown : String}

/-- The trait named in the documentation does not count. -/
theorem result_emit_expecting (delegate : Delegate) (expected : String) :
    (emit (delegate.expecting expected) model unknown).result =
      (emit delegate model unknown).result := by
  rw [result_emit, result_emit]
  unfold stage Delegate.expecting
  simp only [Emission.result_bind, Emission.result_block, apply_ite Emission.result]

/-! ## Blocks -/

/-- An emission with this result, which has these blocks if it comes to an end and none if not. -/
def Gives (m : Emission Unit) (result : Except Failure Unit) (blocks : List String) : Prop :=
  m.result = result ∧ m.blocks = if result.isOk then blocks else []

/-- The block of the import, if there is one. -/
def importBlocks (conformance : Conformance) : List String :=
  (importItems conformance).map fun item => ErrorTypes.text [item]

/-- The block of the option set; `expected` is the trait named in its documentation. -/
def optionSetBlock (conformance : Conformance) (expected : String) (model : Model) : String :=
  ErrorTypes.text ([optionSetRecord model.optionSetType expected,
    implementation none model.optionSetType (optionSetMembers model)] ++
      conformanceImpl conformance model.optionSetType)

def enumBlock (policy : Policy) (model : Model) (unknown : String) : String :=
  ErrorTypes.text [errorEnum (namesFor model policy unknown) policy.serializable
    (declaredFor model.sortedNames)]

/-- The blocks of the implementation of the error type. -/
def implBlocks (strategy : Strategy) (policy : Policy) (model : Model) (unknown : String) :
    List String :=
  ["impl " ++ model.errorType ++ " \x7b",
    Decoder.text (members strategy policy (casesFor model.sortedNames) unknown),
    Decoder.text (accessors (namesFor model policy unknown) (declaredFor model.sortedNames)),
    "\x7d"]

def displayBlock (policy : Policy) (model : Model) (unknown : String) : String :=
  ErrorTypes.text (display (namesFor model policy unknown) (declaredFor model.sortedNames))

/-- The blocks behind the enum. -/
def lastBlocks (strategy : Strategy) (policy : Policy) (model : Model) (unknown : String) :
    List String :=
  implBlocks strategy policy model unknown ++
    if policy.display then [displayBlock policy model unknown] else []

/-- The blocks of a module; `expected` is the trait named in the documentation of the option set. -/
def moduleBlocks (strategy : Strategy) (policy : Policy) (expected : String) (model : Model)
    (unknown : String) : List String :=
  importBlocks policy.conformance ++ [optionSetBlock policy.conformance expected model] ++
    enumBlock policy model unknown :: lastBlocks strategy policy model unknown

/-- **What generation gives.** -/
theorem gives_emit (strategy : Strategy) (target : String) (policy : Policy) (expected : String)
    (model : Model) (unknown : String) :
    Gives (emit ((strategy.delegate target policy).expecting expected) model unknown)
      (outcome target policy model unknown)
      (moduleBlocks strategy policy expected model unknown) := by
  have hresult : (emit ((strategy.delegate target policy).expecting expected) model
      unknown).result = outcome target policy model unknown := by
    rw [result_emit_expecting, result_emit_eq_outcome]
  refine ⟨hresult, ?_⟩
  cases houtcome : outcome target policy model unknown with
  | error failure => exact emit_allOrNothing _ _ _ failure (hresult.trans houtcome)
  | ok =>
    obtain ⟨imports, hstaged, hblocks⟩ := of_emit_eq_ok (hresult.trans houtcome)
    obtain ⟨-, hroutine⟩ := Decoder.of_emit_eq_ok hstaged.routine_emitted
    have hemit : ((strategy.delegate target policy).expecting expected).emit model.sortedNames
        unknown = Decoder.emit strategy target policy model.sortedNames unknown := rfl
    rw [hblocks, hemit, hroutine, eq_of_imports hstaged.imports_emitted]
    unfold blocksWith moduleBlocks importBlocks lastBlocks implBlocks
    simp only [List.append_assoc, List.cons_append, List.nil_append]
    rfl

theorem gives_delegate (strategy : Strategy) (target : String) (policy : Policy) (model : Model)
    (unknown : String) :
    Gives (emit (strategy.delegate target policy) model unknown)
      (outcome target policy model unknown)
      (moduleBlocks strategy policy policy.conformance.expected model unknown) :=
  gives_emit strategy target policy policy.conformance.expected model unknown

end ErrorModule

end WireErrors
