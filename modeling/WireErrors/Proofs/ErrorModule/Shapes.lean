import WireErrors.Proofs.ErrorModule.Files
import WireErrors.Proofs.Source.Shapes

/-!
# The shape of an error module

`partsOf` are the tokens of all blocks of a module, import included, as a function of its
identifiers and of the texts that are placed into it. Without the spellings of literals the tokens
are those of a module of which nothing but the identifiers is known (`map_shape_partsOf`).
-/

namespace WireErrors

open Source

namespace ErrorModule

open ErrorTypes Decoder

/-! ## Blocks -/

/-- The tokens of each block of a module. -/
def partsOf (strategy : Strategy) (policy : Policy) (types : TypeNames) (expected : String)
    (declared : List Declared) : List (List Token) :=
  (importItems policy.conformance).map Item.tokens ++
    [(optionSet types policy.conformance expected declared).flatMap Item.tokens,
      (errorEnum types policy.serializable declared).tokens,
      [.ident "impl", .ident types.error, .opening .brace],
      (members strategy policy (declared.map fun d => ⟨d.name, d.variant⟩) types.unknown).flatMap
        Member.tokens,
      (accessors types declared).flatMap Member.tokens,
      [.closing .brace]] ++
    if policy.display then [(display types declared).flatMap Item.tokens] else []

theorem fileParts_eq (strategy : Strategy) (policy : Policy) (expected : String) (model : Model)
    (unknown : String) :
    fileParts strategy policy expected model unknown = attributeTokens headerAttributes ::
      partsOf strategy policy (namesFor model policy unknown) expected
        (declaredFor model.sortedNames) := by
  have hcases : ((declaredFor model.sortedNames).map fun d => (⟨d.name, d.variant⟩ : Case)) =
      casesFor model.sortedNames := List.map_map
  unfold partsOf fileParts partsFor
  rw [hcases, List.append_assoc]
  simp only [List.flatMap_singleton]
  rfl

theorem blocks_of_emitted {strategy : Strategy} {target : String} {policy : Policy} {model : Model}
    {unknown : String}
    (h : (emit (strategy.delegate target policy) model unknown).result = .ok ()) :
    (emit (strategy.delegate target policy) model unknown).blocks =
        (partsOf strategy policy (namesFor model policy unknown) policy.conformance.expected
          (declaredFor model.sortedNames)).map Token.render ∧
      ∀ part ∈ partsOf strategy policy (namesFor model policy unknown)
          policy.conformance.expected (declaredFor model.sortedNames), Legible part := by
  obtain ⟨hnamed, hblocks⟩ := fileBlocks_of_emitted h
  have hlegible := legible_fileParts strategy policy.conformance.expected hnamed
  rw [fileParts_eq] at hblocks hlegible
  exact ⟨(List.cons.inj hblocks).2, (List.forall_mem_cons.mp hlegible).2⟩

/-! ## Trees without texts -/

/-- A declared error of which only the identifiers are known. -/
def unnamed (d : Declared) : Declared := { d with name := "" }

section

open scoped Spelled

attribute [local simp] signIf Token.group Reader.listTokens_eq_flatMap Reader.commaSeparated_singleton

variable (types : TypeNames) (declared : List Declared)

theorem shape_optionSet (conformance : Conformance) (expected : String) :
    shape ((optionSet types conformance expected declared).flatMap Item.tokens) =
      shape ((optionSet types conformance "" (declared.map unnamed)).flatMap Item.tokens) := by
  simp [optionSet, implementation, constantDeclaration, List.flatMap_map, unnamed,
    Function.comp_def]

theorem shape_errorEnum (serializable : Bool) :
    shape (errorEnum types serializable declared).tokens =
      shape (errorEnum types serializable (declared.map unnamed)).tokens := by
  simp [errorEnum, List.flatMap_map, unnamed]

theorem shape_test (c : Case) : shape (test c).tokens = shape (test ⟨"", c.variant⟩).tokens := by
  simp [test, unitValue]

theorem shape_lookup (strategy : Strategy) (cases : List Case) (unknown : String) :
    shape (Statement.listTokens (lookup strategy cases unknown)) =
      shape (Statement.listTokens
        (lookup strategy (cases.map fun c => ⟨"", c.variant⟩) unknown)) := by
  cases strategy with
  | matching => simp [lookup, List.flatMap_map, unitValue]
  | chain =>
    induction cases with
    | nil => rfl
    | cons c cases ih =>
      show shape ((test c).tokens ++ Statement.listTokens (lookup .chain cases unknown)) =
        shape ((test ⟨"", c.variant⟩).tokens ++ Statement.listTokens
          (lookup .chain (cases.map fun c => ⟨"", c.variant⟩) unknown))
      rw [shape_append, shape_append, shape_test, ih]

theorem shape_routine (documentation : List String) {body other : List Statement}
    (h : shape (Statement.listTokens body) = shape (Statement.listTokens other)) :
    shape (routine documentation body).tokens = shape (routine documentation other).tokens := by
  simp [routine, h]

theorem shape_accessors :
    shape ((accessors types declared).flatMap Member.tokens) =
      shape ((accessors types (declared.map unnamed)).flatMap Member.tokens) := by
  simp [accessors, getter, List.flatMap_map, unnamed]

theorem shape_display :
    shape ((display types declared).flatMap Item.tokens) =
      shape ((display types (declared.map unnamed)).flatMap Item.tokens) := by
  simp [display, displayImpl, implementation, writeText, List.flatMap_map, unnamed]

end

theorem shape_members (strategy : Strategy) (policy : Policy) (cases : List Case)
    (unknown : String) :
    shape ((members strategy policy cases unknown).flatMap Member.tokens) =
      shape ((members strategy policy (cases.map fun c => ⟨"", c.variant⟩) unknown).flatMap
        Member.tokens) := by
  have hlookup := shape_lookup strategy cases unknown
  unfold members
  split
  · have hchecked :
        shape (Statement.listTokens (validationCheck :: lookup strategy cases unknown)) =
          shape (Statement.listTokens (validationCheck ::
            lookup strategy (cases.map fun c => ⟨"", c.variant⟩) unknown)) := by
      rw [Statement.listTokens, shape_append, hlookup, ← shape_append, ← Statement.listTokens]
    have hroutine := shape_routine (documentation strategy) hchecked
    simp only [List.flatMap_cons, List.flatMap_nil, shape_append, hroutine]
  · have hroutine := shape_routine (documentation strategy) hlookup
    simp only [List.flatMap_cons, List.flatMap_nil, shape_append, hroutine]

/-! ## The shape of all blocks -/

/-- **The shape of a module depends on its identifiers only.** -/
theorem map_shape_partsOf (strategy : Strategy) (policy : Policy) (types : TypeNames)
    (expected : String) (declared : List Declared) :
    (partsOf strategy policy types expected declared).map shape =
      (partsOf strategy policy types "" (declared.map unnamed)).map shape := by
  have hmembers := shape_members strategy policy (declared.map fun d => ⟨d.name, d.variant⟩)
    types.unknown
  have hcases : ((declared.map fun d => (⟨d.name, d.variant⟩ : Case)).map fun c =>
      (⟨"", c.variant⟩ : Case)) = (declared.map unnamed).map fun d => ⟨d.name, d.variant⟩ := by
    simp [unnamed]
  rw [hcases] at hmembers
  unfold partsOf
  split <;>
    simp only [List.map_append, List.map_cons, List.map_nil, hmembers,
      shape_optionSet types declared policy.conformance expected,
      shape_errorEnum types declared policy.serializable, shape_accessors types declared,
      shape_display types declared]

end ErrorModule

end WireErrors
