import WireErrors.Proofs.ErrorModule.Generation
import WireErrors.Proofs.Source.Rendering

/-!
# Options of a module

What a policy asks for is kept apart in the module that is emitted for it: whether the error type is
serializable shows in one list of the enum, whether it can be displayed in the last block, and how
the option set conforms in the import, in one line of documentation and in the implementation at the
end of the option set (`options_independent`).
-/

namespace WireErrors

open Source Text

namespace ErrorModule

open ErrorTypes

/-! ## Outcomes -/

/-- Valid policies that differ in the conformance only have the same outcome. -/
theorem outcome_of_valid {target : String} {policy : Policy} {model : Model} {unknown : String}
    {conformance : Conformance}
    (hvalid : { policy with conformance := conformance }.validate target = .ok ())
    (hbare : IsBare conformance.expected) :
    outcome target { policy with conformance := conformance } model unknown =
      outcome target { policy with conformance := .none } model unknown := by
  have hspelling : spelling unknown conformance.expected = spelling unknown "Display" := by
    have hdisplay : IsBare "Display" := by decide
    unfold spelling
    rw [if_neg (not_not_intro hbare), if_neg (not_not_intro hdisplay)]
  unfold outcome
  rw [hvalid, hspelling]
  rfl

/-! ## Texts of blocks -/

/-- The text of an enum up to the list of what it derives. -/
def enumStart : String :=
  "# [doc = r\" Errors declared by the service model\"] # [derive (Debug , Clone , PartialEq , Eq"

/-- The text of an option set up to the documentation of its conformance. -/
def optionSetStart : String :=
  "# [doc = r\" Identifiers of the errors declared by the service model\"] # [doc = r\"\"] " ++
    "# [doc = "

/-- The documentation of the conformance of an option set. -/
def expectation (expected : String) : String :=
  quote (" Expected to conform to `" ++ expected ++ "`.")

/-- The tokens of an enum in front of its name. -/
def enumTokens (serializable : Bool) : List Token :=
  attributeTokens [.doc " Errors declared by the service model", derives serializable] ++
    [.ident "pub", .ident "enum"]

theorem render_enumTokens (serializable : Bool) : Token.render (enumTokens serializable) ++ " " =
    enumStart ++ (if serializable then " , serde :: Serialize" else "") ++ ")] pub enum " := by
  cases serializable <;> decide +kernel

theorem exists_tokens_errorEnum (types : TypeNames) (declared : List Declared) :
    ∃ rest, ∀ serializable, (errorEnum types serializable declared).tokens =
      enumTokens serializable ++ .ident types.error :: rest :=
  ⟨_, fun serializable => by cases serializable <;> exact rfl⟩

theorem exists_text_errorEnum (types : TypeNames) (declared : List Declared) :
    ∃ variants, ∀ serializable, ErrorTypes.text [errorEnum types serializable declared] =
      enumStart ++ (if serializable then " , serde :: Serialize" else "") ++ ")] pub enum " ++
        variants := by
  obtain ⟨rest, htokens⟩ := exists_tokens_errorEnum types declared
  have hlast : ∀ serializable, (enumTokens serializable).getLast? = some (.ident "enum") := by
    decide
  refine ⟨Token.render (.ident types.error :: rest), fun serializable => ?_⟩
  rw [ErrorTypes.text, List.flatMap_singleton, htokens, Token.render_append (hlast serializable),
    ← render_enumTokens]
  rfl

/-- The text of the implementation by which an option set conforms, behind the option set itself. -/
def conformanceText (conformance : Conformance) (optionSet : String) : String :=
  match conformanceImpl conformance optionSet with
  | [] => ""
  | items => " " ++ ErrorTypes.text items

theorem render_text_bracket (text : String) (tokens : List Token) :
    Token.render (Token.text text :: .closing .bracket :: tokens) =
      quote text ++ Token.render (.closing .bracket :: tokens) := by
  have hlast : [Token.text text].getLast? = some (Token.text text) := rfl
  have hjoint := Token.render_append hlast (.closing .bracket) tokens
  have hquote : Token.render [Token.text text] = quote text := String.ofList_toList
  have hgap : Token.gap (Token.text text) (.closing .bracket) = "" := rfl
  rw [hquote, hgap, String.append_empty, List.singleton_append] at hjoint
  exact hjoint

theorem render_conformanceImpl {tokens : List Token}
    (hlast : tokens.getLast? = some (.closing .brace)) (conformance : Conformance)
    (optionSet : String) :
    Token.render (tokens ++ (conformanceImpl conformance optionSet).flatMap Item.tokens) =
      Token.render tokens ++ conformanceText conformance optionSet := by
  have himpl : ∀ implemented members,
      Token.render (tokens ++ (implementation (some implemented) optionSet members).tokens) =
        Token.render tokens ++
          (" " ++ ErrorTypes.text [implementation (some implemented) optionSet members]) := by
    intro implemented members
    rw [ErrorTypes.text, List.flatMap_singleton, tokens_interface, Token.render_append hlast,
      String.append_assoc]
    rfl
  cases conformance with
  | none =>
    show Token.render (tokens ++ []) = Token.render tokens ++ ""
    rw [List.append_nil, String.append_empty]
  | display =>
    rw [conformanceImpl, List.flatMap_singleton]
    exact himpl _ _
  | custom library interface =>
    rw [conformanceImpl, List.flatMap_singleton]
    exact himpl _ _

/-- The tokens of an option set up to the documentation of its conformance. -/
def optionSetTokens : List Token :=
  attributeTokens [.doc " Identifiers of the errors declared by the service model", .doc ""] ++
    [.mark '#' false, .opening .bracket, .ident "doc", .mark '=' false]

/-- An option set without its documentation. -/
def plainOptionSet (type : String) : Item :=
  .record
    { attributes := [.derive [["Debug"], ["Clone"], ["Copy"], ["PartialEq"], ["Eq"], ["Hash"]]]
      visibility := .everyone
      name := type }
    (.named [{ name := some "description", type := staticReference (.named "str") }])

/-- The tokens of an option set behind the documentation of its conformance. -/
def behindExpectation (type : String) (members : List Member) : List Token :=
  .closing .bracket :: ((plainOptionSet type).tokens ++ (implementation none type members).tokens)

theorem getLast?_behindExpectation (type : String) (members : List Member) :
    (behindExpectation type members).getLast? = some (.closing .brace) := by
  simp [behindExpectation, tokens_inherent, Token.group, List.getLast?_cons, List.getLast?_append]

theorem tokens_optionSetRecord (type expected : String) :
    (optionSetRecord type expected).tokens =
      optionSetTokens ++ Token.text (" Expected to conform to `" ++ expected ++ "`.") ::
        .closing .bracket :: (plainOptionSet type).tokens :=
  rfl

theorem render_optionSetTokens : Token.render optionSetTokens ++ " " = optionSetStart := by
  decide +kernel

theorem exists_text_optionSet (type : String) (members : List Member) :
    ∃ middle, ∀ conformance expected,
      ErrorTypes.text ([optionSetRecord type expected, implementation none type members] ++
          conformanceImpl conformance type) =
        optionSetStart ++ expectation expected ++ middle ++ conformanceText conformance type := by
  refine ⟨Token.render (behindExpectation type members), fun conformance expected => ?_⟩
  have hitems : ([optionSetRecord type expected, implementation none type members] ++
      conformanceImpl conformance type).flatMap Item.tokens =
      optionSetTokens ++ Token.text (" Expected to conform to `" ++ expected ++ "`.") ::
        (behindExpectation type members ++
          (conformanceImpl conformance type).flatMap Item.tokens) := by
    simp [tokens_optionSetRecord, behindExpectation]
  have hliteral : Token.gap (.mark '=' false)
      (Token.text (" Expected to conform to `" ++ expected ++ "`.")) = " " := rfl
  have hlast : optionSetTokens.getLast? = some (.mark '=' false) := rfl
  rw [ErrorTypes.text, hitems, Token.render_append hlast, hliteral, render_optionSetTokens,
    behindExpectation, List.cons_append, render_text_bracket, ← List.cons_append,
    ← behindExpectation, render_conformanceImpl (getLast?_behindExpectation type members)]
  simp only [String.append_assoc, expectation]

/-! ## Independence -/

/-- A failure as it is for another target. -/
def attributedTo (target : String) : Failure → Failure
  | .refused (.contract _ violation) => .refused (.contract target violation)
  | failure => failure

theorem mapError_spelling (target unknown expected : String) :
    (spelling unknown expected).mapError (attributedTo target) = spelling unknown expected := by
  unfold spelling
  split
  · rfl
  · split <;> rfl

theorem outcome_attributedTo (target other : String) (policy : Policy) (model : Model)
    (unknown : String) :
    outcome other policy model unknown =
      (outcome target policy model unknown).mapError (attributedTo other) := by
  unfold outcome Policy.validate
  cases policy.check with
  | error violation => rfl
  | ok =>
    cases checkNames model.sortedNames unknown policy.reserved with
    | error violation => rfl
    | ok =>
      cases isIdentifier model.errorType with
      | false => rfl
      | true => exact (mapError_spelling other unknown policy.conformance.expected).symm

/-- The options that a module is generated for, and what each of them changes in it. -/
structure Independent (strategy : Strategy) (target : String) (policy : Policy) (model : Model)
    (unknown : String) : Prop where
  /-- Serialization shows in the list of what the enum derives. -/
  serializable : ∃ result before variants after, ∀ on,
    Gives (emit (strategy.delegate target { policy with serializable := on }) model unknown) result
      (before ++ (enumStart ++ (if on then " , serde :: Serialize" else "") ++ ")] pub enum " ++
        variants) :: after)
  /-- Display shows in the last block. -/
  display : ∃ result before last, ∀ on,
    Gives (emit (strategy.delegate target { policy with display := on }) model unknown) result
      (before ++ if on then [last] else [])
  /-- The conformance shows in the import, and in the option set in its documentation and in the
  implementation at its end. -/
  conformance : ∃ result middle after, ∀ conformance,
    { policy with conformance := conformance }.validate target = .ok () →
    IsBare conformance.expected →
    Gives (emit (strategy.delegate target { policy with conformance := conformance }) model unknown)
      result
      (importBlocks conformance ++ [optionSetStart ++ expectation conformance.expected ++ middle ++
        conformanceText conformance model.optionSetType] ++ after)
  /-- The trait that a delegate names itself shows in the documentation of the option set. -/
  expected : ∃ result before back after, ∀ expected,
    Gives (emit ((strategy.delegate target policy).expecting expected) model unknown) result
      (before ++ (optionSetStart ++ expectation expected ++ back) :: after)
  /-- The name of the target shows in failures. -/
  target : ∀ other,
    (emit (strategy.delegate other policy) model unknown).result =
      (emit (strategy.delegate target policy) model unknown).result.mapError (attributedTo other) ∧
    (emit (strategy.delegate other policy) model unknown).blocks =
      (emit (strategy.delegate target policy) model unknown).blocks

/-- **The options of a module are independent of each other.** -/
theorem options_independent (strategy : Strategy) (target : String) (policy : Policy)
    (model : Model) (unknown : String) : Independent strategy target policy model unknown where
  serializable := by
    obtain ⟨variants, henum⟩ :=
      exists_text_errorEnum (namesFor model policy unknown) (declaredFor model.sortedNames)
    refine ⟨outcome target policy model unknown, importBlocks policy.conformance ++
      [optionSetBlock policy.conformance policy.conformance.expected model], variants,
      lastBlocks strategy policy model unknown, fun on => ?_⟩
    rw [← henum]
    exact gives_delegate strategy target { policy with serializable := on } model unknown
  display := by
    refine ⟨outcome target policy model unknown, importBlocks policy.conformance ++
      [optionSetBlock policy.conformance policy.conformance.expected model] ++
      enumBlock policy model unknown :: implBlocks strategy policy model unknown,
      displayBlock policy model unknown, fun on => ?_⟩
    rw [List.append_assoc, List.cons_append]
    exact gives_delegate strategy target { policy with display := on } model unknown
  conformance := by
    obtain ⟨middle, htext⟩ := exists_text_optionSet model.optionSetType (optionSetMembers model)
    refine ⟨outcome target { policy with conformance := .none } model unknown, middle,
      enumBlock policy model unknown :: lastBlocks strategy policy model unknown,
      fun conformance hvalid hbare => ?_⟩
    rw [← htext, ← outcome_of_valid hvalid hbare]
    exact gives_delegate strategy target { policy with conformance := conformance } model unknown
  expected := by
    obtain ⟨middle, htext⟩ := exists_text_optionSet model.optionSetType (optionSetMembers model)
    refine ⟨outcome target policy model unknown, importBlocks policy.conformance,
      middle ++ conformanceText policy.conformance model.optionSetType,
      enumBlock policy model unknown :: lastBlocks strategy policy model unknown,
      fun expected => ?_⟩
    have hgives := gives_emit strategy target policy expected model unknown
    rw [moduleBlocks, optionSetBlock, htext, List.append_assoc, String.append_assoc] at hgives
    exact hgives
  target other := by
    obtain ⟨hresult, hblocks⟩ := gives_delegate strategy target policy model unknown
    obtain ⟨hotherResult, hotherBlocks⟩ := gives_delegate strategy other policy model unknown
    rw [outcome_attributedTo target] at hotherResult hotherBlocks
    rw [hresult, hblocks, hotherResult, hotherBlocks]
    cases outcome target policy model unknown <;> exact ⟨rfl, rfl⟩

/-- With a custom conformance and without one, an option set has the same members of its own. -/
theorem options_independent_throttling :
    ∃ middle after,
      (emit (Strategy.chain.delegate "rust" (.plain (.custom "smithy::errors" "Recoverable")))
        ⟨"Example", ["Throttling"]⟩ "UnknownError").blocks =
          importBlocks (.custom "smithy::errors" "Recoverable") ++
            [optionSetStart ++ expectation "Recoverable" ++ middle ++
              conformanceText (.custom "smithy::errors" "Recoverable") "ExampleErrorTypes"] ++
            after ∧
      (emit (Strategy.chain.delegate "rust" (.plain .none)) ⟨"Example", ["Throttling"]⟩
        "UnknownError").blocks =
          [optionSetStart ++ expectation "Display" ++ middle] ++ after := by
  have hresult : (emit (Strategy.chain.delegate "rust" (.plain .none)) ⟨"Example", ["Throttling"]⟩
      "UnknownError").result = .ok () := by
    rw [result_emit]
    unfold stage
    dsimp only
    rw [sortedNames_singleton]
    rfl
  obtain ⟨result, middle, after, hgives⟩ := (options_independent .chain "rust" (.plain .none)
    ⟨"Example", ["Throttling"]⟩ "UnknownError").conformance
  obtain ⟨hsame, hnone⟩ := hgives .none rfl (by decide)
  obtain ⟨-, hcustom⟩ := hgives (.custom "smithy::errors" "Recoverable") rfl (by decide)
  obtain rfl : result = .ok () := hsame.symm.trans hresult
  refine ⟨middle, after, hcustom, hnone.trans ?_⟩
  show [optionSetStart ++ expectation "Display" ++ middle ++ ""] ++ after = _
  rw [String.append_empty]

end ErrorModule

end WireErrors
