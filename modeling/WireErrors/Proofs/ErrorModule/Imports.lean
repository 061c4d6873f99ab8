import WireErrors.Proofs.ErrorModule.Derivation
import WireErrors.Proofs.ErrorModule.Options
import WireErrors.Proofs.ErrorModule.Variants
import WireErrors.Proofs.ErrorModule.Words

/-!
# Imported traits

An import brings the trait of a custom conformance into the module, beside the words that types go by
there. The policy is checked without the model and the names without the policy's trait, so that any
of these words is accepted as a trait (`import_captures_iff`). Words are compared as identifiers, by
their normal forms and without the sign of a raw form.
-/

namespace WireErrors

open Source

namespace ErrorModule

open ErrorTypes Decoder

variable {policy : Policy} {model : Model} {unknown : String}

/-! ## Words as traits -/

/-- A word that is an identifier of letters. -/
structure IsWord (word : String) : Prop where
  identifier : isIdentifier word = true
  letters : ∀ c ∈ word.toList, Text.IsLetter c

theorem isWord_of_mem_wordsFor (herror : isIdentifier model.errorType = true) :
    ∀ word ∈ wordsFor policy model, IsWord word := by
  refine List.forall_mem_append.mpr ⟨?_, ?_⟩
  · simp only [List.forall_mem_cons, List.not_mem_nil, false_implies, implies_true, and_true]
    exact ⟨⟨herror, isLetter_of_mem_named (by decide)⟩,
      ⟨isIdentifier_optionSetType herror, isLetter_of_mem_named (by decide)⟩,
      ⟨rfl, by decide⟩, ⟨rfl, by decide⟩, ⟨rfl, by decide⟩⟩
  · intro word hword
    split at hword
    · rw [List.mem_singleton.mp hword]
      exact ⟨rfl, by decide⟩
    · cases hword

theorem IsWord.bare {word : String} (h : IsWord word) : IsBare word :=
  fun c hc => (h.letters c hc).not_skipped

theorem IsWord.trim {word : String} (h : IsWord word) :
    (Text.trim word.toList).isEmpty = false := by
  have htight : Text.Tight word.toList :=
    ⟨fun c hc => (h.letters c (List.mem_of_mem_head? hc)).not_blank,
      fun c hc => (h.letters c (List.mem_of_getLast? hc)).not_blank⟩
  rw [htight.trim_eq, List.isEmpty_eq_false_iff]
  exact toList_ne_nil_of_isSpelled ((isSpelled_iff_isBare h.identifier).mpr h.bare)

theorem validate_of_isWord {library interface word target : String}
    (h : policy.validate target = .ok ()) (hcustom : policy.conformance = .custom library interface)
    (hword : IsWord word) :
    ({ policy with conformance := .custom library word } : Policy).validate target = .ok () := by
  have hcheck := check_eq_ok_of_validate h
  unfold Policy.check at hcheck
  rw [hcustom] at hcheck
  dsimp only at hcheck
  split at hcheck
  · cases hcheck
  split at hcheck
  · cases hcheck
  split at hcheck
  · cases hcheck
  next hlibrary =>
    unfold Policy.validate Policy.check
    dsimp only
    rw [hword.trim, hword.identifier, if_neg Bool.false_ne_true, Bool.not_true,
      if_neg Bool.false_ne_true, if_neg hlibrary]
    rfl

/-- A module that is emitted is emitted with another trait, too. -/
theorem emit_of_isWord {strategy : Strategy} {target library interface word : String}
    (h : (emit (strategy.delegate target policy) model unknown).result = .ok ())
    (hcustom : policy.conformance = .custom library interface) (hword : IsWord word) :
    (emit (strategy.delegate target { policy with conformance := .custom library word }) model
      unknown).result = .ok () := by
  obtain ⟨imports, hstaged, -⟩ := of_emit_eq_ok h
  have hbare : IsBare policy.conformance.expected := by
    rw [hcustom]
    exact isBare_of_isSpelled (hstaged.interface_spelled library interface hcustom)
  have hpolicy : policy.validate target = .ok () := hstaged.policy_valid
  have hvalid := validate_of_isWord hpolicy hcustom hword
  have hwith : outcome target { policy with conformance := policy.conformance } model unknown =
      .ok () := (result_emit_eq_outcome strategy target policy model unknown).symm.trans h
  rw [outcome_of_valid hpolicy hbare] at hwith
  rw [result_emit_eq_outcome, outcome_of_valid hvalid hword.bare]
  exact hwith

/-! ## Captured words -/

theorem identifier?_ne_self {text : String} (h : isIdentifier text = true) :
    identifier? text ≠ some "Self" := by
  obtain ⟨name, hread, hkeyword⟩ := exists_of_isIdentifier h
  have hspelled := isSpelled_of_mem_read hread (List.mem_singleton.mpr rfl)
  have hself : identity name ≠ "Self" := @key_ne_self .identifiers name hspelled hkeyword
  rw [identifier?, hread]
  exact fun heq => hself (Option.some.inj heq)

theorem not_captured_iff {strategy : Strategy} {expected interface word : String}
    (herror : isIdentifier model.errorType = true) (hinterface : isIdentifier interface = true)
    (hword : identifier? interface = some word) :
    (∀ name ∈ typeWords (itemsFor strategy policy expected model unknown),
      identifier? name ≠ some word) ↔ word ∉ (wordsFor policy model).map Text.normalForm := by
  have hdenoted : ∀ name ∈ wordsFor policy model, identifier? name = some (Text.normalForm name) :=
    fun name hname =>
      identifier?_of_letters (isWord_of_mem_wordsFor herror name hname).identifier
        (isWord_of_mem_wordsFor herror name hname).letters
  constructor
  · intro hfree hmem
    obtain ⟨name, hname, rfl⟩ := List.mem_map.mp hmem
    exact hfree name ((mem_typeWords_iff ..).mpr (.inl hname)) (hdenoted name hname)
  · rintro hnot name hname hdenotes
    rcases (mem_typeWords_iff ..).mp hname with hmem | rfl
    · rw [hdenoted name hmem] at hdenotes
      exact hnot (Option.some.inj hdenotes ▸ List.mem_map_of_mem hmem)
    · have hself : identifier? "Self" = some "Self" := by decide +kernel
      rw [hself] at hdenotes
      exact identifier?_ne_self hinterface (hword.trans hdenotes.symm)

theorem exists_import_of_emitted {strategy : Strategy} {target library interface : String}
    (h : (emit (strategy.delegate target policy) model unknown).result = .ok ())
    (hcustom : policy.conformance = .custom library interface) :
    ∃ item blocks,
      (emit (strategy.delegate target policy) model unknown).blocks =
        ErrorTypes.text [item] :: blocks ∧
      item.imported? = some interface ∧
      File.read (Draft.contents ⟨blocks⟩) = .ok
        { attributes := [],
          items := itemsFor strategy policy policy.conformance.expected model unknown } := by
  obtain ⟨imports, hstaged, hblocks⟩ := of_emit_eq_ok h
  have himports : Imports (.custom library interface) imports := hcustom ▸ hstaged.imports_emitted
  obtain ⟨path, -, rfl⟩ := himports
  rw [blocksWith_eq, hstaged.blocks_routine] at hblocks
  exact ⟨_, _, hblocks, imported?_conformanceImport path interface,
    read_blocks strategy hstaged.named target⟩

/-- **What an import captures.** The trait that a module imports is, as an identifier, none of the
words that types go by in the rest of the module exactly if it is none of its own two types and none
of the types that every module has. No check sees to it: a module that is emitted with some trait is
emitted with each of these words for a trait, too. -/
theorem import_captures_iff {strategy : Strategy} {target : String} {policy : Policy} {model : Model}
    {unknown library interface : String} (hcustom : policy.conformance = .custom library interface)
    (h : (emit (strategy.delegate target policy) model unknown).result = .ok ()) :
    ∃ item word blocks file,
      (emit (strategy.delegate target policy) model unknown).blocks =
        ErrorTypes.text [item] :: blocks ∧
      item.imported? = some interface ∧ identifier? interface = some word ∧
      File.read (Draft.contents ⟨blocks⟩) = .ok file ∧
      ((∀ name ∈ typeWords file.items, identifier? name ≠ some word) ↔
        word ∉ (wordsFor policy model).map Text.normalForm) ∧
      ∀ other ∈ wordsFor policy model,
        (emit (strategy.delegate target { policy with conformance := .custom library other }) model
          unknown).result = .ok () := by
  obtain ⟨imports, hstaged, -⟩ := of_emit_eq_ok h
  have hinterface : isIdentifier interface = true :=
    isIdentifier_interface (check_eq_ok_of_validate hstaged.policy_valid) hcustom
  obtain ⟨word, hword⟩ := exists_identifier hinterface
  obtain ⟨item, blocks, hblocks, himported, hfile⟩ := exists_import_of_emitted h hcustom
  refine ⟨item, word, blocks, _, hblocks, himported, hword, hfile,
    not_captured_iff hstaged.error_identifier hinterface hword, fun other hother => ?_⟩
  exact emit_of_isWord h hcustom (isWord_of_mem_wordsFor hstaged.error_identifier other hother)

/-- The name of a trait that no type goes by. -/
theorem import_captures_iff_recoverable :
    ∃ item blocks file,
      (emit (Strategy.chain.delegate "custom" (.plain (.custom "smithy::errors" "Recoverable")))
        ⟨"Example", ["Throttling"]⟩ "UnknownError").blocks = ErrorTypes.text [item] :: blocks ∧
      item.imported? = some "Recoverable" ∧
      File.read (Draft.contents ⟨blocks⟩) = .ok file ∧
      ∀ name ∈ typeWords file.items, identifier? name ≠ some "Recoverable" := by
  have hresult : (emit (Strategy.chain.delegate "custom"
      (.plain (.custom "smithy::errors" "Recoverable"))) ⟨"Example", ["Throttling"]⟩
      "UnknownError").result = .ok () := by
    rw [result_emit]
    unfold stage
    dsimp only
    rw [sortedNames_singleton]
    rfl
  obtain ⟨item, word, blocks, file, hblocks, himported, hword, hfile, hcaptured, -⟩ :=
    import_captures_iff rfl hresult
  have hrecoverable : identifier? "Recoverable" = some "Recoverable" := by decide +kernel
  obtain rfl : "Recoverable" = word := Option.some.inj (hrecoverable.symm.trans hword)
  exact ⟨item, blocks, file, hblocks, himported, hfile, hcaptured.mpr (by decide +kernel)⟩

/-- The error type of a module, imported as the trait of its option set. -/
theorem import_captures_errorType :
    ∃ item blocks file,
      (emit (Strategy.matching.delegate "custom" (.plain (.custom "kit" "ExampleError")))
        ⟨"Example", ["Throttling"]⟩ "UnknownError").result = .ok () ∧
      (emit (Strategy.matching.delegate "custom" (.plain (.custom "kit" "ExampleError")))
        ⟨"Example", ["Throttling"]⟩ "UnknownError").blocks = ErrorTypes.text [item] :: blocks ∧
      item.imported? = some "ExampleError" ∧
      File.read (Draft.contents ⟨blocks⟩) = .ok file ∧
      "ExampleError" ∈ file.items.filterMap Item.definedType? := by
  have hresult : (emit (Strategy.matching.delegate "custom"
      (.plain (.custom "kit" "ExampleError"))) ⟨"Example", ["Throttling"]⟩
      "UnknownError").result = .ok () := by
    rw [result_emit]
    unfold stage
    dsimp only
    rw [sortedNames_singleton]
    rfl
  obtain ⟨item, blocks, hblocks, himported, hfile⟩ := exists_import_of_emitted hresult rfl
  refine ⟨item, blocks, _, hresult, hblocks, himported, hfile, ?_⟩
  rw [filterMap_definedType?]
  decide +kernel

end ErrorModule

end WireErrors
