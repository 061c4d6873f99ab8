import WireErrors.Proofs.ErrorModule.Texts

/-!
# Order of declaration

A module is generated from the sorted names, so models that declare the same errors in another order
cannot be told apart by anything that generation does (`generation_of_perm`). The names with their
repetitions are all that is forgotten: an emitted module has them back in order (`perm_of_blocks`).
-/

namespace WireErrors

open Source

/-! ## Sorted names -/

namespace Model

theorem sortedNames_perm (model : Model) : model.sortedNames.Perm model.errorNames :=
  List.mergeSort_perm _ _

theorem pairwise_sortedNames (model : Model) : model.sortedNames.Pairwise (· ≤ ·) := by
  have hsorted : model.sortedNames.Pairwise fun a b => (!decide (b < a)) = true := by
    refine List.pairwise_mergeSort (fun a b c hab hbc => ?_) (fun a b => ?_) model.errorNames
    · simp only [Bool.not_eq_true', decide_eq_false_iff_not, String.not_lt] at hab hbc ⊢
      exact String.le_trans hab hbc
    · simp only [Bool.or_eq_true, Bool.not_eq_true', decide_eq_false_iff_not, String.not_lt]
      exact String.le_total a b
  exact hsorted.imp fun h => by
    simpa only [Bool.not_eq_true', decide_eq_false_iff_not, String.not_lt] using h

theorem sortedNames_eq_iff {base : String} {names others : List String} :
    sortedNames ⟨base, names⟩ = sortedNames ⟨base, others⟩ ↔ names.Perm others := by
  have hnames : (sortedNames ⟨base, names⟩).Perm names := sortedNames_perm _
  have hothers : (sortedNames ⟨base, others⟩).Perm others := sortedNames_perm _
  constructor
  · intro h
    rw [h] at hnames
    exact hnames.symm.trans hothers
  · intro h
    exact (hnames.trans (h.trans hothers.symm)).eq_of_pairwise
      (fun _ _ _ _ => String.le_antisymm) (pairwise_sortedNames _) (pairwise_sortedNames _)

end Model

namespace ErrorModule

open Model

/-! ## Other orders -/

section

variable (delegate : Delegate) (base unknown : String) {names others : List String}

theorem stage_of_sortedNames (h : sortedNames ⟨base, names⟩ = sortedNames ⟨base, others⟩) :
    stage delegate ⟨base, names⟩ unknown = stage delegate ⟨base, others⟩ unknown := by
  unfold stage
  rw [h]
  rfl

theorem emit_of_sortedNames (h : sortedNames ⟨base, names⟩ = sortedNames ⟨base, others⟩) :
    emit delegate ⟨base, names⟩ unknown = emit delegate ⟨base, others⟩ unknown := by
  unfold emit
  rw [stage_of_sortedNames delegate base unknown h]
  rfl

theorem generateFile_of_sortedNames (h : sortedNames ⟨base, names⟩ = sortedNames ⟨base, others⟩) :
    generateFile delegate ⟨base, names⟩ unknown =
      generateFile delegate ⟨base, others⟩ unknown := by
  have hlength : names.length = others.length := (sortedNames_eq_iff.mp h).length_eq
  unfold generateFile emitFile
  rw [emit_of_sortedNames delegate base unknown h]
  dsimp only
  rw [hlength]
  rfl

end

/-! ## Names of a module -/

section

variable {strategy : Strategy} {target : String} {policy : Policy} {base unknown : String}
  {names others : List String}

theorem map_some_inj {α : Type} {as bs : List α} : as.map some = bs.map some ↔ as = bs :=
  List.map_inj_right fun _ _ => Option.some.inj

theorem texts_inj (h : texts strategy policy unknown names = texts strategy policy unknown others) :
    names = others := by
  unfold texts at h
  rw [List.append_assoc, List.append_assoc] at h
  have hoption := (List.cons.inj (List.append_cancel_left h)).1
  unfold optionSetTexts at hoption
  exact List.append_cancel_left (List.append_cancel_right hoption)

theorem perm_of_blocks
    (hnames : (emit (strategy.delegate target policy) ⟨base, names⟩ unknown).result = .ok ())
    (h : (emit (strategy.delegate target policy) ⟨base, others⟩ unknown).blocks =
      (emit (strategy.delegate target policy) ⟨base, names⟩ unknown).blocks) :
    others.Perm names := by
  obtain ⟨hblocks, hlegible⟩ := blocks_of_emitted hnames
  have hothers :
      (emit (strategy.delegate target policy) ⟨base, others⟩ unknown).result = .ok () := by
    cases hresult : (emit (strategy.delegate target policy) ⟨base, others⟩ unknown).result with
    | ok => rfl
    | error failure =>
      rw [emit_allOrNothing _ _ _ failure hresult, hblocks] at h
      simp [partsOf] at h
  obtain ⟨hotherBlocks, hotherLegible⟩ := blocks_of_emitted hothers
  have htokens := congrArg (List.map lex?) h
  rw [hblocks, hotherBlocks, map_lex?_render hlegible, map_lex?_render hotherLegible] at htokens
  have hvalues := congrArg (List.map literalValues) (map_some_inj.mp htokens)
  rw [map_literalValues_partsOf, map_literalValues_partsOf] at hvalues
  have htexts := (List.map_inj_right fun _ _ => map_some_inj.mp).mp hvalues
  exact sortedNames_eq_iff.mp (texts_inj htexts)

end

/-! ## Generation -/

/-- **The order of declaration is irrelevant.** For the same names in another order, repeated ones
included, emission leaves every destination alike, logs the same events and has the same result, and
so does the generation of a file. Only a permutation has the blocks of an emitted module. -/
theorem generation_of_perm {names others : List String} (h : names.Perm others) (base : String)
    (unknown : String) :
    (∀ (delegate : Delegate),
      (∀ {δ : Type} [Destination δ] (d : δ), (emit delegate ⟨base, names⟩ unknown).into d =
        (emit delegate ⟨base, others⟩ unknown).into d) ∧
      ∀ {δ : Type} [Destination δ] (d : δ), (generateFile delegate ⟨base, names⟩ unknown).into d =
        (generateFile delegate ⟨base, others⟩ unknown).into d) ∧
    ∀ (strategy : Strategy) (target : String) (policy : Policy),
      (emit (strategy.delegate target policy) ⟨base, names⟩ unknown).result = .ok () →
      ∀ more, (emit (strategy.delegate target policy) ⟨base, more⟩ unknown).blocks =
          (emit (strategy.delegate target policy) ⟨base, others⟩ unknown).blocks ↔
        more.Perm others := by
  have hsorted : sortedNames ⟨base, names⟩ = sortedNames ⟨base, others⟩ :=
    sortedNames_eq_iff.mpr h
  refine ⟨fun delegate => ⟨fun d => ?_, fun d => ?_⟩, fun strategy target policy hresult more => ?_⟩
  · rw [emit_of_sortedNames delegate base unknown hsorted]
  · rw [generateFile_of_sortedNames delegate base unknown hsorted]
  · rw [emit_of_sortedNames _ base unknown hsorted] at hresult
    refine ⟨perm_of_blocks hresult, fun hmore => ?_⟩
    rw [emit_of_sortedNames _ base unknown (sortedNames_eq_iff.mpr hmore)]

/-- A name that is declared twice is refused wherever it stands, and a name that is left out is
missed. -/
theorem generation_of_perm_throttling :
    ["Throttling", "Denied", "Throttling"].Perm ["Denied", "Throttling", "Throttling"] ∧
      (emit (Strategy.chain.delegate "rust" (.plain .display))
          ⟨"Queue", ["Throttling", "Denied", "Throttling"]⟩ "UnknownError").into Draft.empty =
        (Draft.empty,
          [⟨.warn, "error model rejected: duplicate error name 'Throttling'",
            [("target_name", "rust")]⟩],
          .error (.refused (.contract "rust" (.duplicateName "Throttling")))) ∧
      ["Throttling", "Denied"].Perm ["Denied", "Throttling"] ∧
      (emit (Strategy.chain.delegate "rust" (.plain .display))
          ⟨"Queue", ["Throttling", "Denied"]⟩ "UnknownError").result = .ok () ∧
      (emit (Strategy.chain.delegate "rust" (.plain .display))
          ⟨"Queue", ["Denied"]⟩ "UnknownError").blocks ≠
        (emit (Strategy.chain.delegate "rust" (.plain .display))
          ⟨"Queue", ["Denied", "Throttling"]⟩ "UnknownError").blocks := by
  have hrepeated :
      ["Throttling", "Denied", "Throttling"].Perm ["Denied", "Throttling", "Throttling"] := .swap ..
  have hperm : ["Throttling", "Denied"].Perm ["Denied", "Throttling"] := .swap ..
  have hthree : sortedNames ⟨"Queue", ["Denied", "Throttling", "Throttling"]⟩ =
      ["Denied", "Throttling", "Throttling"] := List.mergeSort_of_pairwise (by decide)
  have htwo : sortedNames ⟨"Queue", ["Throttling", "Denied"]⟩ = ["Denied", "Throttling"] :=
    (sortedNames_eq_iff.mpr hperm).trans (List.mergeSort_of_pairwise (by decide))
  have hresult : (emit (Strategy.chain.delegate "rust" (.plain .display))
      ⟨"Queue", ["Throttling", "Denied"]⟩ "UnknownError").result = .ok () := by
    rw [result_emit]
    unfold stage
    dsimp only
    rw [htwo]
    rfl
  refine ⟨hrepeated,
    (((generation_of_perm hrepeated "Queue" "UnknownError").1 _).1 Draft.empty).trans ?_,
    hperm, hresult, ?_⟩
  · unfold emit stage
    dsimp only
    rw [hthree]
    rfl
  · exact fun h => absurd
      (((generation_of_perm hperm "Queue" "UnknownError").2 _ _ _ hresult _).mp h).length_eq
      (by decide)

end ErrorModule

end WireErrors
