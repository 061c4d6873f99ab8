import WireErrors.Proofs.Naming

/-!
# The emission of decode routines

An emission of a decode routine that comes to an end has accepted its names and has one block, the
text of `Decoder.members` (`of_emit_eq_ok`); one that fails has no block (`emit_allOrNothing`).
-/

namespace WireErrors

open Source

/-- Declared names with their variants, as a routine decodes them. -/
def casesFor (names : List String) : List Case := names.map fun name => ⟨name, variantName name⟩

namespace Decoder

variable {strategy : Strategy} {target : String} {policy : Policy} {names : List String}
  {unknown : String}

/-- What an emission that has come to an end tells about its input. -/
structure Emitted (policy : Policy) (names : List String) (unknown : String) : Prop where
  accepted : NamesAccepted names unknown policy.reserved
  variants_spelled : ∀ name ∈ names, isSpelled (variantName name) = true
  unknown_spelled : isSpelled unknown = true

theorem of_emit_eq_ok (h : (emit strategy target policy names unknown).result = .ok ()) :
    Emitted policy names unknown ∧
      (emit strategy target policy names unknown).blocks =
        [text (members strategy policy (casesFor names) unknown)] := by
  unfold emit at h ⊢
  obtain ⟨_, hcheck, h, hblocks⟩ := Emission.of_bind_eq_ok h
  rw [hblocks]
  obtain ⟨_, -, h, hblocks⟩ := Emission.of_bind_eq_ok h
  rw [hblocks]
  obtain ⟨cases, hcases, h, hblocks⟩ := Emission.of_bind_eq_ok h
  rw [hblocks]
  obtain ⟨word, hword, h, hblocks⟩ := Emission.of_bind_eq_ok h
  rw [hblocks]
  rw [Emission.result_ofExcept] at hcases hword
  obtain ⟨hvariants, rfl⟩ := casesOf_eq_ok_iff.mp hcases
  obtain ⟨hspelled, rfl⟩ := spell_eq_ok_iff.mp hword
  refine ⟨⟨accepted_of_validateNames hcheck, hvariants, hspelled⟩, ?_⟩
  rw [Emission.blocks_bind_of_ok _ (Emission.result_log _)]
  simp only [blocks_validateNames, Emission.blocks_forM_log, Emission.blocks_ofExcept,
    Emission.blocks_log, Emission.blocks_block, List.nil_append]
  rfl

theorem emit_allOrNothing (strategy : Strategy) (target : String) (policy : Policy)
    (names : List String) (unknown : String) :
    (emit strategy target policy names unknown).AllOrNothing := by
  refine .after (blocks_validateNames ..) fun _ _ => ?_
  refine .after (Emission.blocks_forM_log ..) fun _ _ => ?_
  refine .after (Emission.blocks_ofExcept _) fun cases _ => ?_
  refine .after (Emission.blocks_ofExcept _) fun word _ => ?_
  refine .after (Emission.blocks_log _) fun _ _ => ?_
  exact Emission.allOrNothing_of_ok (Emission.result_block _)

end Decoder

end WireErrors
