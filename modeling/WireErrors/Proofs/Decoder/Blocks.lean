import WireErrors.Proofs.Decoder.Reading

/-!
# Reading emitted blocks

The block of a decode routine is text, which is read back as the tokens that it was made from
(`readable_members`) and, placed into the implementation of a type, as its members (`read_placed`).
-/

namespace WireErrors

open Source Source.Reader

namespace Decoder

/-! ## Tokens -/

open scoped Spelled

attribute [local simp] commaSeparated

theorem readable_validationHelper : Readable validationHelper.tokens := by
  refine readable_of ?_ rfl rfl
  simp +decide [validationHelper, validationStarts, startsWith, alternatives, validationTokens]

theorem readable_validationCheck : Readable validationCheck.tokens := by
  refine readable_of ?_ rfl rfl
  simp +decide [validationCheck, carrying]

theorem readable_test {c : Case} (hvariant : isSpelled c.variant = true) :
    Readable (test c).tokens := by
  refine readable_of ?_ rfl rfl
  simp +decide [test, unitValue, hvariant]

theorem readable_arms {cases : List Case} {unknown : String}
    (hcases : ∀ c ∈ cases, isSpelled c.variant = true) (hunknown : isSpelled unknown = true) :
    ∀ a ∈ cases.map (fun c => Arm.plain (.literal (Text.quote c.name)) (unitValue c.variant)) ++
        [.plain (.binding "other") (carrying unknown "other")], Readable a.tokens := by
  intro a ha
  rcases List.mem_append.mp ha with ha | ha
  · obtain ⟨c, hc, rfl⟩ := List.mem_map.mp ha
    refine readable_of ?_ rfl rfl
    simp +decide [unitValue, hcases c hc]
  · obtain rfl := List.mem_singleton.mp ha
    refine readable_of ?_ rfl rfl
    simp +decide [carrying, hunknown]

theorem readable_lookup {cases : List Case} {unknown : String} (strategy : Strategy)
    (hcases : ∀ c ∈ cases, isSpelled c.variant = true) (hunknown : isSpelled unknown = true) :
    Readable (Statement.listTokens (lookup strategy cases unknown)) := by
  cases strategy with
  | matching =>
    rw [lookup, Statement.listTokens, Statement.listTokens, List.append_nil, Statement.tokens]
    exact (readable_select (by decide) (readable_arms hcases hunknown)).append readable_nil
  | chain =>
    induction cases with
    | nil =>
      refine readable_of ?_ rfl rfl
      simp +decide [lookup, carrying, hunknown]
    | cons c cases ih =>
      have hrest := ih fun other h => hcases other (List.mem_cons_of_mem _ h)
      exact (readable_test (hcases c List.mem_cons_self)).append hrest

theorem readable_routine {names : List String} {unknown : String} (strategy : Strategy)
    (policy : Policy) (hnames : ∀ name ∈ names, isSpelled (variantName name) = true)
    (hunknown : isSpelled unknown = true) :
    Readable (routine (documentation strategy) (body strategy policy names unknown)).tokens := by
  have hcases : ∀ c ∈ casesFor names, isSpelled c.variant = true := List.forall_mem_map.mpr hnames
  have hlookup := readable_lookup strategy hcases hunknown
  rw [tokens_routine]
  refine .append ?_ (.group ?_ .brace)
  · cases strategy with
    | matching =>
      refine readable_of ?_ rfl rfl
      simp +decide [routineSignature, documentation]
    | chain =>
      refine readable_of ?_ rfl rfl
      simp +decide [routineSignature, documentation]
  · unfold body
    split
    · exact readable_validationCheck.append hlookup
    · exact hlookup

theorem readable_members {names : List String} {unknown : String} (strategy : Strategy)
    (policy : Policy) (hnames : ∀ name ∈ names, isSpelled (variantName name) = true)
    (hunknown : isSpelled unknown = true) :
    Readable ((members strategy policy (casesFor names) unknown).flatMap Member.tokens) := by
  have hroutine := readable_routine strategy policy hnames hunknown
  refine readable_flatMap fun m hm => ?_
  rw [members_eq] at hm
  split at hm
  · obtain rfl | hm := List.mem_cons.mp hm
    · exact readable_validationHelper
    · obtain rfl := List.mem_singleton.mp hm
      exact hroutine
  · obtain rfl := List.mem_singleton.mp hm
    exact hroutine

/-! ## Lengths -/

theorem length_lookup (strategy : Strategy) (cases : List Case) (unknown : String) :
    cases.length + 1 ≤ (Statement.listTokens (lookup strategy cases unknown)).length := by
  cases strategy with
  | matching =>
    have harms := length_le_select (.names ["error_type"])
      (cases.map (fun c => Arm.plain (.literal (Text.quote c.name)) (unitValue c.variant)) ++
        [.plain (.binding "other") (carrying unknown "other")])
    rw [lookup, Statement.listTokens, Statement.tokens]
    simp only [List.length_append, List.length_map] at harms ⊢
    omega
  | chain =>
    induction cases with
    | nil => exact Nat.le_add_left _ _
    | cons c cases ih =>
      have hhead : 0 < (test c).tokens.length := Nat.zero_lt_succ _
      show _ ≤ ((test c).tokens ++ Statement.listTokens (lookup .chain cases unknown)).length
      rw [List.length_append, List.length_cons]
      omega

theorem length_routine (strategy : Strategy) (policy : Policy) (names : List String)
    (unknown : String) : names.length + 12 ≤
      (routine (documentation strategy) (body strategy policy names unknown)).tokens.length := by
  have hlookup := length_lookup strategy (casesFor names) unknown
  have hsignature : 12 ≤ (routineSignature strategy).tokens.length := by cases strategy <;> decide
  have hcases : (casesFor names).length = names.length := List.length_map ..
  have hbody : names.length ≤
      (Statement.listTokens (body strategy policy names unknown)).length := by
    unfold body
    split
    · show _ ≤ (validationCheck.tokens ++
        Statement.listTokens (lookup strategy (casesFor names) unknown)).length
      rw [List.length_append]
      omega
    · show _ ≤ (Statement.listTokens (lookup strategy (casesFor names) unknown)).length
      omega
  rw [tokens_routine, Token.group, List.length_append, List.cons_append, List.length_cons,
    List.length_append]
  omega

theorem length_members (strategy : Strategy) (policy : Policy) (names : List String)
    (unknown : String) : names.length + 12 ≤
      ((members strategy policy (casesFor names) unknown).flatMap Member.tokens).length := by
  have hroutine := length_routine strategy policy names unknown
  rw [members_eq, List.flatMap_append, List.length_append, List.flatMap_singleton]
  omega

/-! ## Blocks -/

/-- A block of members, placed into the implementation of a type. -/
def placed (type block : String) : Draft := ⟨["impl " ++ type ++ " \x7b", block, "\x7d"]⟩

/-- **The block of a decode routine is read as its members.** -/
theorem read_placed {names : List String} {unknown type : String} (strategy : Strategy)
    (policy : Policy) (hnames : ∀ name ∈ names, isSpelled (variantName name) = true)
    (hvariants : ∀ name ∈ names, isKeyword (variantName name) = false)
    (hunknown : isSpelled unknown = true) (hkeyword : isKeyword unknown = false)
    (htype : isSpelled type = true) (hword : isKeyword type = false) :
    File.read (placed type (text (members strategy policy (casesFor names) unknown))).contents =
      .ok { attributes := [], items :=
        [ErrorTypes.implementation none type (members strategy policy (casesFor names) unknown)] } := by
  have hlist := readable_members strategy policy hnames hunknown
  have hlength := length_members strategy policy names unknown
  have hitem (depth rounds : Nat) (hrounds : names.length + 2 < rounds + 12) (rest : List Token) :
      Yields (Reader.readers (depth + 14)).item (rounds + 12)
        ((ErrorTypes.implementation none type
          (members strategy policy (casesFor names) unknown)).tokens ++ rest)
        (ErrorTypes.implementation none type (members strategy policy (casesFor names) unknown))
        rest := by
    rw [← List.append_nil (members strategy policy (casesFor names) unknown)]
    exact yields_members_inherent strategy hvariants hkeyword hword
      (fun m hm => absurd hm List.not_mem_nil) (by decide) hrounds rest
  generalize members strategy policy (casesFor names) unknown = list at hlist hlength hitem ⊢
  have hblocks : placed type (text list) = ⟨[[.ident "impl", .ident type, .opening .brace],
      list.flatMap Member.tokens, [.closing .brace]].map Token.render⟩ := by
    rw [List.map_cons, render_opened]
    rfl
  have htokens : [ErrorTypes.implementation none type list].flatMap Item.tokens =
      .ident "impl" :: .ident type :: Token.group .brace (list.flatMap Member.tokens) := by
    rw [List.flatMap_singleton, tokens_inherent]
  rw [hblocks]
  refine read_items names.length ?_ nofun ?_ ?_ ?_ ?_ ?_ ?_
  · intro part hpart
    simp only [List.mem_cons, List.not_mem_nil, or_false] at hpart
    rcases hpart with rfl | rfl | rfl
    · exact .ident (by decide) (.ident htype (.opening _ .nil))
    · exact hlist.legible
    · exact .closing _ .nil
  · rw [htokens]
    simp [Token.group]
  · rw [htokens]
    exact balanced_ident _ (balanced_ident _ (.group _ hlist.balanced))
  · rw [htokens]
    rfl
  · intro item hitem
    obtain rfl := List.mem_singleton.mp hitem
    rw [tokens_inherent]
    exact List.cons_ne_nil _ _
  · rw [htokens, Token.group]
    simp only [List.length_cons, List.length_append]
    omega
  · intro depth rounds hrounds item hmem
    obtain rfl := List.mem_singleton.mp hmem
    exact hitem depth rounds hrounds

end Decoder

end WireErrors
