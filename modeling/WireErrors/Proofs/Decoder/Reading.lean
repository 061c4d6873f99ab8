import WireErrors.Proofs.Execution.Decoding
import WireErrors.Proofs.Source.Documents

/-!
# Reading emitted decode routines

The tokens of the members of a decode routine are read as these members (`yields_members`), if no
variant is called like a keyword.
-/

namespace WireErrors

open Source Source.Reader

namespace Decoder

variable {depth rounds : Nat} {variant holder : String} {rest : List Token}

/-! ## Values -/

theorem yields_selfPath {braces : Bool} (hvariant : isKeyword variant = false) (hrest : Stops rest) :
    Yields (unary (Reader.readers depth) braces) (rounds + 2) ((unitValue variant).tokens ++ rest)
      (unitValue variant) rest :=
  yields_operand rfl rfl rfl (yields_atom (.inl rfl) (.inr hvariant) hrest.endsPathExpr) (yields_extend hrest _)

theorem yields_unitValue (hvariant : isKeyword variant = false) (hrest : Stops rest) :
    Yields ((Reader.readers (depth + 2)).expr .statement) (rounds + 2)
      ((unitValue variant).tokens ++ rest) (unitValue variant) rest :=
  yields_statementExpr rfl rfl (yields_selfPath hvariant hrest) rfl hrest

/-- The variables that a routine has for the wire identifier. -/
def Holder (holder : String) : Prop := holder = "error_type" ∨ holder = "other"

/-- The copy of a variable, up to the end of the arguments that it is the last of. -/
def copy (holder : String) (rest : List Token) : List Token :=
  .ident holder :: .mark '.' false :: .ident "to_string" :: .opening .paren :: .closing .paren ::
    .closing .paren :: rest

theorem yields_carrying (hvariant : isKeyword variant = false) (hholder : Holder holder)
    (hrest : Stops rest) :
    Yields ((Reader.readers (depth + 4)).expr .statement) (rounds + 3)
      ((carrying variant holder).tokens ++ rest) (carrying variant holder) rest := by
  have hcopy : Yields (commaList .paren (wholeExpr (Reader.readers (depth + 2)))) (rounds + 3)
      (copy holder rest) [.method (.names [holder]) "to_string" []] rest := by
    obtain rfl | rfl := hholder <;> rfl
  have hatom : Yields (atom (Reader.readers (depth + 2)) true) (rounds + 3)
      (pair "Self" variant ++ .opening .paren :: copy holder rest) (unitValue variant)
      (.opening .paren :: copy holder rest) :=
    yields_atom (.inl rfl) (.inr hvariant) ⟨⟨rfl, rfl⟩, rfl, rfl⟩
  exact yields_statementExpr rfl rfl (yields_operand rfl rfl rfl hatom (yields_call _ hcopy hrest)) rfl hrest

/-! ## Statements -/

set_option maxRecDepth 4000 in
theorem yields_validationCheck (hrest : EndsBlock rest) :
    Yields (statement (Reader.readers (depth + 12))) (rounds + 12)
      (validationCheck.tokens ++ rest) validationCheck rest :=
  yields_conditional (.ident "return" :: (pair "Self" "ValidationError" ++ .opening .paren ::
    copy "error_type" (.mark ';' false :: .closing .brace :: rest))) rfl rfl hrest

/-- A comparison with the variant for it. -/
def test (c : Case) : Statement :=
  .expr (.conditional (.binary .equal (.names ["error_type"]) (.literal (Text.quote c.name)))
    [.expr (.giveBack (some (unitValue c.variant))) true] .none) false

theorem yields_test {c : Case} (hvariant : isKeyword c.variant = false) (hrest : EndsBlock rest) :
    Yields (statement (Reader.readers (depth + 12))) (rounds + 12) ((test c).tokens ++ rest)
      (test c) rest := by
  have hpath : Yields (unary (Reader.readers (depth + 6)) true) (rounds + 12)
      ((unitValue c.variant).tokens ++ .mark ';' false :: .closing .brace :: rest)
      (unitValue c.variant) (.mark ';' false :: .closing .brace :: rest) :=
    yields_selfPath hvariant (.semicolon _)
  have hvalue := yields_whole hpath (.semicolon _)
  refine yields_conditional (.ident "return" ::
    ((unitValue c.variant).tokens ++ .mark ';' false :: .closing .brace :: rest)) rfl ?_ hrest
  show Yields (statementsStep (Reader.readers (depth + 10))) _ _ _ _
  refine .bind (yields_limit _ _) (yields_statementRounds_last rfl rfl ?_)
  exact yields_giveBack rfl rfl hvalue

/-! ## Lookups -/

theorem yields_arms {cases : List Case} {unknown : String}
    (hcases : ∀ c ∈ cases, isKeyword c.variant = false) (hunknown : isKeyword unknown = false) :
    ∀ a ∈ cases.map (fun c => .plain (.literal (Text.quote c.name)) (unitValue c.variant)) ++
        [.plain (.binding "other") (carrying unknown "other")],
      ∀ rest, Yields (arm (Reader.readers (depth + 4))) (rounds + 3) (a.tokens ++ rest) a rest := by
  intro a ha rest
  rcases List.mem_append.mp ha with ha | ha
  · obtain ⟨c, hc, rfl⟩ := List.mem_map.mp ha
    exact yields_arm (fun _ => rfl) (fun _ => rfl) (fun _ => rfl)
      (yields_unitValue (hcases c hc) (.comma rest)) rfl
  · obtain rfl := List.mem_singleton.mp ha
    exact yields_arm (fun _ => rfl) (fun _ => rfl) (fun _ => rfl)
      (yields_carrying hunknown (.inr rfl) (.comma rest)) rfl

theorem yields_matching {cases : List Case} {unknown : String}
    (hcases : ∀ c ∈ cases, isKeyword c.variant = false) (hunknown : isKeyword unknown = false)
    {steps : Nat} (hrounds : cases.length + 1 < rounds + 12) :
    Yields (statementRounds (Reader.readers (depth + 12)) (steps + 1)) (rounds + 12)
      (Statement.listTokens (lookup .matching cases unknown) ++ .closing .brace :: rest)
      (lookup .matching cases unknown) rest := by
  refine yields_statementRounds_last rfl rfl ?_
  rw [lookup, Statement.listTokens, Statement.listTokens, List.append_nil, tokens_select]
  refine yields_select rfl (yields_arms hcases hunknown) ?_ ?_ ?_ ⟨rfl, rfl, rfl⟩
  · intro a ha rest
    rcases List.mem_append.mp ha with ha | ha
    · obtain ⟨c, -, rfl⟩ := List.mem_map.mp ha
      rfl
    · obtain rfl := List.mem_singleton.mp ha
      rfl
  · cases cases <;> rfl
  · rw [List.length_append, List.length_map]
    exact hrounds

theorem endsBlock_chain (cases : List Case) (unknown : String) (rest : List Token) :
    EndsBlock (Statement.listTokens (lookup .chain cases unknown) ++ rest) := by
  cases cases <;> exact ⟨rfl, rfl, rfl⟩

theorem yields_chain {cases : List Case} {unknown : String}
    (hcases : ∀ c ∈ cases, isKeyword c.variant = false) (hunknown : isKeyword unknown = false)
    {steps : Nat} (hsteps : cases.length < steps) :
    Yields (statementRounds (Reader.readers (depth + 12)) steps) (rounds + 12)
      (Statement.listTokens (lookup .chain cases unknown) ++ .closing .brace :: rest)
      (lookup .chain cases unknown) rest := by
  induction cases generalizing steps with
  | nil =>
    obtain ⟨steps, rfl⟩ := Nat.exists_eq_succ_of_ne_zero (Nat.ne_of_gt hsteps)
    have hvalue : Yields ((Reader.readers (depth + 12)).expr .statement) (rounds + 12)
        ((carrying unknown "error_type").tokens ++ .closing .brace :: rest)
        (carrying unknown "error_type") (.closing .brace :: rest) :=
      yields_carrying hunknown (.inl rfl) (.closing .brace rest)
    refine yields_statementRounds_last rfl rfl ?_
    exact yields_statement rfl (yields_invocationKind hunknown rfl rfl) rfl rfl hvalue
      (yields_no_sign rfl) rfl
  | cons c cases ih =>
    obtain ⟨steps, rfl⟩ := Nat.exists_eq_succ_of_ne_zero (Nat.ne_of_gt (Nat.zero_lt_of_lt hsteps))
    have hrest := ih (fun other h => hcases other (List.mem_cons_of_mem _ h))
      (Nat.lt_of_succ_lt_succ hsteps)
    have hend : isEnd (Statement.listTokens (lookup .chain cases unknown) ++
        .closing .brace :: rest) = false := by cases cases <;> rfl
    show Yields _ _ (((test c).tokens ++ Statement.listTokens (lookup .chain cases unknown)) ++ _)
      (test c :: lookup .chain cases unknown) _
    rw [List.append_assoc]
    exact yields_statementRounds_cons rfl rfl
      (yields_test (hcases c List.mem_cons_self) (endsBlock_chain cases unknown _)) hend rfl hrest

/-! ## Members -/

theorem yields_body {names : List String} {policy : Policy} {unknown : String} (strategy : Strategy)
    (hnames : ∀ name ∈ names, isKeyword (variantName name) = false)
    (hunknown : isKeyword unknown = false) (hrounds : names.length + 2 < rounds + 12) :
    Yields (Reader.readers (depth + 13)).statements (rounds + 12)
      (inBraces (body strategy policy names unknown) rest) (body strategy policy names unknown)
      rest := by
  have hcases : ∀ c ∈ casesFor names, isKeyword c.variant = false := List.forall_mem_map.mpr hnames
  have hlength : (casesFor names).length = names.length := List.length_map ..
  have hlookup (steps : Nat) (hsteps : names.length + 1 < steps) :
      Yields (statementRounds (Reader.readers (depth + 12)) steps) (rounds + 12)
        (inBraces (lookup strategy (casesFor names) unknown) rest)
        (lookup strategy (casesFor names) unknown) rest := by
    cases strategy with
    | matching =>
      obtain ⟨steps, rfl⟩ := Nat.exists_eq_succ_of_ne_zero (Nat.ne_of_gt (Nat.zero_lt_of_lt hsteps))
      exact yields_matching hcases hunknown (by omega)
    | chain => exact yields_chain hcases hunknown (by omega)
  show Yields (statementsStep (Reader.readers (depth + 12))) _ _ _ _
  refine .bind (yields_limit _ _) ?_
  unfold body
  cases policy.validation with
  | false => exact hlookup (rounds + 12) (by omega)
  | true =>
    have hrest : EndsBlock (inBraces (lookup strategy (casesFor names) unknown) rest) := by
      cases strategy with
      | matching => exact ⟨rfl, rfl, rfl⟩
      | chain => exact endsBlock_chain _ _ _
    have hend : isEnd (inBraces (lookup strategy (casesFor names) unknown) rest) = false := by
      cases strategy with
      | matching => rfl
      | chain => cases casesFor names <;> rfl
    show Yields _ _ ((validationCheck.tokens ++ Statement.listTokens _) ++ _) (validationCheck :: _) _
    rw [List.append_assoc]
    exact yields_statementRounds_cons rfl rfl (yields_validationCheck hrest) hend rfl
      (hlookup (rounds + 11) (by omega))

/-- A routine without its statements. -/
def routineSignature (strategy : Strategy) : Signature where
  attributes := (documentation strategy).map Attribute.doc
  visibility := .everyone
  name := "from_error_type"
  parameters := [.named "error_type" .text]
  result := some (.named "Self")

theorem routine_eq (strategy : Strategy) (body : List Statement) :
    routine (documentation strategy) body =
      .function { routineSignature strategy with body := body } := rfl

theorem tokens_routine (strategy : Strategy) (body : List Statement) :
    (routine (documentation strategy) body).tokens = (routineSignature strategy).tokens ++
      Token.group .brace (Statement.listTokens body) := by
  rw [routine_eq, Member.tokens, Function.tokens]
  cases strategy <;> rfl

set_option maxRecDepth 4000 in
theorem readsSignature_routine (strategy : Strategy) (inside : List Token) :
    ReadsSignature (Reader.readers (depth + 13)) (rounds + 12)
      ((routineSignature strategy).tokens ++ .opening .brace :: inside) (routineSignature strategy)
      (.opening .brace :: inside) := by
  cases strategy <;> exact ⟨_, _, rfl, rfl, rfl, rfl, rfl, rfl⟩

theorem yields_routine {names : List String} {policy : Policy} {unknown : String} (strategy : Strategy)
    (hnames : ∀ name ∈ names, isKeyword (variantName name) = false)
    (hunknown : isKeyword unknown = false) (hrounds : names.length + 2 < rounds + 12) :
    Yields (member (Reader.readers (depth + 13))) (rounds + 12)
      ((routine (documentation strategy) (body strategy policy names unknown)).tokens ++ rest)
      (routine (documentation strategy) (body strategy policy names unknown)) rest := by
  have hbody : Yields (Reader.readers (depth + 13)).statements (rounds + 12)
      (inBraces (body strategy policy names unknown) rest) (body strategy policy names unknown)
      rest := yields_body strategy hnames hunknown hrounds
  have hinner : startsInner (inBraces (body strategy policy names unknown) rest) = false := by
    unfold body
    cases policy.validation with
    | true => rfl
    | false =>
      cases strategy with
      | matching => rfl
      | chain => cases names <;> rfl
  rw [routine_eq]
  refine yields_function ?_ (readsSignature_routine strategy _) hinner hbody
  cases strategy <;> rfl

set_option maxRecDepth 20000 in
theorem yields_validationHelper :
    Yields (member (Reader.readers (depth + 13))) (rounds + 12)
      (validationHelper.tokens ++ rest) validationHelper rest := rfl

theorem yields_members {names : List String} {policy : Policy} {unknown : String} (strategy : Strategy)
    (hnames : ∀ name ∈ names, isKeyword (variantName name) = false)
    (hunknown : isKeyword unknown = false) (hrounds : names.length + 2 < rounds + 12) :
    ∀ m ∈ members strategy policy (casesFor names) unknown, ∀ rest,
      Yields (member (Reader.readers (depth + 13))) (rounds + 12) (m.tokens ++ rest) m rest ∧
        isEnd (m.tokens ++ rest) = false := by
  intro m hm rest
  have hroutine : isEnd ((routine (documentation strategy)
      (body strategy policy names unknown)).tokens ++ rest) = false := by
    rw [tokens_routine, List.append_assoc]
    cases strategy <;> rfl
  rw [members_eq] at hm
  split at hm
  · obtain rfl | hm := List.mem_cons.mp hm
    · exact ⟨yields_validationHelper, rfl⟩
    · obtain rfl := List.mem_singleton.mp hm
      exact ⟨yields_routine strategy hnames hunknown hrounds, hroutine⟩
  · obtain rfl := List.mem_singleton.mp hm
    exact ⟨yields_routine strategy hnames hunknown hrounds, hroutine⟩

theorem not_startsInner_members (strategy : Strategy) (policy : Policy) (names : List String)
    (unknown : String) (rest : List Token) :
    startsInner ((members strategy policy (casesFor names) unknown).flatMap Member.tokens ++ rest) =
      false := by
  rw [members_eq]
  cases policy.validation with
  | true => rfl
  | false =>
    rw [if_neg Bool.false_ne_true, List.nil_append, List.flatMap_singleton, tokens_routine,
      List.append_assoc]
    cases strategy <;> rfl

theorem length_members_le (strategy : Strategy) (policy : Policy) (cases : List Case)
    (unknown : String) : (members strategy policy cases unknown).length ≤ 2 := by
  unfold members
  split
  · exact Nat.le_refl 2
  · exact Nat.le_succ 1

theorem yields_members_inherent {names : List String} {policy : Policy} {unknown type : String}
    {more : List Member} (strategy : Strategy)
    (hnames : ∀ name ∈ names, isKeyword (variantName name) = false)
    (hunknown : isKeyword unknown = false) (htype : isKeyword type = false)
    (hmore : ∀ m ∈ more, ∀ rest, Yields (member (Reader.readers (depth + 13))) (rounds + 12)
      (m.tokens ++ rest) m rest ∧ isEnd (m.tokens ++ rest) = false)
    (hlength : more.length < 10) (hrounds : names.length + 2 < rounds + 12) (rest : List Token) :
    Yields (Reader.readers (depth + 14)).item (rounds + 12)
      ((ErrorTypes.implementation none type
        (members strategy policy (casesFor names) unknown ++ more)).tokens ++ rest)
      (ErrorTypes.implementation none type
        (members strategy policy (casesFor names) unknown ++ more)) rest := by
  have hmembers : ∀ m ∈ members strategy policy (casesFor names) unknown ++ more, ∀ rest,
      Yields (member (Reader.readers (depth + 13))) (rounds + 12) (m.tokens ++ rest) m rest ∧
        isEnd (m.tokens ++ rest) = false := by
    intro m hm
    rcases List.mem_append.mp hm with hm | hm
    · exact yields_members strategy hnames hunknown hrounds m hm
    · exact hmore m hm
  have hcount : (members strategy policy (casesFor names) unknown ++ more).length < rounds + 12 := by
    have htwo := length_members_le strategy policy (casesFor names) unknown
    rw [List.length_append]
    omega
  have hinner : startsInner ((members strategy policy (casesFor names) unknown ++ more).flatMap
      Member.tokens ++ .closing .brace :: rest) = false := by
    rw [List.flatMap_append, List.append_assoc]
    exact not_startsInner_members strategy policy names unknown _
  rw [tokens_inherent, List.cons_append, List.cons_append, group_append]
  exact yields_inherent htype hinner (yields_upTo (fun m hm rest => (hmembers m hm rest).1)
    (fun m hm rest => (hmembers m hm rest).2) hcount rest)

end Decoder

end WireErrors
