import WireErrors.Proofs.Source.Grammar.Expressions

/-!
# Reading lists with commas in them

Elements with a comma between two of them are read one by one (`yields_separated`), as the arguments
of a call or the elements of an array.
-/

namespace WireErrors.Source.Reader

variable {readers : Readers} {braces : Bool} {word : String} {depth rounds : Nat}
  {tokens rest : List Token} {value : Expr}

theorem commaSeparated_singleton (part : List Token) : commaSeparated [part] = part := by
  simp [commaSeparated, List.intercalate]

theorem commaSeparated_cons (first second : List Token) (parts : List (List Token)) :
    commaSeparated (first :: second :: parts) =
      first ++ .mark ',' false :: commaSeparated (second :: parts) := by
  simp [commaSeparated, List.intercalate, List.intersperse, Token.sign, Token.sign.go]

section

variable {α : Type} {d : Delimiter} {element : Reader α}

theorem withCommas_false (parts : List (List Token)) : withCommas false parts = commaSeparated parts := by
  induction parts with
  | nil => rfl
  | cons part parts ih =>
    cases parts with
    | nil => simp [withCommas, commaSeparated_singleton]
    | cons second parts =>
      rw [withCommas, ih, commaSeparated_cons, List.append_assoc]
      rfl

theorem EndsElement.stops {trailing : Bool} (h : EndsElement trailing d rest) : Stops rest := by
  cases h with
  | comma rest => exact .comma rest
  | closing _ rest => exact .closing d rest

theorem yields_separated (spell : α → List Token) (items : List α)
    (hread : ∀ item ∈ items, ∀ rest, Stops rest →
      Yields element rounds (spell item ++ rest) item rest)
    (hstart : ∀ item ∈ items, ∀ rest, isEnd (spell item ++ rest) = false)
    (hrounds : items.length < rounds) (rest : List Token) :
    Yields (commaList d element) rounds
      (commaSeparated (items.map spell) ++ .closing d :: rest) items rest := by
  rw [← withCommas_false]
  refine .bind (yields_limit rounds _) (yields_commaParts ?_ (by rwa [List.length_map]) rest)
  rw [List.forall₂_map_left_iff, List.forall₂_same]
  exact fun item hitem => ⟨fun rest hrest => hread item hitem rest hrest.stops, hstart item hitem⟩

end

/-! ## Arguments of types -/

/-- The tokens of `Option` with a name in angle brackets, perhaps with a comma behind it, in front of a
brace. -/
def optionTokens (trailing : Bool) (word : String) (rest : List Token) : List Token :=
  .ident "Option" :: .mark '<' false :: .ident word ::
    (withCommas trailing [[]] ++ .mark '>' false :: .opening .brace :: rest)

theorem yields_optionArgument (trailing : Bool) (hword : isKeyword word = false)
    (rest : List Token) :
    Yields (argument (Reader.readers (depth + 1))) (rounds + 2)
      (.ident word :: (withCommas trailing [[]] ++ .mark '>' false :: .opening .brace :: rest))
      (.type (.named word))
      (withCommas trailing [[]] ++ .mark '>' false :: .opening .brace :: rest) := by
  have hends : EndsType (withCommas trailing [[]] ++ .mark '>' false :: .opening .brace :: rest) := by
    cases trailing <;> exact ⟨⟨rfl, rfl⟩, rfl, rfl, rfl⟩
  refine .bind (yields_get _ _) ?_
  refine .of_neg rfl ?_
  refine .of_neg (by rw [startsWithLiteral_name hword]; rfl) ?_
  refine .bind (yields_named hword hends) ?_
  cases trailing <;> rfl

theorem yields_optionArguments (trailing : Bool) (hword : isKeyword word = false)
    (rest : List Token) :
    Yields (angledArguments (Reader.readers (depth + 1))) (rounds + 2)
      (.ident word :: (withCommas trailing [[]] ++ .mark '>' false :: .opening .brace :: rest))
      [.type (.named word)] (.opening .brace :: rest) := by
  refine .step [Argument.type (.named word)] (.mark '>' false :: .opening .brace :: rest) ?_ rfl
  refine .bind (yields_limit _ _) ?_
  refine .bind (yields_peek rfl _) ?_
  refine .of_neg rfl ?_
  refine .bind (yields_optionArgument trailing hword rest) ?_
  cases trailing with
  | false => exact .bind (yields_peek rfl _) (.of_pos rfl (yields_pure _ _ _))
  | true =>
    refine .bind (yields_peek rfl _) (.of_neg rfl ?_)
    refine .step () (.mark '>' false :: .opening .brace :: rest) rfl ?_
    refine .step [] (.mark '>' false :: .opening .brace :: rest) ?_ (yields_pure _ _ _)
    exact .bind (yields_peek rfl _) (.of_pos rfl (yields_pure _ _ _))

theorem yields_optionSegment (trailing : Bool) (hword : isKeyword word = false)
    (rest : List Token) :
    Yields (segment (Reader.readers (depth + 1)) true) (rounds + 2) (optionTokens trailing word rest)
      (.mk "Option" (.angled [.type (.named word)])) (.opening .brace :: rest) := by
  refine .bind (yields_peek rfl _) ?_
  refine .of_neg rfl ?_
  refine .step "Option" (.mark '<' false :: .ident word :: _) rfl ?_
  refine .bind (yields_peek rfl _) ?_
  refine .of_pos rfl ?_
  refine .step () (.mark '<' false :: .ident word :: _) rfl ?_
  refine .step () (.ident word :: _) rfl ?_
  exact .bind (yields_optionArguments trailing hword rest) rfl

theorem yields_optionRoute (trailing : Bool) (hword : isKeyword word = false) (rest : List Token) :
    Yields (route (Reader.readers (depth + 1)) true) (rounds + 2) (optionTokens trailing word rest)
      (.plain false [.mk "Option" (.angled [.type (.named word)])]) (.opening .brace :: rest) := by
  have hmany : Yields (many (nextSegment? (Reader.readers (depth + 1)) true)) (rounds + 2)
      (.opening .brace :: rest) [] (.opening .brace :: rest) :=
    .bind (yields_limit _ _) (.bind (yields_no_segment ⟨rfl, rfl⟩) rfl)
  refine .bind (yields_no_sign rfl) ?_
  refine .of_neg rfl ?_
  refine .bind (yields_no_sign rfl) ?_
  exact .bind (.bind (yields_optionSegment trailing hword rest) (.bind hmany rfl)) rfl

theorem yields_optionType (trailing : Bool) (hword : isKeyword word = false) (rest : List Token) :
    Yields (wholeType (Reader.readers (depth + 2))) (rounds + 2) (optionTokens trailing word rest)
      (.path (.plain false [.mk "Option" (.angled [.type (.named word)])]))
      (.opening .brace :: rest) := by
  show Yields (typeStep (Reader.readers (depth + 1)) true) _ _ _ _
  refine .bind (yields_get _ _) ?_
  refine .step none (optionTokens trailing word rest) rfl ?_
  refine .bind (yields_get _ _) ?_
  refine .of_neg rfl ?_
  refine .of_neg rfl ?_
  refine .of_neg rfl ?_
  refine .of_neg rfl ?_
  refine .of_pos rfl ?_
  refine .bind (yields_optionRoute trailing hword rest) ?_
  refine .bind (yields_get _ _) ?_
  refine .of_neg rfl ?_
  exact .of_neg rfl rfl

/-! ## Arrays -/

theorem listTokens_eq_map (list : List Expr) : Expr.listTokens list = list.map Expr.tokens := by
  induction list with
  | nil => rfl
  | cons first list ih => rw [Expr.listTokens, ih, List.map_cons]

/-- What is read as an element of a list in brackets. -/
def ReadsElement (readers : Readers) (rounds : Nat) (part : List Token) (e : Expr) : Prop :=
  (∀ rest, Stops rest → Yields (wholeExpr readers) rounds (part ++ rest) e rest) ∧
    ∀ rest, isEnd (part ++ rest) = false

theorem yields_bracketExpr_comma {part more : List Token} {first : Expr} {list : List Expr}
    (hpart : ReadsElement readers rounds part first)
    (hmore : Yields (commaList .bracket (wholeExpr readers)) rounds more list rest) :
    Yields (bracketExpr readers) rounds (.opening .bracket :: (part ++ .mark ',' false :: more))
      (.array (first :: list)) rest := by
  obtain ⟨hread, hstart⟩ := hpart
  refine .step () (part ++ .mark ',' false :: more) rfl ?_
  refine .bind (yields_peek (hstart _) rounds) ?_
  refine .of_neg rfl ?_
  refine .bind (hread _ (.comma _)) ?_
  refine .bind (yields_no_sign rfl) ?_
  refine .of_neg rfl ?_
  refine .bind (yields_peek rfl rounds) ?_
  refine .of_neg rfl ?_
  refine .step true more rfl ?_
  refine .of_pos rfl ?_
  exact .bind hmore rfl

theorem yields_bracketExpr_single {part : List Token} {only : Expr}
    (hpart : ReadsElement readers rounds part only) (rest : List Token) :
    Yields (bracketExpr readers) rounds (.opening .bracket :: (part ++ .closing .bracket :: rest))
      (.array [only]) rest := by
  obtain ⟨hread, hstart⟩ := hpart
  refine .step () (part ++ .closing .bracket :: rest) rfl ?_
  refine .bind (yields_peek (hstart _) rounds) ?_
  refine .of_neg rfl ?_
  refine .bind (hread _ (.closing _ rest)) ?_
  refine .bind (yields_no_sign rfl) ?_
  refine .of_neg rfl ?_
  refine .bind (yields_peek rfl rounds) ?_
  exact .of_pos rfl (.bind (yields_closing _ _ _) rfl)

theorem yields_bracketExpr {trailing : Bool} {parts : List (List Token)} {list : List Expr}
    (hparts : List.Forall₂ (ReadsElement readers rounds) parts list)
    (hrounds : parts.length < rounds) (rest : List Token) :
    Yields (bracketExpr readers) rounds
      (.opening .bracket :: (withCommas trailing parts ++ .closing .bracket :: rest))
      (.array list) rest := by
  cases hparts with
  | nil =>
    refine .step () (.closing .bracket :: rest) rfl ?_
    exact .bind (yields_peek rfl _) (.of_pos rfl (.bind (yields_closing _ _ _) rfl))
  | @cons part first parts list hpart hparts =>
    have hmore : Yields (commaList .bracket (wholeExpr readers)) rounds
        (withCommas trailing parts ++ .closing .bracket :: rest) list rest := by
      refine .bind (yields_limit _ _) (yields_commaParts ?_ (Nat.lt_of_succ_lt hrounds) rest)
      exact hparts.imp fun part e h => ⟨fun rest hrest => h.1 rest hrest.stops, h.2⟩
    cases hparts with
    | nil =>
      cases trailing with
      | true =>
        rw [withCommas, if_pos rfl, List.append_assoc]
        exact yields_bracketExpr_comma hpart hmore
      | false =>
        rw [withCommas, if_neg Bool.false_ne_true, List.append_nil]
        exact yields_bracketExpr_single hpart rest
    | cons =>
      rw [withCommas, List.append_assoc, List.append_assoc]
      exact yields_bracketExpr_comma hpart hmore

theorem yields_brackets {trailing : Bool} {parts : List (List Token)} {list : List Expr}
    (hparts : List.Forall₂ (ReadsElement readers rounds) parts list)
    (hrounds : parts.length < rounds) (rest : List Token) :
    Yields (atom readers braces) rounds (Token.group .bracket (withCommas trailing parts) ++ rest)
      (.array list) rest := by
  have htokens : Token.group .bracket (withCommas trailing parts) ++ rest =
      .opening .bracket :: (withCommas trailing parts ++ .closing .bracket :: rest) := by
    simp [Token.group]
  rw [htokens]
  refine .bind (yields_get _ _) ?_
  refine .of_neg rfl ?_
  refine .of_neg rfl ?_
  refine .of_neg rfl ?_
  refine .of_neg rfl ?_
  refine .of_neg rfl ?_
  refine .of_neg rfl ?_
  exact .of_pos rfl (yields_bracketExpr hparts hrounds rest)

theorem yields_array {list : List Expr}
    (hread : ∀ e ∈ list, ∀ rest, Stops rest → Yields (wholeExpr readers) rounds (e.tokens ++ rest) e
      rest)
    (hstart : ∀ e ∈ list, ∀ rest, isEnd (e.tokens ++ rest) = false)
    (hrounds : list.length < rounds) (rest : List Token) :
    Yields (atom readers braces) rounds ((Expr.array list).tokens ++ rest) (.array list) rest := by
  rw [Expr.tokens, listTokens_eq_map, ← withCommas_false]
  refine yields_brackets ?_ (by rwa [List.length_map]) rest
  rw [List.forall₂_map_left_iff, List.forall₂_same]
  exact fun e he => ⟨hread e he, hstart e he⟩

theorem yields_reference (hraw : startsWithWord "raw" tokens = false)
    (hmutable : startsWithWord "mut" tokens = false)
    (h : Yields (unary (Reader.readers depth) braces) (rounds + 1) tokens value rest) :
    Yields (unary (Reader.readers (depth + 1)) braces) (rounds + 1) (.mark '&' false :: tokens)
      (.reference false value) rest := by
  have hreference : Yields (reference (Reader.readers (depth + 1)) braces) (rounds + 1) tokens
      (.reference false value) rest := by
    refine .bind (yields_get _ _) ?_
    rw [hraw]
    refine .bind (yields_no_word hmutable) ?_
    exact .bind h rfl
  refine .bind (yields_no_outerAttributes rfl) ?_
  refine .bind (yields_get _ _) ?_
  refine .step true tokens rfl ?_
  exact .of_pos rfl (.bind hreference rfl)

end WireErrors.Source.Reader
