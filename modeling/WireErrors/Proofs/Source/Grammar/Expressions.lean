import WireErrors.Proofs.Source.Grammar.Paths

/-!
# Reading expressions and statements

An expression that starts with a word is read as its first part and then through the suffixes behind
it, up to something that no expression goes on with (`Stops`). Statements and arms are read through
their expressions, and blocks through their statements.
-/

namespace WireErrors.Source.Reader

variable {readers : Readers} {braces : Bool} {word : String} {depth rounds : Nat}
  {tokens rest : List Token} {value : Expr}

/-! ## What is not there -/

theorem yields_no_sign {text : String} (h : afterSign? text.toList tokens = none) :
    Yields (sign? text) rounds tokens false tokens := by
  refine .bind (yields_get _ _) ?_
  rw [h]
  rfl

theorem yields_no_outerAttributes (h : afterSign? "#".toList tokens = none) :
    Yields (outerAttributes readers) (rounds + 1) tokens [] tokens := by
  refine .bind (yields_limit _ _) ?_
  exact .bind (.bind (yields_no_sign h) rfl) rfl

/-- Whether an attribute of what is around the place stands here. -/
def startsInner : List Token → Bool
  | .mark '#' _ :: .mark '!' _ :: _ => true
  | _ => false

theorem yields_no_innerAttributes (h : startsInner tokens = false) :
    Yields (innerAttributes readers) (rounds + 1) tokens [] tokens := by
  refine .bind (yields_limit _ _) ?_
  refine .step none tokens ?_ rfl
  refine .bind (yields_get _ _) ?_
  split
  next => cases h
  next => rfl

/-! ## The end of an expression -/

/-- Tokens that no expression goes on with. -/
inductive Stops : List Token → Prop
  | comma (rest : List Token) : Stops (.mark ',' false :: rest)
  | semicolon (rest : List Token) : Stops (.mark ';' false :: rest)
  | closing (d : Delimiter) (rest : List Token) : Stops (.closing d :: rest)

theorem Stops.endsPathExpr (hrest : Stops rest) : EndsPathExpr rest := by
  cases hrest <;> exact ⟨⟨rfl, rfl⟩, rfl, rfl⟩

theorem Yields.of_either {c : Bool} {α : Type} {reader other : Reader α} {a : α}
    (h : Yields reader rounds tokens a rest) (hother : Yields other rounds tokens a rest) :
    Yields (if c then reader else other) rounds tokens a rest := by
  cases c
  · exact hother
  · exact h

theorem yields_no_suffix (hrest : Stops rest) (value : Expr) :
    Yields (suffix? readers value) rounds rest none rest := by
  cases hrest <;> exact .of_either rfl rfl

theorem yields_no_link (hrest : Stops rest) (value : Expr) (level : Precedence) :
    Yields (linked? readers braces level value) rounds rest none rest := by
  cases hrest <;> exact .of_either rfl rfl

theorem yields_further (hrest : Stops rest) (value : Expr) (level : Precedence) :
    Yields (further readers braces level value) (rounds + 1) rest value rest :=
  .bind (yields_limit _ _) (.bind (yields_no_link hrest value level) rfl)

theorem yields_extend (hrest : Stops rest) (value : Expr) :
    Yields (extend (suffix? readers) value) (rounds + 1) rest value rest :=
  .bind (yields_limit _ _) (.bind (yields_no_suffix hrest value) rfl)

/-! ## Expressions that start with a word -/

theorem withAttributes_nil (value : Expr) : value.withAttributes [] = value := by
  fun_induction Expr.withAttributes [] value <;> simp_all

/-- An operand without operators is read through its first part. -/
theorem yields_operand {first : Expr} {middle : List Token}
    (hhash : afterSign? "#".toList tokens = none) (hreference : afterSign? "&".toList tokens = none)
    (hoperator : unaryOperators.find? (fun operator => startsWith operator.text tokens) = none)
    (hatom : Yields (atom readers braces) (rounds + 1) tokens first middle)
    (hextend : Yields (extend (suffix? readers) first) (rounds + 1) middle value rest) :
    Yields (unary readers braces) (rounds + 1) tokens value rest := by
  refine .bind (yields_no_outerAttributes hhash) ?_
  refine .bind (yields_get _ _) ?_
  refine .bind (yields_no_sign hreference) ?_
  refine .of_neg rfl ?_
  rw [hoperator]
  refine .bind hatom ?_
  refine .bind hextend ?_
  exact .of_neg rfl rfl

theorem yields_whole
    (h : Yields (unary (Reader.readers depth) braces) (rounds + 1) tokens value rest)
    (hrest : Stops rest) :
    Yields ((Reader.readers (depth + 2)).expr (.whole braces)) (rounds + 1) tokens value rest := by
  show Yields (exprStep (Reader.readers (depth + 1)) (.whole braces)) _ _ _ _
  exact .bind h (yields_further hrest value .jump)

theorem yields_statementExpr (hhash : afterSign? "#".toList tokens = none)
    (hblock : Yields (keywordBlock? (Reader.readers (depth + 1))) (rounds + 1) tokens none tokens)
    (h : Yields (unary (Reader.readers depth) true) (rounds + 1) tokens value rest)
    (hvalue : value.standsAlone = false) (hrest : Stops rest) :
    Yields ((Reader.readers (depth + 2)).expr .statement) (rounds + 1) tokens value rest := by
  show Yields (statementExpr (Reader.readers (depth + 1))) _ _ _ _
  refine .bind (yields_no_outerAttributes hhash) ?_
  refine .bind hblock ?_
  refine .bind h ?_
  refine .of_pos (by rw [hvalue]; rfl) ?_
  rw [withAttributes_nil]
  exact yields_further hrest value .jump

theorem yields_call {inside : List Token} {list : List Expr} (function : Expr)
    (hlist : Yields (commaList .paren (wholeExpr readers)) (rounds + 2) inside list rest)
    (hrest : Stops rest) :
    Yields (extend (suffix? readers) function) (rounds + 2) (.opening .paren :: inside)
      (.call function list) rest := by
  have harguments : Yields (arguments readers) (rounds + 2) (.opening .paren :: inside) list rest :=
    .step () inside rfl hlist
  refine .bind (yields_limit _ _) ?_
  refine .step (some (.call function list)) rest ?_ ?_
  · refine .bind (yields_get _ _) ?_
    exact .of_pos rfl (.bind harguments rfl)
  · exact .bind (yields_no_suffix hrest _) rfl

/-! ## Statements -/

theorem yields_attempt {α : Type} {reader : Reader α} {a : α}
    (h : Yields reader rounds tokens a rest) :
    Yields (attempt reader) rounds tokens (some a) rest := by
  unfold Yields attempt at *
  rw [h]

/-- A path into the type itself is no use of a macro. -/
theorem yields_invocationKind {second : String} (hsecond : isKeyword second = false)
    (hmark : afterSign? "!".toList tokens = none) (hrest : afterSign? "::".toList tokens = none) :
    Yields invocationKind (rounds + 2) (pair "Self" second ++ tokens) .expr
      (pair "Self" second ++ tokens) := by
  have hnone : Yields plainSegment? (rounds + 2) tokens none tokens :=
    .bind (yields_no_sign hrest) (.of_neg rfl rfl)
  have hsegment : Yields plainSegment? (rounds + 2)
      (.mark ':' true :: .mark ':' false :: .ident second :: tokens) (some second) tokens := by
    refine .step true (.ident second :: tokens) rfl ?_
    refine .of_pos rfl ?_
    refine .bind (yields_peek (by rw [startsWithSegment, startsWithName_name hsecond]) _) ?_
    exact .of_pos rfl ((yields_nameOr hsecond (by decide)).map some)
  have hpath : Yields plainPath (rounds + 2) (pair "Self" second ++ tokens)
      ⟨false, ["Self", second]⟩ tokens := by
    refine .bind (yields_no_sign rfl) ?_
    refine .step "Self" (.mark ':' true :: _) rfl ?_
    refine .bind (.bind (yields_limit _ _) ?_) (yields_pure _ _ _)
    exact .bind hsegment (.bind (.bind hnone (yields_pure _ _ _)) (yields_pure _ _ _))
  refine .bind (yields_get _ _) ?_
  refine .bind (yields_attempt hpath) ?_
  refine .bind (yields_no_sign hmark) ?_
  refine .of_neg rfl ?_
  exact .bind (yields_set _ _ _) (yields_pure _ _ _)

theorem yields_statement {semicolon : Bool} {middle : List Token}
    (hhash : afterSign? "#".toList tokens = none)
    (hkind : Yields invocationKind (rounds + 1) tokens .expr tokens)
    (hlet : startsWithWord "let" tokens = false) (hitem : startsItem tokens = false)
    (h : Yields (readers.expr .statement) (rounds + 1) tokens value middle)
    (hsemicolon : Yields (sign? ";") (rounds + 1) middle semicolon rest)
    (hvalue : statement.ofExpr value semicolon = .expr value semicolon) :
    Yields (statement readers) (rounds + 1) tokens (.expr value semicolon) rest := by
  refine .bind (yields_get _ _) ?_
  refine .bind (yields_no_outerAttributes hhash) ?_
  refine .bind hkind ?_
  refine .bind (yields_no_word hlet) ?_
  refine .of_neg rfl ?_
  refine .bind (yields_peek hitem _) ?_
  refine .of_neg rfl ?_
  refine .bind h ?_
  refine .bind hsemicolon ?_
  rw [withAttributes_nil, hvalue]
  exact yields_pure _ _ _

theorem yields_statementRounds_last {steps : Nat} {last : Statement}
    (hsemicolon : afterSign? ";".toList tokens = none) (hend : isEnd tokens = false)
    (h : Yields (statement readers) rounds tokens last (.closing .brace :: rest)) :
    Yields (statementRounds readers (steps + 1)) rounds tokens [last] rest := by
  refine .bind (yields_no_sign hsemicolon) ?_
  refine .of_neg rfl ?_
  refine .bind (yields_peek hend rounds) ?_
  refine .of_neg rfl ?_
  refine .bind h ?_
  refine .bind (yields_peek rfl rounds) ?_
  refine .of_pos rfl ?_
  exact .bind (yields_closing _ _ _) rfl

theorem yields_statementRounds_cons {steps : Nat} {statements : List Statement}
    {middle : List Token} (hsemicolon : afterSign? ";".toList tokens = none)
    (hend : isEnd tokens = false)
    (h : Yields (statement readers) rounds tokens (.expr value false) middle)
    (hmiddle : isEnd middle = false) (hvalue : value.needsSemicolon = false)
    (hrest : Yields (statementRounds readers steps) rounds middle statements rest) :
    Yields (statementRounds readers (steps + 1)) rounds tokens (.expr value false :: statements)
      rest := by
  refine .bind (yields_no_sign hsemicolon) ?_
  refine .of_neg rfl ?_
  refine .bind (yields_peek hend rounds) ?_
  refine .of_neg rfl ?_
  refine .bind h ?_
  refine .bind (yields_peek hmiddle rounds) ?_
  refine .of_neg rfl ?_
  dsimp only
  rw [if_neg (by rw [hvalue]; exact Bool.false_ne_true)]
  exact .bind hrest rfl

/-! ## Jumps -/

theorem yields_giveBack (hstart : startsExpr tokens = true)
    (hblock : Yields (keywordBlock? (Reader.readers (depth + 1))) (rounds + 1)
      (.ident "return" :: tokens) none (.ident "return" :: tokens))
    (hvalue : Yields (wholeExpr (Reader.readers depth)) (rounds + 1) tokens value
      (.mark ';' false :: rest)) :
    Yields (statement (Reader.readers (depth + 2))) (rounds + 1) (.ident "return" :: tokens)
      (.expr (.giveBack (some value)) true) rest := by
  have hatom : Yields (atom (Reader.readers depth) true) (rounds + 1) (.ident "return" :: tokens)
      (.giveBack (some value)) (.mark ';' false :: rest) := by
    refine .bind (yields_get _ _) ?_
    refine .of_neg rfl ?_
    refine .of_neg rfl ?_
    refine .of_neg rfl ?_
    refine .of_neg rfl ?_
    refine .of_neg rfl ?_
    refine .of_neg rfl ?_
    refine .of_neg rfl ?_
    refine .bind (yields_no_word rfl) ?_
    refine .of_neg rfl ?_
    refine .bind (yields_no_word rfl) ?_
    refine .of_neg rfl ?_
    refine .step true tokens rfl ?_
    refine .of_pos rfl ?_
    refine .bind (.bind (yields_peek hstart _) (.of_pos rfl (hvalue.map some))) ?_
    exact yields_pure _ _ _
  have hunary := yields_operand rfl rfl rfl hatom (yields_extend (.semicolon rest) _)
  exact yields_statement rfl rfl rfl rfl
    (yields_statementExpr rfl hblock hunary rfl (.semicolon rest)) rfl rfl

/-! ## Blocks -/

/-- Tokens behind a block that it does not go on with. -/
structure EndsBlock (rest : List Token) : Prop where
  statement : endsStatement rest = true
  no_semicolon : afterSign? ";".toList rest = none
  no_else : startsWithWord "else" rest = false

theorem yields_blockStatement
    (hkind : Yields invocationKind (rounds + 1) (.ident word :: tokens) .expr
      (.ident word :: tokens))
    (hlet : startsWithWord "let" (.ident word :: tokens) = false)
    (hitem : startsItem (.ident word :: tokens) = false)
    (hblock : Yields (keywordBlock? (Reader.readers depth)) (rounds + 1) (.ident word :: tokens)
      (some value) rest)
    (hstands : value.standsAlone = true)
    (hvalue : statement.ofExpr value false = .expr value false) (hrest : EndsBlock rest) :
    Yields (statement (Reader.readers (depth + 1))) (rounds + 1) (.ident word :: tokens)
      (.expr value false) rest := by
  have hexpr : Yields ((Reader.readers (depth + 1)).expr .statement) (rounds + 1)
      (.ident word :: tokens) value rest := by
    show Yields (statementExpr (Reader.readers depth)) _ _ _ _
    refine .bind (yields_no_outerAttributes rfl) ?_
    refine .bind hblock ?_
    refine .bind (yields_pure _ _ _) ?_
    refine .of_neg (by rw [hstands]; rfl) ?_
    refine .bind (yields_peek hrest.statement _) ?_
    refine .of_pos rfl ?_
    rw [withAttributes_nil]
    exact yields_pure _ _ _
  exact yields_statement rfl hkind hlet hitem hexpr (yields_no_sign hrest.no_semicolon) hvalue

theorem yields_conditional {condition : Expr} {body : List Statement} (inside : List Token)
    (hcondition : Yields (subject (Reader.readers depth)) (rounds + 1) tokens condition
      (.opening .brace :: inside))
    (hbody : Yields (Reader.readers depth).statements (rounds + 1) inside body rest)
    (hrest : EndsBlock rest) :
    Yields (statement (Reader.readers (depth + 1))) (rounds + 1) (.ident "if" :: tokens)
      (.expr (.conditional condition body .none) false) rest := by
  have hotherwise : Yields (otherwiseRounds (Reader.readers depth) (rounds + 1)) (rounds + 1) rest
      .none rest := .bind (yields_no_word hrest.no_else) (.of_pos rfl rfl)
  have hconditional : Yields (conditional (Reader.readers depth)) (rounds + 1) tokens
      (.conditional condition body .none) rest := by
    refine .bind hcondition ?_
    refine .bind (.step () inside rfl hbody) ?_
    exact .bind (yields_limit _ _) (.bind hotherwise rfl)
  refine yields_blockStatement rfl rfl rfl ?_ rfl rfl hrest
  refine .bind (yields_get _ _) ?_
  refine .of_neg rfl ?_
  refine .step true tokens rfl ?_
  exact .of_pos rfl (.bind hconditional rfl)

/-! ## Choices -/

theorem listTokens_eq_flatMap (arms : List Arm) : Arm.listTokens arms = arms.flatMap Arm.tokens := by
  induction arms with
  | nil => rfl
  | cons arm arms ih => rw [Arm.listTokens, ih, List.flatMap_cons]

theorem tokens_select (subject : Expr) (arms : List Arm) (rest : List Token) :
    (Statement.expr (.select subject [] arms) false).tokens ++ rest = .ident "match" ::
      (subject.tokens ++ .opening .brace :: (arms.flatMap Arm.tokens ++ .closing .brace :: rest)) := by
  simp [Statement.tokens, Expr.tokens, signIf, Token.group, attributeTokens, listTokens_eq_flatMap]

theorem yields_choice {choice : Expr} {arms : List Arm} {inside : List Token}
    (hsubject : Yields (subject (Reader.readers depth)) (rounds + 1) tokens choice
      (.opening .brace :: inside))
    (hinner : startsInner inside = false)
    (harms : Yields (upTo .brace (arm (Reader.readers depth))) (rounds + 1) inside arms rest)
    (hrest : EndsBlock rest) :
    Yields (statement (Reader.readers (depth + 1))) (rounds + 1) (.ident "match" :: tokens)
      (.expr (.select choice [] arms) false) rest := by
  have hselect : Yields (select (Reader.readers depth)) (rounds + 1) tokens
      (.select choice [] arms) rest := by
    refine .bind hsubject ?_
    refine .step () inside rfl ?_
    refine .bind (yields_no_innerAttributes hinner) ?_
    exact .bind harms rfl
  refine yields_blockStatement rfl rfl rfl ?_ rfl rfl hrest
  refine .bind (yields_get _ _) ?_
  refine .of_neg rfl ?_
  refine .bind (yields_no_word rfl) ?_
  refine .of_neg rfl ?_
  refine .step true tokens rfl ?_
  exact .of_pos rfl (.bind hselect rfl)

theorem yields_select {choice : Expr} {arms : List Arm}
    (hsubject : Yields (subject (Reader.readers depth)) (rounds + 1) tokens choice
      (.opening .brace :: (arms.flatMap Arm.tokens ++ .closing .brace :: rest)))
    (harms : ∀ a ∈ arms, ∀ rest, Yields (arm (Reader.readers depth)) (rounds + 1)
      (a.tokens ++ rest) a rest)
    (hstart : ∀ a ∈ arms, ∀ rest, isEnd (a.tokens ++ rest) = false)
    (hinner : startsInner (arms.flatMap Arm.tokens ++ .closing .brace :: rest) = false)
    (hrounds : arms.length < rounds + 1) (hrest : EndsBlock rest) :
    Yields (statement (Reader.readers (depth + 1))) (rounds + 1) (.ident "match" :: tokens)
      (.expr (.select choice [] arms) false) rest :=
  yields_choice hsubject hinner (yields_upTo harms hstart hrounds rest) hrest

theorem tokens_plain (pattern : Pattern) (body : Expr) (rest : List Token) :
    (Arm.plain pattern body).tokens ++ rest = pattern.tokens ++
      .mark '=' true :: .mark '>' false :: (body.tokens ++ .mark ',' false :: rest) := by
  simp [Arm.tokens, attributeTokens, Token.sign, Token.sign.go]

theorem yields_alternatives {pattern : Pattern} (hbar : afterSign? "|".toList tokens = none)
    (hpattern : Yields readers.pattern (rounds + 1) tokens pattern
      (.mark '=' true :: .mark '>' false :: rest)) :
    Yields (alternatives readers) (rounds + 1) tokens pattern
      (.mark '=' true :: .mark '>' false :: rest) := by
  refine .bind (yields_no_sign hbar) ?_
  refine .bind hpattern ?_
  exact .step [] (.mark '=' true :: .mark '>' false :: rest) rfl (.of_neg rfl rfl)

/-- What stands behind the value of an arm, and what of it belongs to the arm: a comma, if there is no
brace at the end of the value. -/
inductive EndsArm (body : Expr) : List Token → List Token → Prop
  | comma (hstands : body.standsAlone = false) (rest : List Token) :
      EndsArm body (.mark ',' false :: rest) rest
  | block (hstands : body.standsAlone = true) {rest : List Token}
      (hcomma : afterSign? ",".toList rest = none) : EndsArm body rest rest

theorem yields_arm_value {pattern : Pattern} {body : Expr} {behind middle : List Token}
    (hhash : afterSign? "#".toList tokens = none)
    (hpattern : Yields (alternatives readers) (rounds + 1) tokens pattern
      (.mark '=' true :: .mark '>' false :: behind))
    (hbody : Yields (readers.expr .statement) (rounds + 1) behind body middle)
    (hend : EndsArm body middle rest) :
    Yields (arm readers) (rounds + 1) tokens (.plain pattern body) rest := by
  refine .bind (yields_no_outerAttributes hhash) ?_
  refine .bind hpattern ?_
  refine .step false (.mark '=' true :: .mark '>' false :: behind) rfl ?_
  refine .of_neg rfl ?_
  refine .bind (yields_pure none _ _) ?_
  refine .step () behind rfl ?_
  refine .bind hbody ?_
  refine .bind (yields_peek rfl _) ?_
  cases hend with
  | comma hstands =>
    refine .of_neg (by rw [hstands]; rfl) ?_
    exact .step () rest rfl (yields_pure _ _ _)
  | block hstands hcomma =>
    refine .of_pos (by rw [hstands]; rfl) ?_
    exact .bind (yields_no_sign hcomma).discard (yields_pure _ _ _)

theorem yields_arm {pattern : Pattern} {body : Expr}
    (hhash : ∀ rest, afterSign? "#".toList (pattern.tokens ++ rest) = none)
    (hbar : ∀ rest, afterSign? "|".toList (pattern.tokens ++ rest) = none)
    (hpattern : ∀ rest, Yields readers.pattern (rounds + 1)
      (pattern.tokens ++ .mark '=' true :: .mark '>' false :: rest) pattern
      (.mark '=' true :: .mark '>' false :: rest))
    (hbody : Yields (readers.expr .statement) (rounds + 1) (body.tokens ++ .mark ',' false :: rest)
      body (.mark ',' false :: rest))
    (hstands : body.standsAlone = false) :
    Yields (arm readers) (rounds + 1) ((Arm.plain pattern body).tokens ++ rest)
      (.plain pattern body) rest := by
  rw [tokens_plain]
  exact yields_arm_value (hhash _) (yields_alternatives (hbar _) (hpattern _)) hbody
    (.comma hstands rest)

end WireErrors.Source.Reader
