import WireErrors.Proofs.Source.Grammar.Yields

/-!
# Reading names and paths

Readers compare the words that they meet with keywords, so that a name that is no keyword is read as
a name wherever one can stand. A path of two names is read as the type, pattern or expression that it
is, if what follows does not make it longer (`EndsPath`).
-/

namespace WireErrors.Source.Reader

variable {readers : Readers} {inType braces : Bool} {word first second : String} {rounds : Nat}
  {tokens rest : List Token}

/-! ## Names -/

theorem not_mem_of_not_keyword {words : List String} (hword : isKeyword word = false)
    (hwords : ∀ w ∈ words, isKeyword w = true) : word ∉ words := by
  intro hmem
  rw [hwords word hmem] at hword
  cases hword

theorem beq_of_not_keyword {keyword : String} (hword : isKeyword word = false)
    (hkeyword : isKeyword keyword = true) : (word == keyword) = false := by
  refine beq_eq_false_iff_ne.mpr fun hequal => ?_
  rw [hequal, hkeyword] at hword
  cases hword

theorem startsWithWord_name {keyword : String} (hword : isKeyword word = false)
    (hkeyword : isKeyword keyword = true) : startsWithWord keyword (.ident word :: rest) = false :=
  beq_of_not_keyword hword hkeyword

theorem startsWithAnyWord_name {words : List String} (hword : isKeyword word = false)
    (hwords : ∀ w ∈ words, isKeyword w = true) :
    startsWithAnyWord words (.ident word :: rest) = false := by
  refine List.any_eq_false.mpr fun w hw => ?_
  rw [startsWithWord_name hword (hwords w hw)]
  exact Bool.false_ne_true

theorem startsWithName_name (hword : isKeyword word = false) :
    startsWithName (.ident word :: rest) = true := by
  rw [startsWithName, hword]
  rfl

theorem startsWithLiteral_name (hword : isKeyword word = false) :
    startsWithLiteral (.ident word :: rest) = false := by
  show (if word == "true" || word == "false" then some (word, _) else none).isSome = false
  rw [beq_of_not_keyword hword (by decide), beq_of_not_keyword hword (by decide)]
  rfl

theorem yields_no_word {text : String} {tokens : List Token}
    (h : startsWithWord text tokens = false) : Yields (word? text) rounds tokens false tokens := by
  refine .bind (yields_get rounds tokens) ?_
  cases tokens with
  | nil => rfl
  | cons t tokens =>
    cases t with
    | ident name => exact .of_neg h rfl
    | _ => rfl

theorem yields_name (hword : isKeyword word = false) :
    Yields name rounds (.ident word :: rest) word rest :=
  .bind (yields_get rounds _) (.of_neg hword (.bind (yields_set rounds _ rest) rfl))

theorem yields_nameOr {words : List String} (hword : isKeyword word = false)
    (hwords : ∀ w ∈ words, isKeyword w = true) :
    Yields (nameOr words) rounds (.ident word :: rest) word rest := by
  have hnot : words.contains word = false := by
    rw [List.contains_eq_mem, decide_eq_false (not_mem_of_not_keyword hword hwords)]
  exact .bind (yields_get rounds _) (.of_neg hnot (yields_name hword))

/-! ## Segments -/

/-- Names that paths consist of. -/
def Nameable (word : String) : Prop := word = "Self" ∨ isKeyword word = false

theorem yields_segment (hword : Nameable word) (hrest : startsAngled inType rest = false) :
    Yields (segment readers inType) rounds (.ident word :: rest) (.plain word) rest := by
  obtain rfl | hword := hword
  · refine .bind (yields_peek rfl rounds) ?_
    refine .step "Self" rest rfl ?_
    exact .bind (yields_peek hrest rounds) rfl
  · refine .bind (yields_peek (startsWithAnyWord_name hword (by decide)) rounds) ?_
    refine .bind (yields_nameOr hword (by decide)) ?_
    exact .bind (yields_peek hrest rounds) rfl

/-- What does not make a path in front of it longer. -/
structure EndsPath (inType : Bool) (rest : List Token) : Prop where
  angled : startsAngled inType rest = false
  further : afterSign? "::".toList rest = none

theorem yields_no_segment (hrest : EndsPath inType rest) :
    Yields (nextSegment? readers inType) rounds rest none rest := by
  refine .bind (yields_get rounds rest) ?_
  rw [hrest.further]
  rfl

/-! ## Routes -/

/-- The tokens of a path of two names. -/
def pair (first second : String) : List Token :=
  [.ident first, .mark ':' true, .mark ':' false, .ident second]

theorem yields_route_single (hword : Nameable word) (hrest : EndsPath inType rest) :
    Yields (route readers inType) (rounds + 1) (.ident word :: rest) (.names [word]) rest := by
  have hmany : Yields (many (nextSegment? readers inType)) (rounds + 1) rest [] rest :=
    .bind (yields_limit _ _) (.bind (yields_no_segment hrest) rfl)
  have hsegments : Yields (segments readers inType) (rounds + 1) (.ident word :: rest)
      [.plain word] rest := .bind (yields_segment hword hrest.angled) (.bind hmany rfl)
  refine .step false (.ident word :: rest) rfl ?_
  refine .step false (.ident word :: rest) rfl ?_
  exact .bind hsegments rfl

theorem yields_route (hfirst : Nameable first) (hsecond : Nameable second)
    (hrest : EndsPath inType rest) :
    Yields (route readers inType) (rounds + 2) (pair first second ++ rest) (.names [first, second])
      rest := by
  have hangled : startsAngled inType
      (.mark ':' true :: .mark ':' false :: .ident second :: rest) = false := by
    cases inType <;> rfl
  have hnext : Yields (nextSegment? readers inType) (rounds + 2)
      (.mark ':' true :: .mark ':' false :: .ident second :: rest) (some (.plain second)) rest := by
    refine .bind (yields_get _ _) ?_
    refine .bind (yields_set _ _ (.ident second :: rest)) ?_
    exact (yields_segment hsecond hrest.angled).map some
  have hmany : Yields (many (nextSegment? readers inType)) (rounds + 2)
      (.mark ':' true :: .mark ':' false :: .ident second :: rest) [.plain second] rest :=
    .bind (yields_limit _ _) (.bind hnext (.bind (.bind (yields_no_segment hrest) rfl) rfl))
  have hsegments : Yields (segments readers inType) (rounds + 2) (pair first second ++ rest)
      [.plain first, .plain second] rest :=
    .bind (yields_segment hfirst hangled) (.bind hmany rfl)
  refine .step false (pair first second ++ rest) rfl ?_
  refine .step false (pair first second ++ rest) rfl ?_
  exact .bind hsegments rfl

/-! ## Types -/

/-- What does not make a type in front of it longer. -/
structure EndsType (rest : List Token) : Prop extends EndsPath true rest where
  mark : startsWith "!" rest = false
  plus : startsWith "+" rest = false
  hash : startsWith "#" rest = false

theorem yields_named {depth : Nat} (hword : isKeyword word = false) (hrest : EndsType rest) :
    Yields (wholeType (Reader.readers (depth + 1))) (rounds + 1) (.ident word :: rest) (.named word)
      rest := by
  have hpath : Yields (pathType (Reader.readers depth) none true) (rounds + 1) (.ident word :: rest)
      (.named word) rest := by
    refine .bind (yields_route_single (.inr hword) hrest.toEndsPath) ?_
    refine .bind (yields_get _ _) ?_
    refine .of_neg (by rw [hrest.mark]; rfl) ?_
    exact .of_neg (by rw [hrest.plus]; rfl) rfl
  have hbuiltin : startsBuiltin (.ident word :: rest) = false := by
    show (_ && startsWith "#" rest) = false
    rw [hrest.hash, Bool.and_false]
  have hbinder : Yields (binder (Reader.readers depth)) (rounds + 1) (.ident word :: rest) none
      (.ident word :: rest) :=
    .bind (yields_no_word (startsWithWord_name hword (by decide))) rfl
  show Yields (typeStep (Reader.readers depth) true) _ _ _ _
  refine .bind (yields_get _ _) ?_
  refine .bind hbinder ?_
  refine .bind (yields_get _ _) ?_
  refine .of_neg rfl ?_
  refine .of_neg rfl ?_
  refine .of_neg (startsWithAnyWord_name hword (by decide)) ?_
  refine .of_neg hbuiltin ?_
  exact .of_pos (by rw [startsWithSegment, startsWithName_name hword]; rfl) hpath

/-! ## Patterns -/

/-- What does not make the path of a pattern in front of it longer. -/
structure EndsPathPattern (rest : List Token) : Prop extends EndsPath false rest where
  mark : startsWith "!" rest = false
  brace : startsWithOpening .brace rest = false
  paren : startsWithOpening .paren rest = false
  range : startsWith ".." rest = false

theorem yields_pathPattern (hfirst : Nameable first) (hsecond : Nameable second)
    (hrest : EndsPathPattern rest) :
    Yields (pathPattern readers) (rounds + 2) (pair first second ++ rest)
      (.path (.names [first, second])) rest := by
  refine .bind (yields_route hfirst hsecond hrest.toEndsPath) ?_
  refine .bind (yields_get _ _) ?_
  refine .of_neg (by rw [hrest.mark]; rfl) ?_
  refine .of_neg hrest.brace ?_
  refine .of_neg hrest.paren ?_
  exact .of_neg hrest.range rfl

theorem yields_tuplePattern {fields : List Pattern} {inside : List Token} (hfirst : Nameable first)
    (hsecond : Nameable second)
    (hfields : Yields (commaList .paren (alternatives readers)) (rounds + 2) inside fields rest) :
    Yields (pathPattern readers) (rounds + 2) (pair first second ++ .opening .paren :: inside)
      (.tuple (.names [first, second]) fields) rest := by
  refine .bind (yields_route hfirst hsecond ⟨rfl, rfl⟩) ?_
  refine .bind (yields_get _ _) ?_
  refine .of_neg rfl ?_
  refine .of_neg rfl ?_
  refine .of_pos rfl ?_
  refine .step () inside rfl ?_
  exact .bind hfields rfl

theorem yields_selfPattern {depth : Nat} {pattern : Pattern}
    (h : Yields (pathPattern (Reader.readers depth)) rounds (pair "Self" second ++ tokens) pattern
      rest) :
    Yields (Reader.readers (depth + 1)).pattern rounds (pair "Self" second ++ tokens) pattern
      rest := by
  show Yields (patternStep (Reader.readers depth)) _ _ _ _
  exact .bind (yields_get _ _) (.of_pos rfl h)

/-! ## Expressions -/

/-- What does not make the path of an expression in front of it longer. -/
structure EndsPathExpr (rest : List Token) : Prop extends EndsPath false rest where
  mark : startsWith "!" rest = false
  brace : startsWithOpening .brace rest = false

theorem yields_pathExpr (hfirst : Nameable first) (hsecond : Nameable second)
    (hrest : EndsPathExpr rest) :
    Yields (pathExpr readers braces) (rounds + 2) (pair first second ++ rest)
      (.names [first, second]) rest := by
  refine .bind (yields_route hfirst hsecond hrest.toEndsPath) ?_
  refine .bind (yields_get _ _) ?_
  refine .of_neg (by rw [hrest.mark]; rfl) ?_
  exact .of_neg (by rw [hrest.brace, Bool.and_false]) rfl

theorem yields_atom (hfirst : Nameable first) (hsecond : Nameable second)
    (hrest : EndsPathExpr rest) :
    Yields (atom readers braces) (rounds + 2) (pair first second ++ rest) (.names [first, second])
      rest := by
  have hpath : Yields (pathExpr readers braces) (rounds + 2) (pair first second ++ rest)
      (.names [first, second]) rest := yields_pathExpr hfirst hsecond hrest
  refine .bind (yields_get _ _) ?_
  obtain rfl | hword := hfirst
  · refine .of_neg rfl ?_
    refine .of_neg rfl ?_
    refine .of_neg rfl ?_
    refine .of_neg rfl ?_
    exact .of_pos rfl hpath
  · have hno {keyword : String} (hkeyword : isKeyword keyword = true) :
        startsWithWord keyword (pair first second ++ rest) = false :=
      startsWithWord_name hword hkeyword
    have hclosure : startsClosure (pair first second ++ rest) = false := by
      have hwords : startsWithAnyWord ["move", "static"] (pair first second ++ rest) = false :=
        startsWithAnyWord_name hword (by decide)
      simp only [startsClosure, startsBinder, hwords, hno (by decide : isKeyword "for" = true),
        hno (by decide : isKeyword "const" = true), hno (by decide : isKeyword "async" = true),
        Bool.false_and, Bool.or_false]
      rfl
    have hsegment : startsWithSegment (pair first second ++ rest) = true := by
      rw [startsWithSegment, show startsWithName (pair first second ++ rest) = true from
        startsWithName_name hword, Bool.true_or]
    refine .of_neg (startsWithLiteral_name hword) ?_
    refine .of_neg (by rw [hno (by decide : isKeyword "async" = true), Bool.false_and]) ?_
    refine .of_neg hclosure ?_
    refine .of_neg (Bool.and_false _) ?_
    exact .of_pos (by rw [hsegment]; rfl) hpath

end WireErrors.Source.Reader
