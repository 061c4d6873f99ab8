import WireErrors.Proofs.Source.Grammar.Expressions

/-!
# Reading members and items

A function is read through its signature (`ReadsSignature`) and its statements, and a block of members
through the type that it is for and its members.
-/

namespace WireErrors.Source.Reader

variable {readers : Readers} {depth rounds : Nat} {word : String} {tokens rest : List Token}

/-! ## Functions -/

/-- What stands in front of the body of a function is read as its signature. -/
def ReadsSignature (readers : Readers) (rounds : Nat) (tokens : List Token) (s : Signature)
    (rest : List Token) : Prop :=
  ∃ behind start, Yields (outerAttributes readers) rounds tokens s.attributes behind ∧
    Yields visibility rounds behind s.visibility start ∧
    startsWith "!" (afterOne start) = false ∧ startsWithWord "default" start = false ∧
    startsSignature start = true ∧
    Yields (signature readers s.attributes s.visibility false) rounds start s rest

/-- The tokens of statements up to the end of the block that they stand in. -/
def inBraces (statements : List Statement) (rest : List Token) : List Token :=
  Statement.listTokens statements ++ .closing .brace :: rest

theorem yields_member_function {front inside : List Token} {s : Signature} {body : List Statement}
    (hsignature : ReadsSignature readers (rounds + 1) (front ++ .opening .brace :: inside) s
      (.opening .brace :: inside))
    (hinner : startsInner inside = false)
    (hbody : Yields readers.statements (rounds + 1) inside body rest) :
    Yields (member readers) (rounds + 1) (front ++ .opening .brace :: inside)
      (.function { s with body := body }) rest := by
  obtain ⟨behind, start, houter, hvisibility, hmark, hdefault, hstarts, hread⟩ := hsignature
  refine .bind (yields_get _ _) ?_
  refine .bind houter ?_
  refine .bind hvisibility ?_
  refine .bind (yields_get _ _) ?_
  refine .of_neg hmark ?_
  refine .bind (yields_no_word hdefault) ?_
  refine .bind (yields_get _ _) ?_
  refine .of_pos hstarts ?_
  refine .bind hread ?_
  refine .bind (yields_no_sign rfl) ?_
  refine .of_neg rfl ?_
  refine .bind (.step () inside rfl ?_) (yields_pure _ _ _)
  refine .bind (yields_no_innerAttributes hinner) ?_
  refine .bind hbody ?_
  rw [List.append_nil]
  exact yields_pure _ _ _

theorem yields_function {f : Function} (hattributes : innerTokens f.attributes = [])
    (hsignature : ReadsSignature readers (rounds + 1)
      (f.toSignature.tokens ++ .opening .brace :: inBraces f.body rest) f.toSignature
      (.opening .brace :: inBraces f.body rest))
    (hinner : startsInner (inBraces f.body rest) = false)
    (hbody : Yields readers.statements (rounds + 1) (inBraces f.body rest) f.body rest) :
    Yields (member readers) (rounds + 1) (f.tokens ++ rest) (.function f) rest := by
  have htokens : f.tokens ++ rest =
      f.toSignature.tokens ++ .opening .brace :: inBraces f.body rest := by
    simp [Function.tokens, hattributes, Token.group, inBraces]
  rw [htokens]
  exact yields_member_function hsignature hinner hbody

/-! ## Implementations -/

/-- Tokens at the start of a type that nothing before a type could stand for. -/
structure StartsType (tokens : List Token) : Prop where
  no_parameters : startsParameters tokens = false
  no_constant : startsWithWord "const" tokens = false
  no_question : startsWith "?" tokens = false
  no_mark : afterSign? "!".toList tokens = none

theorem startsType_name (hword : isKeyword word = false) (rest : List Token) :
    StartsType (.ident word :: rest) :=
  ⟨rfl, startsWithWord_name hword (by decide), rfl, rfl⟩

theorem yields_inherited (h : startsWithWord "pub" tokens = false) :
    Yields visibility rounds tokens .inherited tokens :=
  .bind (yields_no_word h) (.of_pos rfl rfl)

theorem yields_item_implementation {item : Item}
    (h : Yields (implementation (Reader.readers depth) (.ident "impl" :: tokens) [] .inherited)
      (rounds + 1) (.ident "impl" :: tokens) item rest) :
    Yields (Reader.readers (depth + 1)).item (rounds + 1) (.ident "impl" :: tokens) item rest := by
  show Yields (itemStep (Reader.readers depth)) _ _ _ _
  refine .bind (yields_get _ _) ?_
  refine .bind (yields_no_outerAttributes rfl) ?_
  refine .bind (yields_inherited rfl) ?_
  exact h

theorem yields_implementation {members : List Member} {first type : TypeExpr} {behind inside : List Token}
    (isFor : Bool) (middle : List Token) (hstart : StartsType tokens)
    (hfirst : Yields (wholeType (Reader.readers depth)) (rounds + 1) tokens first behind)
    (hfor : Yields (word? "for") (rounds + 1) behind isFor middle)
    (htype : Yields (if isFor then wholeType (Reader.readers depth) else pure first) (rounds + 1)
      middle type (.opening .brace :: inside))
    (hpath : (isFor && !implementation.isPath first) = false)
    (hinner : startsInner inside = false)
    (hmembers : Yields (upTo .brace (member (Reader.readers depth))) (rounds + 1)
      inside members rest) :
    Yields (Reader.readers (depth + 1)).item (rounds + 1) (.ident "impl" :: tokens)
      (.implementation [] false false {} false (if isFor then some first else none) type members)
      rest := by
  obtain ⟨hparameters, hconstant, hquestion, hmark⟩ := hstart
  have hneither : (startsWithWord "const" tokens ||
      startsWith "?" tokens && startsWithWord "const" (afterOne tokens)) = false := by
    rw [hconstant, hquestion]
    rfl
  refine yields_item_implementation ?_
  refine .bind (yields_no_word rfl) ?_
  refine .bind (yields_no_word rfl) ?_
  refine .step () tokens rfl ?_
  refine .bind (yields_get _ _) ?_
  refine .of_neg hparameters ?_
  refine .bind (yields_pure _ _ _) ?_
  refine .bind (yields_get _ _) ?_
  refine .of_neg hneither ?_
  refine .bind (yields_get _ _) ?_
  refine .of_branches (.of_either (yields_pure _ _ _) (yields_no_sign hmark)) ?_
  refine .bind hfirst ?_
  refine .bind hfor ?_
  refine .of_neg (Bool.and_false _) ?_
  refine .of_branches htype ?_
  refine .bind (.bind (yields_no_word rfl) (.of_neg rfl (yields_pure _ _ _))) ?_
  refine .step () inside rfl ?_
  refine .bind (yields_no_innerAttributes hinner) ?_
  refine .bind hmembers ?_
  rw [hneither, hpath]
  exact yields_pure _ _ _

theorem yields_inherent {members : List Member} {inside : List Token} (hword : isKeyword word = false)
    (hinner : startsInner inside = false)
    (hmembers : Yields (upTo .brace (member (Reader.readers (depth + 1)))) (rounds + 1)
      inside members rest) :
    Yields (Reader.readers (depth + 2)).item (rounds + 1)
      (.ident "impl" :: .ident word :: .opening .brace :: inside)
      (.implementation [] false false {} false none (.named word) members) rest :=
  yields_implementation false _ (startsType_name hword _)
    (yields_named hword ⟨⟨rfl, rfl⟩, rfl, rfl, rfl⟩) (yields_no_word rfl) (yields_pure _ _ _) rfl
    hinner hmembers

theorem yields_interface {members : List Member} {interface : TypeExpr} {inside : List Token}
    (hword : isKeyword word = false) (hstart : StartsType tokens)
    (hpath : implementation.isPath interface = true)
    (hinterface : Yields (wholeType (Reader.readers (depth + 1))) (rounds + 1) tokens interface
      (.ident "for" :: .ident word :: .opening .brace :: inside))
    (hinner : startsInner inside = false)
    (hmembers : Yields (upTo .brace (member (Reader.readers (depth + 1)))) (rounds + 1)
      inside members rest) :
    Yields (Reader.readers (depth + 2)).item (rounds + 1) (.ident "impl" :: tokens)
      (.implementation [] false false {} false (some interface) (.named word) members) rest :=
  yields_implementation true (.ident word :: .opening .brace :: inside) hstart hinterface rfl
    (yields_named hword ⟨⟨rfl, rfl⟩, rfl, rfl, rfl⟩) (by rw [hpath]; rfl) hinner hmembers

/-! ## Constants -/

theorem withoutWord_name {keyword : String} (hword : isKeyword word = false)
    (hkeyword : isKeyword keyword = true) :
    withoutWord keyword (.ident word :: rest) = .ident word :: rest := by
  rw [withoutWord, startsWithWord_name hword hkeyword]
  rfl

theorem not_startsSignature_constant (hword : isKeyword word = false) :
    startsSignature (.ident "const" :: .ident word :: rest) = false := by
  have hconvention : withoutConvention (.ident word :: rest) = .ident word :: rest := by
    unfold withoutConvention
    split
    next hforeign =>
      rw [List.cons.injEq, Token.ident.injEq] at hforeign
      exact absurd (hforeign.1 ▸ hword) (by decide)
    next => exact withoutWord_name hword (by decide)
  show startsWithWord "fn" (withoutConvention
    (withoutWord "unsafe" (withoutWord "async" (.ident word :: rest)))) = false
  rw [withoutWord_name hword (by decide), withoutWord_name hword (by decide), hconvention,
    startsWithWord_name hword (by decide)]

theorem yields_constant {value : Expr} (hword : isKeyword word = false)
    (hvalue : Yields (wholeExpr (Reader.readers (depth + 1))) (rounds + 1) tokens value
      (.mark ';' false :: rest)) :
    Yields (member (Reader.readers (depth + 1))) (rounds + 1)
      (.ident "pub" :: .ident "const" :: .ident word :: .mark ':' false :: .ident "Self" ::
        .mark '=' false :: tokens)
      (.constant { visibility := .everyone, name := word, type := .named "Self", value := value })
      rest := by
  have hconstant : Yields (constant? (Reader.readers (depth + 1)) [] .everyone false) (rounds + 1)
      (.ident word :: .mark ':' false :: .ident "Self" :: .mark '=' false :: tokens)
      (some { visibility := .everyone, name := word, type := .named "Self", value := value })
      rest := by
    refine .bind (yields_get _ _) ?_
    refine .of_neg (by rw [startsWithName_name hword]; rfl) ?_
    refine .bind (yields_nameOr hword (by decide)) ?_
    refine .bind (yields_peek rfl _) ?_
    refine .step () (.mark ':' false :: _) rfl ?_
    refine .step () (.ident "Self" :: _) rfl ?_
    refine .step (TypeExpr.named "Self") (.mark '=' false :: tokens) rfl ?_
    refine .step true tokens rfl ?_
    refine .of_pos rfl ?_
    refine .bind (hvalue.map some) ?_
    refine .bind (yields_peek rfl _) ?_
    refine .step () (.mark ';' false :: rest) rfl ?_
    refine .step () rest rfl ?_
    exact yields_pure _ _ _
  refine .bind (yields_get _ _) ?_
  refine .bind (yields_no_outerAttributes rfl) ?_
  refine .step Visibility.everyone (.ident "const" :: .ident word :: _) rfl ?_
  refine .bind (yields_get _ _) ?_
  refine .of_neg rfl ?_
  refine .bind (yields_no_word rfl) ?_
  refine .bind (yields_get _ _) ?_
  refine .of_neg (not_startsSignature_constant hword) ?_
  refine .step true (.ident word :: _) rfl ?_
  refine .of_pos rfl ?_
  exact .bind hconstant (yields_pure _ _ _)

/-! ## Types with fields -/

/-- A variant without the comma after it. -/
def variantTokens (v : Variant) : List Token :=
  outerTokens v.attributes ++ .ident v.name ::
    (match v.fields with
      | .none => []
      | .positional fields => positionalTokens fields
      | .named fields => fieldTokens fields) ++
    (match v.value with | some value => Token.sign "=" ++ value.tokens | none => [])

theorem yields_plainVariant {attributes : List Attribute} (hword : isKeyword word = false)
    (hattributes : Yields (outerAttributes readers) (rounds + 1) tokens attributes
      (.ident word :: .mark ',' false :: rest)) :
    Yields (variant readers) (rounds + 1) tokens { attributes, name := word }
      (.mark ',' false :: rest) := by
  refine .bind hattributes ?_
  refine .bind (yields_inherited (startsWithWord_name hword (by decide))).discard ?_
  refine .bind (yields_name hword) ?_
  refine .bind (yields_get _ _) ?_
  refine .of_neg rfl ?_
  refine .of_neg rfl ?_
  refine .bind (yields_pure _ _ _) ?_
  refine .bind (yields_no_sign rfl) ?_
  exact .of_neg rfl (.bind (yields_pure _ _ _) (yields_pure _ _ _))

theorem yields_positionalVariant {attributes : List Attribute} {fields : List Field}
    {inside : List Token} (hword : isKeyword word = false)
    (hattributes : Yields (outerAttributes readers) (rounds + 1) tokens attributes
      (.ident word :: .opening .paren :: inside))
    (hfields : Yields (positionalFields readers) (rounds + 1) (.opening .paren :: inside) fields
      (.mark ',' false :: rest)) :
    Yields (variant readers) (rounds + 1) tokens
      { attributes, name := word, fields := .positional fields } (.mark ',' false :: rest) := by
  refine .bind hattributes ?_
  refine .bind (yields_inherited (startsWithWord_name hword (by decide))).discard ?_
  refine .bind (yields_name hword) ?_
  refine .bind (yields_get _ _) ?_
  refine .of_neg rfl ?_
  refine .of_pos rfl ?_
  refine .bind (hfields.map Fields.positional) ?_
  refine .bind (yields_no_sign rfl) ?_
  exact .of_neg rfl (.bind (yields_pure _ _ _) (yields_pure _ _ _))

theorem yields_heading {attributes : List Attribute} {visibility : Visibility}
    (hword : isKeyword word = false) :
    Yields (heading readers attributes visibility) (rounds + 1)
      (.ident word :: .opening .brace :: rest) { attributes, visibility, name := word }
      (.opening .brace :: rest) := by
  refine .bind (yields_name hword) ?_
  exact .bind (.bind (yields_no_sign rfl) (.of_neg rfl (yields_pure _ _ _))) (yields_pure _ _ _)

theorem yields_no_conditions (heading : Heading) (hconditions : heading.generics.conditions = [])
    (rest : List Token) :
    Yields (withConditions readers heading) rounds (.opening .brace :: rest) heading
      (.opening .brace :: rest) := by
  obtain ⟨attributes, visibility, name, ⟨parameters, conditions⟩⟩ := heading
  cases hconditions
  exact .bind (.bind (yields_no_word rfl) (.of_neg rfl (yields_pure _ _ _))) (yields_pure _ _ _)

theorem yields_record {heading : Heading} {fields : List Field}
    (hconditions : heading.generics.conditions = [])
    (hfields : Yields (namedFields readers) (rounds + 1) (.opening .brace :: tokens) fields rest) :
    Yields (record readers heading) (rounds + 1) (.opening .brace :: tokens)
      (.record heading (.named fields)) rest := by
  refine .bind (yields_peek rfl _) ?_
  refine .bind (yields_no_conditions heading hconditions tokens) ?_
  refine .bind (yields_get _ _) ?_
  refine .of_neg rfl ?_
  refine .of_pos rfl ?_
  exact .bind hfields (yields_pure _ _ _)

theorem yields_enumeration {heading : Heading} {variants : List Variant}
    (hconditions : heading.generics.conditions = [])
    (hvariants : Yields (commaList .brace (variant readers)) (rounds + 1) tokens variants rest) :
    Yields (enumeration readers heading) (rounds + 1) (.opening .brace :: tokens)
      (.enumeration heading variants) rest := by
  refine .bind (yields_no_conditions heading hconditions tokens) ?_
  refine .step () tokens rfl ?_
  exact .bind hvariants (yields_pure _ _ _)

/-! ## Public types -/

theorem yields_item_record {attributes : List Attribute} {fields : List Field} {inside : List Token}
    (hword : isKeyword word = false)
    (hattributes : Yields (outerAttributes (Reader.readers depth)) (rounds + 1) tokens attributes
      (.ident "pub" :: .ident "struct" :: .ident word :: .opening .brace :: inside))
    (hfields : Yields (namedFields (Reader.readers depth)) (rounds + 1) (.opening .brace :: inside)
      fields rest) :
    Yields (Reader.readers (depth + 1)).item (rounds + 1) tokens
      (.record { attributes, visibility := .everyone, name := word } (.named fields)) rest := by
  show Yields (itemStep (Reader.readers depth)) _ _ _ _
  refine .bind (yields_get _ _) ?_
  refine .bind hattributes ?_
  refine .step Visibility.everyone (.ident "struct" :: _) rfl ?_
  refine .bind (yields_get _ _) ?_
  refine .of_neg rfl ?_
  refine .of_neg rfl ?_
  refine .bind (yields_no_word rfl) ?_
  refine .of_neg rfl ?_
  refine .bind (yields_no_word rfl) ?_
  refine .of_neg rfl ?_
  refine .bind (yields_no_word rfl) ?_
  refine .of_neg rfl ?_
  refine .of_neg rfl ?_
  refine .of_neg rfl ?_
  refine .bind (yields_no_word rfl) ?_
  refine .of_neg rfl ?_
  refine .step true (.ident word :: _) rfl ?_
  refine .of_pos rfl ?_
  exact .bind (yields_heading hword) (yields_record rfl hfields)

theorem yields_item_enumeration {attributes : List Attribute} {variants : List Variant}
    {inside : List Token} (hword : isKeyword word = false)
    (hattributes : Yields (outerAttributes (Reader.readers depth)) (rounds + 1) tokens attributes
      (.ident "pub" :: .ident "enum" :: .ident word :: .opening .brace :: inside))
    (hvariants : Yields (commaList .brace (variant (Reader.readers depth))) (rounds + 1) inside
      variants rest) :
    Yields (Reader.readers (depth + 1)).item (rounds + 1) tokens
      (.enumeration { attributes, visibility := .everyone, name := word } variants) rest := by
  show Yields (itemStep (Reader.readers depth)) _ _ _ _
  refine .bind (yields_get _ _) ?_
  refine .bind hattributes ?_
  refine .step Visibility.everyone (.ident "enum" :: _) rfl ?_
  refine .bind (yields_get _ _) ?_
  refine .of_neg rfl ?_
  refine .of_neg rfl ?_
  refine .bind (yields_no_word rfl) ?_
  refine .of_neg rfl ?_
  refine .bind (yields_no_word rfl) ?_
  refine .of_neg rfl ?_
  refine .bind (yields_no_word rfl) ?_
  refine .of_neg rfl ?_
  refine .of_neg rfl ?_
  refine .of_neg rfl ?_
  refine .bind (yields_no_word rfl) ?_
  refine .of_neg rfl ?_
  refine .bind (yields_no_word rfl) ?_
  refine .of_neg rfl ?_
  refine .step true (.ident word :: _) rfl ?_
  refine .of_pos rfl ?_
  exact .bind (yields_heading hword) (yields_enumeration rfl hvariants)

/-! ## Files -/

theorem yields_nextItem? {part : List Token} {item : Item} (hpart : part.isEmpty = false)
    (hitem : Yields readers.item rounds part item rest) :
    Yields (nextItem? readers) rounds part (some item) rest :=
  .bind (yields_get _ _) (.of_neg hpart (hitem.map some))

theorem yields_nextItem?_nil : Yields (nextItem? readers) rounds [] none [] :=
  .bind (yields_get _ _) (.of_pos rfl (yields_pure _ _ _))

theorem ofTokens_of_yields {f : File}
    (h : Yields (file (Reader.readers (4 * (tokens.length + 1)))) (tokens.length + 1) tokens f []) :
    File.ofTokens tokens = .ok f := by
  unfold Yields at h
  unfold File.ofTokens
  dsimp only [ReaderT.run, StateT.run]
  rw [h]

theorem ofTokens_parts {attributes : List Attribute} {parts : List (List Token)} {items : List Item}
    (hattributes : Yields (innerAttributes (Reader.readers (4 * (tokens.length + 1))))
      (tokens.length + 1) tokens attributes parts.flatten)
    (hparts : List.Forall₂ (fun part item => ∀ rest, (part ++ rest).isEmpty = false ∧
      Yields (Reader.readers (4 * (tokens.length + 1))).item (tokens.length + 1) (part ++ rest) item
        rest) parts items)
    (hrounds : parts.length < tokens.length + 1) :
    File.ofTokens tokens = .ok { attributes, items } := by
  have hread := hparts.imp fun part item h rest => yields_nextItem? (h rest).1 (h rest).2
  have hmany : Yields (many (nextItem? _)) (tokens.length + 1) (parts.flatten ++ []) items [] :=
    .bind (yields_limit _ _) (yields_manyParts hread yields_nextItem?_nil hrounds)
  rw [List.append_nil] at hmany
  exact ofTokens_of_yields (.bind hattributes (.bind hmany (yields_pure _ _ _)))

theorem ofTokens_eq {attributes : List Attribute} {items : List Item}
    (hattributes : Yields (innerAttributes (Reader.readers (4 * (tokens.length + 1))))
      (tokens.length + 1) tokens attributes (items.flatMap Item.tokens))
    (hitems : ∀ item ∈ items, ∀ rest, Yields (Reader.readers (4 * (tokens.length + 1))).item
      (tokens.length + 1) (item.tokens ++ rest) item rest)
    (hnonempty : ∀ item ∈ items, ∀ rest, (item.tokens ++ rest).isEmpty = false)
    (hrounds : items.length < tokens.length + 1) :
    File.ofTokens tokens = .ok { attributes, items } := by
  rw [List.flatMap_def] at hattributes
  refine ofTokens_parts hattributes ?_ (by rwa [List.length_map])
  rw [List.forall₂_map_left_iff, List.forall₂_same]
  exact fun item hitem rest => ⟨hnonempty item hitem rest, hitems item hitem rest⟩

end WireErrors.Source.Reader
