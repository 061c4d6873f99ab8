import WireErrors.Proofs.Formatted.Statements

/-!
# Formatted attributes

Attributes as they are formatted: documentation as a comment on a line of its own, or as an attribute if
there is no comment for it, and other attributes in brackets. Whatever stands behind them, they are read
as attributes of it.
-/

namespace WireErrors

open Source Layout
open Source.Reader hiding word

namespace Formatted

open ErrorTypes

variable {parts : List (List Token)} {tokens : List Token}

/-! ## Reading attributes -/

/-- Tokens that are read as attributes of what follows them. -/
structure OuterAttributes (tokens : List Token) : Prop where
  reads : ∀ depth rounds, ∃ attributes, ∀ rest, afterSign? "#".toList rest = none →
    Yields (outerAttributes (Reader.readers depth)) (rounds + 12) (tokens ++ rest) attributes rest
  balanced : Balanced tokens
  plain : ∀ rest, startsInner rest = false → startsInner (tokens ++ rest) = false
  starts : ∀ rest, isEnd rest = false → isEnd (tokens ++ rest) = false

/-- Tokens that are read as one attribute. -/
structure OuterAttribute (tokens : List Token) : Prop where
  reads : ∀ depth rounds, ∃ a, ∀ rest, Yields (do
    if ← sign? "#" then some <$> attributeBody (Reader.readers depth) false else return none)
      (rounds + 12) (tokens ++ rest) (some a) rest
  balanced : Balanced tokens
  plain : ∀ rest, startsInner (tokens ++ rest) = false
  starts : ∀ rest, isEnd (tokens ++ rest) = false

theorem outerAttributes_of (hparts : ∀ part ∈ parts, OuterAttribute part)
    (hlength : parts.length < 12) : OuterAttributes parts.flatten where
  reads depth rounds := by
    obtain ⟨attributes, hattributes⟩ := exists_many
      (fun part hpart => (hparts part hpart).reads depth rounds) (by omega)
    exact ⟨attributes, fun rest hrest => hattributes rest (.bind (yields_no_sign hrest) rfl)⟩
  balanced := balanced_flatten fun part hpart => (hparts part hpart).balanced
  plain rest hrest := by
    cases parts with
    | nil => exact hrest
    | cons part parts =>
      rw [List.flatten_cons, List.append_assoc]
      exact (hparts part List.mem_cons_self).plain _
  starts rest hrest := by
    cases parts with
    | nil => exact hrest
    | cons part parts =>
      rw [List.flatten_cons, List.append_assoc]
      exact (hparts part List.mem_cons_self).starts _

theorem outerAttribute_doc (text : List Char) : OuterAttribute (docTokens false text) where
  reads _ _ := ⟨⟨false, ⟨false, ["doc"]⟩, .value (String.ofList (Text.quoted text))⟩, fun _ => rfl⟩
  balanced := balanced_iff.mpr rfl
  plain _ := rfl
  starts _ := rfl

/-! ## Documentation -/

/-- A text that a line comment holds as it is. -/
structure LineText (text : String) : Prop where
  enclosable : Enclosable text.toList
  no_break : '\n' ∉ text.toList
  no_return : '\r' ∉ text.toList

theorem docText?_docText (text : String) : (Attribute.docText text).docText? = some text :=
  literalValue?_quote text

theorem layout_comment {a : Attribute} {text : String} {comment : List Char}
    (htext : a.docText? = some text) (hcomment : docComment? a.inner text.toList = some comment) :
    a.layout = word (String.ofList comment) ++ hardBreak := by
  rw [Attribute.layout, Attribute.comment?, htext]
  dsimp only
  rw [hcomment]

theorem LineText.legal {text : String} (h : LineText text) :
    noBareReturn (docBody text.toList) = true := by
  rw [docBody_line h.no_break]
  exact noBareReturn_of_not_mem h.no_return

theorem LineText.exists_comment {text : String} (h : LineText text) :
    ∃ comment, docComment? false text.toList = some comment :=
  exists_docComment h.enclosable h.no_break

/-- Whether a text is one line that starts and ends with no sign of a comment. -/
def isLine (text : List Char) : Bool :=
  !text.contains '\n' && !text.contains '\r' && text.head?.all (fun c => c != '/' && c != '*') &&
    text.getLast?.all fun c => c != ' ' && c != '/'

theorem LineText.of_isLine {text : String} (h : isLine text.toList = true) : LineText text := by
  simp only [isLine, Bool.and_eq_true, Bool.not_eq_true', List.contains_eq_mem, decide_eq_false_iff_not] at h
  obtain ⟨⟨⟨hbreak, hreturn⟩, hfirst⟩, hlast⟩ := h
  refine ⟨⟨fun c hc => ?_, fun c hc => ?_⟩, hbreak, hreturn⟩
  · rw [hc] at hfirst
    simpa using hfirst
  · rw [hc] at hlast
    have hreturned : c ≠ '\r' := by
      rintro rfl
      exact hreturn (List.mem_of_getLast? hc)
    simp only [Option.all_some, Bool.and_eq_true, bne_iff_ne] at hlast
    exact ⟨hlast.1, hlast.2, hreturned⟩

variable {a : Attribute} {text : String}

theorem LineText.readsAs (h : LineText text) (hinner : a.inner = false)
    (htext : a.docText? = some text) :
    ReadsAs a.layout .unknown true true (· = docTokens false text.toList) := by
  obtain ⟨comment, hcomment⟩ := h.exists_comment
  have hreads := readsAs_comment h.enclosable hcomment endsLine_hardBreak .unknown
  rw [h.legal, docBody_line h.no_break] at hreads
  rw [layout_comment htext (hinner ▸ hcomment)]
  exact hreads

theorem LineText.fileLines (h : LineText text) (hinner : a.inner = false)
    (htext : a.docText? = some text) :
    FileLines a.layout true (· = docTokens false text.toList) := by
  obtain ⟨comment, hcomment⟩ := h.exists_comment
  have hlines := fileLines_comment h.enclosable hcomment
  rw [h.legal, docBody_line h.no_break] at hlines
  rwa [layout_comment htext (hinner ▸ hcomment)]

/-! ## Attributes in brackets -/

/-- Documentation in brackets, up to the blank behind it. -/
def docNotes (text : String) : List Note :=
  [.text [.fixed "#["], .text [.fixed "doc"], .text [.fixed " = ", .quote text], .text [.fixed "]"]]

theorem layout_docNotes (hcomment : docComment? false text.toList = none) :
    (Attribute.docText text).layout = layoutOf (docNotes text) ++ space := by
  have hnone : (Attribute.docText text).comment? = none := by
    rw [Attribute.comment?, docText?_docText]
    exact hcomment
  rw [Attribute.layout, hnone]
  rfl

theorem scored_docNotes (text : String) :
    Scored (layoutOf (docNotes text)) .apart (· = docTokens false text.toList) := by
  have hscore : outcomes .apart (docNotes text) =
      some [(⟨false, some true, true⟩, docTokens false text.toList)] := rfl
  exact .of (docNotes text) rfl hscore rfl nofun rfl rfl (List.forall_mem_singleton.mpr rfl)

theorem readsAs_docAttribute (hcomment : docComment? false text.toList = none) (split : Bool) :
    ReadsAs (Attribute.docText text).layout .unknown split true (· = docTokens false text.toList) := by
  rw [layout_docNotes hcomment]
  exact ((scored_docNotes text).readsAs split).ended endsLine_space

/-- Tokens in the parentheses of an attribute; `afterWord` tells whether a word stands in front. -/
def tokenNotes : Bool → List Token → List Note
  | _, [] => []
  | _, .mark c _ :: rest =>
    .text [.fixed (String.ofList [c])] :: (if c = ',' then [.gap { zero with blank := 1 }] else []) ++
      tokenNotes false rest
  | afterWord, t :: rest =>
    (if afterWord then [.gap { zero with blank := 1 }] else []) ++
      .text [.fixed (String.ofList t.chars)] :: tokenNotes true rest

/-- Whether some tokens are words and marks between them. -/
def areListed : List Token → Bool
  | [] => false
  | [.ident _] => true
  | .ident _ :: rest => areListed rest
  | .mark c _ :: rest => c != '=' && areListed rest
  | _ => false

theorem attributeTrees_tokens (afterWord : Bool) {tokens : List Token} (h : areListed tokens = true) :
    attributeTrees afterWord (tokens.map .token) = layoutOf (tokenNotes afterWord tokens) := by
  fun_induction areListed tokens generalizing afterWord with
  | case1 => cases h
  | case2 name =>
    cases afterWord <;> simp [attributeTrees, tokenNotes, layoutOf] <;> rfl
  | case3 name rest hrest ih =>
    rw [List.map_cons, attributeTrees, ih true h, tokenNotes]
    · cases afterWord <;> rfl
    · nofun
    · nofun
  | case4 c joint rest ih =>
    rw [Bool.and_eq_true, bne_iff_ne] at h
    have hmore : (rest.map TokenTree.token).isEmpty = false := by
      cases rest with
      | nil => cases h.2
      | cons t rest => rfl
    rw [List.map_cons, attributeTrees, hmore, Bool.and_false, if_neg Bool.false_ne_true, if_neg h.1,
      ih false h.2, tokenNotes]
    split <;> rfl
  | case5 => cases h

theorem endsWithComma_tokens {tokens : List Token} (h : areListed tokens = true) :
    endsWithComma (tokens.map .token) = false := by
  have hcons : ∀ (t : Token) {rest : List Token}, areListed rest = true →
      endsWithComma ((t :: rest).map .token) = endsWithComma (rest.map .token) := by
    intro t rest hrest
    cases rest with
    | nil => cases hrest
    | cons second rest => rfl
  fun_induction areListed tokens with
  | case1 => cases h
  | case2 name => rfl
  | case3 name rest hrest ih =>
    rw [hcons _ h]
    exact ih h
  | case4 c joint rest ih =>
    rw [Bool.and_eq_true] at h
    rw [hcons _ h.2]
    exact ih h.2
  | case5 => cases h

/-- An attribute with a list in parentheses. -/
def listAttribute (inner : Bool) (name : String) (body : List Token) : Attribute :=
  ⟨inner, ⟨false, [name]⟩, .list .paren body⟩

/-- Such an attribute up to the gap behind it. -/
def listAttributeNotes (inner : Bool) (name : String) (body : List Token) : List Note :=
  [Note.text [.fixed (if inner then "#![" else "#[")], .text [.fixed name], .text [.fixed "("],
    .opening true indent, .gap zero] ++ tokenNotes false body ++
      [Note.gap { zero with shift := -indent }, .closing, .text [.fixed ")"], .text [.fixed "]"]]

theorem layout_listAttribute (inner : Bool) (name : String) {body : List Token}
    (hbody : TokenTree.ofTokens body = body.map .token) (hlisted : areListed body = true) :
    (listAttribute inner name body).layout =
      layoutOf (listAttributeNotes inner name body) ++ space := by
  have hinside : shiftLast (-indent) (softBreak ++ layoutOf (tokenNotes false body) ++ softBreak) =
      softBreak ++ layoutOf (tokenNotes false body) ++ [Piece.gap { zero with shift := -indent }] :=
    shiftLast_append _ _ (List.cons_ne_nil _ _)
  have hmore : ∀ g, softBreak ++ layoutOf (tokenNotes false body) ++
      [.gap { zero with shift := -indent }] ≠ [.gap g] := by
    intro g hg
    simpa [softBreak] using congrArg List.length hg
  have htrees : attributeTrees false [.group .paren (body.map .token)] =
      word "(" ++ group indent (softBreak ++ layoutOf (tokenNotes false body) ++
        [Piece.gap { zero with shift := -indent }]) ++ word ")" := by
    rw [attributeTrees, if_pos rfl, attributeTrees_tokens false hlisted, endsWithComma_tokens hlisted,
      if_neg Bool.false_ne_true, hinside, attributeTrees, List.append_nil]
    rfl
  have hpath : pathText ⟨false, [name]⟩ = name := by simp [pathText]
  have hlayout : (listAttribute inner name body).layout =
      word (if inner then "#![" else "#[") ++ word name ++
        attributeTrees false [.group .paren (TokenTree.ofTokens body)] ++ word "]" ++ space := by
    rw [← hpath]
    rfl
  rw [hlayout, hbody, htrees, group, box_eq hmore, listAttributeNotes]
  simp [layoutOf, Note.piece, softBreak, word, Part.joined, Part.text]

theorem fileLines_listAttribute {inner : Bool} {name : String} {body : List Token} {edge : Edge}
    (hscore : outcomes .apart (listAttributeNotes inner name body) = some [(edge, tokens)])
    (hknown : (listAttributeNotes inner name body).all Note.isKnown = true)
    (hwords : (listAttributeNotes inner name body).flatMap Note.words = [])
    (hclosed : closesAt 0 (layoutOf (listAttributeNotes inner name body)) = true)
    (hbody : TokenTree.ofTokens body = body.map .token) (hlisted : areListed body = true) :
    FileLines (listAttribute inner name body).layout true (· = tokens) := by
  have htight : (listAttributeNotes inner name body).foldl Note.isTight false = true := by
    rw [listAttributeNotes, List.foldl_append]
    rfl
  have hscored : Scored (layoutOf (listAttributeNotes inner name body)) .apart (· = tokens) := by
    refine .of _ rfl hscore hknown ?_ hclosed htight (List.forall_mem_singleton.mpr rfl)
    rw [hwords]
    nofun
  rw [layout_listAttribute inner name hbody hlisted]
  exact (hscored.readsAs true).fileLines endsLine_space rfl

/-- What the option set derives. -/
def optionSetTraits : List (List String) :=
  [["Debug"], ["Clone"], ["Copy"], ["PartialEq"], ["Eq"], ["Hash"]]

theorem fileLines_optionSetTraits : FileLines (Attribute.derive optionSetTraits).layout true
    (· = (Attribute.derive optionSetTraits).tokens) := by
  have hscore : outcomes .apart (listAttributeNotes false "derive"
      (List.intercalate (Token.sign ",") (optionSetTraits.map Token.path))) =
        some [(⟨false, some true, true⟩, (Attribute.derive optionSetTraits).tokens)] := rfl
  exact fileLines_listAttribute hscore rfl rfl rfl rfl rfl

/-- What the error type derives. -/
def errorTraits (serializable : Bool) : List (List String) :=
  [["Debug"], ["Clone"], ["PartialEq"], ["Eq"]] ++
    if serializable then [["serde", "Serialize"]] else []

theorem fileLines_derives (serializable : Bool) :
    FileLines (derives serializable).layout true (· = (derives serializable).tokens) := by
  have hscore (serializable : Bool) : outcomes .apart (listAttributeNotes false "derive"
      (List.intercalate (Token.sign ",") ((errorTraits serializable).map Token.path))) =
        some [(⟨false, some true, true⟩, (derives serializable).tokens)] := by
    cases serializable <;> rfl
  cases serializable with
  | false => exact fileLines_listAttribute (hscore false) rfl rfl rfl rfl rfl
  | true => exact fileLines_listAttribute (hscore true) rfl rfl rfl rfl rfl

theorem outerAttribute_optionSetTraits :
    OuterAttribute (Attribute.derive optionSetTraits).tokens where
  reads _ _ := ⟨Attribute.derive optionSetTraits, fun _ => rfl⟩
  balanced := balanced_iff.mpr rfl
  plain _ := rfl
  starts _ := rfl

theorem outerAttribute_derives (serializable : Bool) :
    OuterAttribute (derives serializable).tokens where
  reads _ _ := ⟨derives serializable, fun _ => by cases serializable <;> rfl⟩
  balanced := balanced_iff.mpr (by cases serializable <;> rfl)
  plain _ := by cases serializable <;> rfl
  starts _ := by cases serializable <;> rfl

end Formatted

end WireErrors
