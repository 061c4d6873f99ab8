import WireErrors.Proofs.Source.Lexing
import WireErrors.Source.Spelling.Item

/-!
# Tokens of spelled trees

`Readable` says that tokens can be read back from their text, wherever they stand between others. For
tokens without repetition this splits into the words and literals in them (`Words`), which decide what
a tree has to fulfil, and their marks and delimiters, which do not depend on them (`readable_of`). Larger
trees are put together from readable parts.
-/

namespace WireErrors.Source

/-- Tokens that can be read back from their text, whatever stands around them. -/
structure Readable (tokens : List Token) : Prop where
  legible : Legible tokens
  balanced : Balanced tokens

/-! ## Words and literals -/

/-- Whether a literal is a raw string without quotes in it. -/
def isRaw (spelling : String) : Bool :=
  match spelling.toList with
  | 'r' :: '"' :: rest =>
    rest.getLast? == some '"' && rest.dropLast.all fun c => c != '"' && c != '\r'
  | _ => false

theorem exists_of_isRaw {spelling : String} (h : isRaw spelling = true) :
    ∃ text : String, spelling = "r\"" ++ text ++ "\"" ∧ ∀ c ∈ text.toList, c ≠ '"' ∧ c ≠ '\r' := by
  unfold isRaw at h
  split at h
  next rest hchars =>
    simp only [Bool.and_eq_true, beq_iff_eq, List.all_eq_true, bne_iff_ne] at h
    obtain ⟨hlast, hinner⟩ := h
    obtain ⟨inner, rfl⟩ := List.getLast?_eq_some_iff.mp hlast
    rw [List.dropLast_concat] at hinner
    refine ⟨String.ofList inner, String.toList_inj.mp ?_, by simpa using hinner⟩
    rw [hchars]
    simp
  next => cases h

/-- A literal that is a raw string or a quoted text. -/
def IsText (spelling : String) : Prop :=
  isRaw spelling = true ∨ ∃ text, spelling = Text.quote text

@[simp]
theorem isText_quote (text : String) : IsText (Text.quote text) := .inr ⟨text, rfl⟩

@[simp]
theorem isText_of_isRaw {spelling : String} (h : isRaw spelling = true) : IsText spelling := .inl h

/-- Whether a token is a word or literal that is read as such, if it is a word or literal. -/
def Token.Sound : Token → Prop
  | .ident name => isSpelled name = true
  | .literal spelling => IsText spelling
  | _ => True

/-- Whether all words and literals are read as such. -/
def Words (tokens : List Token) : Prop := ∀ t ∈ tokens, t.Sound

@[simp]
theorem words_nil : Words [] := nofun

theorem words_cons {t : Token} {rest : List Token} : Words (t :: rest) ↔ t.Sound ∧ Words rest :=
  List.forall_mem_cons

@[simp]
theorem words_append {a b : List Token} : Words (a ++ b) ↔ Words a ∧ Words b :=
  List.forall_mem_append

@[simp]
theorem words_ident {name : String} {rest : List Token} :
    Words (.ident name :: rest) ↔ isSpelled name = true ∧ Words rest := words_cons

@[simp]
theorem words_mark {c : Char} {joint : Bool} {rest : List Token} :
    Words (.mark c joint :: rest) ↔ Words rest := words_cons.trans (and_iff_right trivial)

@[simp]
theorem words_opening {d : Delimiter} {rest : List Token} :
    Words (.opening d :: rest) ↔ Words rest := words_cons.trans (and_iff_right trivial)

@[simp]
theorem words_closing {d : Delimiter} {rest : List Token} :
    Words (.closing d :: rest) ↔ Words rest := words_cons.trans (and_iff_right trivial)

@[simp]
theorem words_literal {spelling : String} {rest : List Token} :
    Words (.literal spelling :: rest) ↔ IsText spelling ∧ Words rest := words_cons

@[simp]
theorem words_group {d : Delimiter} {body : List Token} :
    Words (Token.group d body) ↔ Words body := by
  simp [Token.group]

@[simp]
theorem words_sign (text : String) : Words (Token.sign text) := by
  have hgo : ∀ chars, Words (Token.sign.go chars) := by
    intro chars
    induction chars with
    | nil => exact words_nil
    | cons c chars ih =>
      cases chars with
      | nil => exact words_mark.mpr words_nil
      | cons d chars => exact words_mark.mpr ih
  exact hgo _

@[simp]
theorem words_signIf (condition : Bool) (text : String) : Words (signIf condition text) := by
  cases condition
  · exact words_nil
  · exact words_sign text

/-! ## Marks and delimiters -/

/-- Whether a mark is joined to a mark, or is the apostrophe of a lifetime. -/
def joins (c : Char) : List Token → Bool
  | .mark d _ :: _ => plainMarks.contains c && plainMarks.contains d
  | .ident _ :: _ => c == '\''
  | _ => false

/-- Whether a token can be told from those that follow, as far as it is a mark. -/
def markFits : Token → List Token → Bool
  | .mark c joint, rest => if joint then joins c rest else plainMarks.contains c
  | .ident _, _ | .literal _, _ | .opening _, _ | .closing _, _ => true

/-- Whether each mark that is joined to the next token can be, and all other ones are plain. -/
def marksFit : List Token → Bool
  | [] => true
  | t :: rest => markFits t rest && marksFit rest

theorem Legible.joined {c : Char} {rest : List Token} (h : Legible rest)
    (hjoins : joins c rest = true) : Legible (.mark c true :: rest) := by
  cases h with
  | nil => cases hjoins
  | ident hname hrest =>
    obtain rfl : c = '\'' := by simpa [joins] using hjoins
    exact .lifetime hname hrest
  | mark hd hrest =>
    have hc := List.contains_iff_mem.mp (Bool.and_eq_true_iff.mp hjoins).1
    exact .joint hc hd (.mark hd hrest)
  | joint hd he hrest =>
    have hc := List.contains_iff_mem.mp (Bool.and_eq_true_iff.mp hjoins).1
    exact .joint hc hd (.joint hd he hrest)
  | lifetime hname hrest =>
    obtain ⟨hc, hd⟩ := Bool.and_eq_true_iff.mp hjoins
    exact .joint (List.contains_iff_mem.mp hc) (List.contains_iff_mem.mp hd) (.lifetime hname hrest)
  | quote => cases hjoins
  | raw => cases hjoins
  | opening => cases hjoins
  | closing => cases hjoins

theorem legible_of {tokens : List Token} (hmarks : marksFit tokens = true) (hwords : Words tokens) :
    Legible tokens := by
  induction tokens with
  | nil => exact .nil
  | cons t rest ih =>
    obtain ⟨hmark, hmarks⟩ := Bool.and_eq_true_iff.mp hmarks
    obtain ⟨ht, hrest⟩ := words_cons.mp hwords
    have htail := ih hmarks hrest
    cases t with
    | ident name => exact .ident ht htail
    | literal spelling =>
      obtain hraw | ⟨text, rfl⟩ := ht
      · obtain ⟨text, rfl, htext⟩ := exists_of_isRaw hraw
        exact .raw htext htail
      · exact .quote text htail
    | opening d => exact .opening d htail
    | closing d => exact .closing d htail
    | mark c joint =>
      cases joint with
      | false => exact .mark (List.contains_iff_mem.mp hmark) htail
      | true => exact htail.joined hmark

/-- Tokens without repetition, the marks and delimiters of which can be looked at. -/
theorem readable_of {tokens : List Token} (hwords : Words tokens) (hmarks : marksFit tokens = true)
    (hbalanced : balanced [] tokens = true) : Readable tokens :=
  ⟨legible_of hmarks hwords, balanced_iff.mpr hbalanced⟩

/-! ## Larger trees -/

theorem readable_nil : Readable [] := ⟨.nil, balanced_nil⟩

theorem Readable.append {a b : List Token} (ha : Readable a) (hb : Readable b) : Readable (a ++ b) :=
  ⟨ha.legible.append hb.legible, ha.balanced.append hb.balanced⟩

theorem Readable.ident {name : String} {rest : List Token} (hname : isSpelled name = true)
    (h : Readable rest) : Readable (.ident name :: rest) :=
  ⟨.ident hname h.legible, balanced_ident name h.balanced⟩

theorem Readable.group {body : List Token} (h : Readable body) (d : Delimiter) :
    Readable (Token.group d body) :=
  ⟨.opening d (h.legible.append (.closing d .nil)), .group d h.balanced⟩

theorem readable_flatMap {α : Type} {list : List α} {spell : α → List Token}
    (h : ∀ a ∈ list, Readable (spell a)) : Readable (list.flatMap spell) := by
  induction list with
  | nil => exact readable_nil
  | cons a list ih =>
    exact (h a List.mem_cons_self).append (ih fun b hb => h b (List.mem_cons_of_mem _ hb))

/-! ## Spelling trees out

Under `open scoped Spelled`, `simp` writes the tokens of a tree down as far as the tree is known.
-/

namespace Spelled

attribute [scoped simp] Member.tokens Function.tokens Signature.tokens Constant.tokens
  Constant.declaration Item.tokens Heading.tokens Variant.tokens Field.tokens positionalTokens
  fieldTokens namedTokens outerTokens innerTokens Attribute.doc Attribute.docText Attribute.derive
  attributeTokens Attribute.tokens AttributeArgument.tokens Path.tokens Token.path Token.text
  Token.lifetime List.filter Parameter.tokens Parameter.named Parameter.self TypeExpr.text
  TypeExpr.named TypeExpr.names TypeExpr.tokens Pattern.tokens Pattern.listTokens
  Statement.listTokens Statement.tokens Expr.tokens Expr.listTokens Expr.names FieldValue.tokens
  FieldValue.listTokens FieldValue.plain Operator.text Route.names Route.tokens Segment.listTokens
  Segment.plain Segment.tokens Arguments.tokens Argument.tokens Argument.listTokens wordIf
  Visibility.tokens Convention.tokens Generics.parameterTokens Generics.conditionTokens Arm.plain
  Arm.tokens Otherwise.tokens Expr.optionTokens targetTokens

end Spelled

end WireErrors.Source
