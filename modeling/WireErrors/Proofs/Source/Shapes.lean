import WireErrors.Proofs.Source.Grammar.Lists
import WireErrors.Proofs.Source.Legibility

/-!
# The shape of source text

What is left of tokens without the spellings of their literals is their `shape`; the other half are
the values of the literals, in their order. `lex?` gets both back from the text of legible tokens,
block by block, for a block alone need not have its delimiters belong together.
-/

namespace WireErrors.Source

open Text

/-! ## Tokens of a text -/

/-- The tokens of a text, whether or not its delimiters belong together. -/
def lex? (text : String) : Option (List Token) := readSteps text.toList.length text.toList

theorem Legible.lex?_render {tokens : List Token} (h : Legible tokens) :
    lex? (Token.render tokens) = some tokens := by
  have hreads := h.reads separated_nil reads_nil
  rw [List.append_nil, List.append_nil] at hreads
  rw [lex?, Token.render, String.toList_ofList]
  exact hreads _ (Nat.le_refl _)

theorem map_lex?_render {parts : List (List Token)} (h : ∀ part ∈ parts, Legible part) :
    (parts.map Token.render).map lex? = parts.map some := by
  rw [List.map_map]
  exact List.map_congr_left fun part hpart => (h part hpart).lex?_render

/-! ## Shapes -/

/-- A token without the spelling of a literal. -/
def Token.hollow : Token → Token
  | .literal _ => .literal ""
  | .ident name => .ident name
  | .mark c joint => .mark c joint
  | .opening d => .opening d
  | .closing d => .closing d

/-- Tokens without the spellings of their literals. -/
def shape (tokens : List Token) : List Token := tokens.map Token.hollow

section

variable {rest : List Token}

@[simp] theorem shape_nil : shape [] = [] := rfl

@[simp] theorem shape_literal (spelling : String) :
    shape (.literal spelling :: rest) = .literal "" :: shape rest := rfl

@[simp] theorem shape_ident (name : String) :
    shape (.ident name :: rest) = .ident name :: shape rest := rfl

@[simp] theorem shape_mark (c : Char) (joint : Bool) :
    shape (.mark c joint :: rest) = .mark c joint :: shape rest := rfl

@[simp] theorem shape_opening (d : Delimiter) :
    shape (.opening d :: rest) = .opening d :: shape rest := rfl

@[simp] theorem shape_closing (d : Delimiter) :
    shape (.closing d :: rest) = .closing d :: shape rest := rfl

@[simp] theorem shape_append (a b : List Token) : shape (a ++ b) = shape a ++ shape b :=
  List.map_append

@[simp] theorem shape_flatMap {α : Type} (list : List α) (spell : α → List Token) :
    shape (list.flatMap spell) = list.flatMap fun a => shape (spell a) := List.map_flatMap ..

end

/-! ## Values of literals -/

/-- The value of a string literal that has no suffix. -/
def stringValue? (spelling : String) : Option String :=
  match readLiteral spelling.toList with
  | some (value, []) => some (String.ofList value)
  | _ => none

@[simp] theorem stringValue?_quote (text : String) : stringValue? (quote text) = some text := by
  have hread := readLiteral_quoted text.toList []
  rw [List.append_nil] at hread
  rw [stringValue?, quote, String.toList_ofList, hread]
  exact congrArg some String.ofList_toList

@[simp] theorem stringValue?_raw {text : String} (h : ∀ c ∈ text.toList, c ≠ '"' ∧ c ≠ '\r') :
    stringValue? ("r\"" ++ text ++ "\"") = some text := by
  have hshape : ("r\"" ++ text ++ "\"").toList = 'r' :: '"' :: (text.toList ++ '"' :: []) := by
    simp
  rw [stringValue?, hshape, readLiteral_raw text.toList [] h]
  exact congrArg some String.ofList_toList

/-- The values of all literals among some tokens, `none` for what is no string. -/
def literalValues (tokens : List Token) : List (Option String) :=
  tokens.filterMap fun
    | .literal spelling => some (stringValue? spelling)
    | _ => none

section

variable {rest : List Token}

@[simp] theorem literalValues_nil : literalValues [] = [] := rfl

@[simp] theorem literalValues_literal (spelling : String) :
    literalValues (.literal spelling :: rest) = stringValue? spelling :: literalValues rest := rfl

@[simp] theorem literalValues_ident (name : String) :
    literalValues (.ident name :: rest) = literalValues rest := rfl

@[simp] theorem literalValues_mark (c : Char) (joint : Bool) :
    literalValues (.mark c joint :: rest) = literalValues rest := rfl

@[simp] theorem literalValues_opening (d : Delimiter) :
    literalValues (.opening d :: rest) = literalValues rest := rfl

@[simp] theorem literalValues_closing (d : Delimiter) :
    literalValues (.closing d :: rest) = literalValues rest := rfl

@[simp] theorem literalValues_append (a b : List Token) :
    literalValues (a ++ b) = literalValues a ++ literalValues b := List.filterMap_append

@[simp] theorem literalValues_flatMap {α : Type} (list : List α) (spell : α → List Token) :
    literalValues (list.flatMap spell) = list.flatMap fun a => literalValues (spell a) :=
  List.filterMap_flatMap ..

end

@[simp] theorem literalValues_sign (text : String) : literalValues (Token.sign text) = [] := by
  have hgo : ∀ chars, literalValues (Token.sign.go chars) = [] := by
    intro chars
    induction chars with
    | nil => rfl
    | cons c chars ih =>
      cases chars with
      | nil => rfl
      | cons d chars => exact ih
  exact hgo text.toList

theorem literalValues_commaSeparated {parts : List (List Token)}
    (h : ∀ part ∈ parts, literalValues part = []) : literalValues (commaSeparated parts) = [] := by
  induction parts with
  | nil => rfl
  | cons part parts ih =>
    rw [List.forall_mem_cons] at h
    cases parts with
    | nil => rw [Reader.commaSeparated_singleton, h.1]
    | cons second parts =>
      rw [Reader.commaSeparated_cons, literalValues_append, h.1, literalValues_mark, ih h.2,
        List.append_nil]

end WireErrors.Source
