import WireErrors.Text.Quoted

/-!
# Tokens of Rust source text

Source text is handled as a flat list of tokens in which delimiters are tokens of their own.
`render` is the only place where tokens become text: one blank between two tokens, none after a
mark that is joined to the next one and none on the inner side of `()` and `[]`.
-/

namespace WireErrors.Source

inductive Delimiter where
  | paren
  | bracket
  | brace
deriving DecidableEq, Repr

inductive Token where
  /-- An identifier or keyword, a raw identifier with its `r#`. -/
  | ident (name : String)
  /-- A punctuation character; `joint` when it forms one sign with the character after it. -/
  | mark (char : Char) (joint : Bool)
  /-- A literal as it is spelled. -/
  | literal (text : String)
  | opening (delimiter : Delimiter)
  | closing (delimiter : Delimiter)
deriving DecidableEq, Repr

namespace Token

/-! ## Building token lists -/

/-- A sign of one or more punctuation characters. -/
def sign (text : String) : List Token := go text.toList
where
  go : List Char → List Token
    | [] => []
    | [c] => [mark c false]
    | c :: rest => mark c true :: go rest

/-- A lifetime, given without its apostrophe. -/
def lifetime (name : String) : List Token := [mark '\'' true, ident name]

def group (delimiter : Delimiter) (body : List Token) : List Token :=
  opening delimiter :: body ++ [closing delimiter]

/-- Names separated by `::`. -/
def path (segments : List String) : List Token :=
  List.intercalate (sign "::") (segments.map fun name => [ident name])

/-- A string literal with the given value. -/
def text (value : String) : Token := literal (Text.quote value)

/-! ## Text -/

def openingChar : Delimiter → Char
  | .paren => '('
  | .bracket => '['
  | .brace => '{'

def closingChar : Delimiter → Char
  | .paren => ')'
  | .bracket => ']'
  | .brace => '}'

def chars : Token → List Char
  | ident name => name.toList
  | mark c _ => [c]
  | literal text => text.toList
  | opening d => [openingChar d]
  | closing d => [closingChar d]

/-- Whether two adjacent tokens are written without a blank between them. -/
def touches : Token → Token → Bool
  | mark _ true, _ => true
  | opening .paren, _ => true
  | opening .bracket, _ => true
  | _, closing .paren => true
  | _, closing .bracket => true
  | _, _ => false

def renderChars : List Token → List Char
  | [] => []
  | [t] => t.chars
  | t :: u :: rest => t.chars ++ (if touches t u then [] else [' ']) ++ renderChars (u :: rest)

/-- The text of a list of tokens. -/
def render (tokens : List Token) : String := String.ofList (renderChars tokens)

end Token

end WireErrors.Source
