import WireErrors.Source.Lexer

/-!
# Identifiers and paths

`isIdentifier` and `Path.ofText?` read a text by its tokens, so blank space and comments around
them are accepted. `isSpelled` asks whether the text itself is an identifier, keywords included:
that is what can be placed into source text as it stands.
-/

namespace WireErrors.Source

open Text

/-- Words that are no identifiers, those reserved for later use and the blank pattern included. -/
def keywords : List String :=
  ["_", "abstract", "as", "async", "await", "become", "box", "break", "const", "continue", "crate",
   "do", "dyn", "else", "enum", "extern", "false", "final", "fn", "for", "if", "impl", "in", "let",
   "loop", "macro", "match", "mod", "move", "mut", "override", "priv", "pub", "ref", "return",
   "Self", "self", "static", "struct", "super", "trait", "true", "try", "type", "typeof", "unsafe",
   "unsized", "use", "virtual", "where", "while", "yield"]

def isKeyword (name : String) : Bool := keywords.contains name

/-- Whether a text reads as exactly one identifier that is no keyword. -/
def isIdentifier (text : String) : Bool :=
  match read text with
  | some [.ident name] => !isKeyword name
  | _ => false

/-- Whether the characters of a text are those of one identifier or keyword. -/
def isPlainSpelling : List Char → Bool
  | [] => false
  | c :: rest => isIdentStart c && rest.all isIdentContinue

/-- Whether a text can stand in source text as one identifier or keyword. -/
def isSpelled (text : String) : Bool :=
  match text.toList with
  | 'r' :: '#' :: name => isPlainSpelling name && !neverRaw.contains (String.ofList name)
  | name => isPlainSpelling name

/-! ## Paths -/

/-- Names separated by `::`, with `::` in front if the path is absolute. -/
structure Path where
  absolute : Bool
  segments : List String
deriving DecidableEq, Repr

/-- Keywords that may stand in a path. -/
def pathKeywords : List String := ["super", "self", "crate", "try", "Self"]

def isSegment (name : String) : Bool := pathKeywords.contains name || !isKeyword name

/-- The segments of a list of tokens that is a path without `::` in front. -/
def segments? : List Token → Option (List String)
  | [.ident name] => if isSegment name then some [name] else none
  | .ident name :: .mark ':' true :: .mark ':' _ :: rest =>
    if isSegment name then (segments? rest).map (name :: ·) else none
  | _ => none

def Path.ofTokens? : List Token → Option Path
  | .mark ':' true :: .mark ':' _ :: rest => (segments? rest).map fun names => ⟨true, names⟩
  | tokens => (segments? tokens).map fun names => ⟨false, names⟩

/-- The path that a text reads as, if it is a path without arguments. -/
def Path.ofText? (text : String) : Option Path := (read text).bind Path.ofTokens?

def Path.tokens (path : Path) : List Token :=
  (if path.absolute then Token.sign "::" else []) ++ Token.path path.segments

end WireErrors.Source
