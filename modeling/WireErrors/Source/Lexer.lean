import WireErrors.Source.Literal
import WireErrors.Source.Token

/-!
# Reading tokens

`read` turns source text into tokens. Blank space and plain comments are dropped, a documentation
comment becomes the attribute that it stands for, and the delimiters must be balanced.
-/

namespace WireErrors.Source

open Text

/-! ## Blank space and comments -/

/-- Whether a character separates tokens. -/
def isSpace (c : Char) : Bool := isBlank c || c == '\u200e' || c == '\u200f'

/-- The rest of a line, and the text from its line break on. -/
def lineEnd : List Char → List Char × List Char
  | [] => ([], [])
  | '\r' :: '\n' :: rest => ([], '\n' :: rest)
  | c :: rest => if c = '\n' then ([], c :: rest) else withChar c (lineEnd rest)

/-- The inside of a block comment up to the end that closes it; `depth` further comments are open
inside it. -/
def blockEnd (depth : Nat) : List Char → Option (List Char × List Char)
  | [] => none
  | '/' :: '*' :: rest =>
    (blockEnd (depth + 1) rest).map fun r => withChar '/' (withChar '*' r)
  | '*' :: '/' :: rest =>
    match depth with
    | 0 => some ([], rest)
    | depth + 1 => (blockEnd depth rest).map fun r => withChar '*' (withChar '/' r)
  | c :: rest => (blockEnd depth rest).map (withChar c)

/-- Whether every carriage return is followed by a line feed. -/
def noBareReturn : List Char → Bool
  | [] => true
  | '\r' :: '\n' :: rest => noBareReturn rest
  | c :: rest => c != '\r' && noBareReturn rest

/-- The attribute that a documentation comment stands for. -/
def docTokens (inner : Bool) (text : List Char) : List Token :=
  Token.mark '#' false :: (if inner then [Token.mark '!' false] else []) ++
    Token.group .bracket
      [.ident "doc", .mark '=' false, .literal (String.ofList (quoted text))]

/-- The attribute of a documentation comment with the given text, and what follows it. -/
def docComment (inner : Bool) : List Char × List Char → Option (List Token × List Char)
  | (text, rest) => if noBareReturn text then some (docTokens inner text, rest) else none

/-- The tokens that a comment stands for, and what follows it; the text starts after the first two
characters of the comment, which are given. -/
def readComment : Char → List Char → Option (List Token × List Char)
  | '/', '/' :: '/' :: rest => some ([], (lineEnd rest).2)
  | '/', '/' :: rest => docComment false (lineEnd rest)
  | '/', '!' :: rest => docComment true (lineEnd rest)
  | '/', rest => some ([], (lineEnd rest).2)
  | _, '*' :: '/' :: rest => some ([], rest)
  | _, '*' :: '*' :: rest => (blockEnd 0 ('*' :: '*' :: rest)).map fun r => ([], r.2)
  | _, '*' :: rest => (blockEnd 0 ('*' :: rest)).bind fun r => docComment false (r.1.drop 1, r.2)
  | _, '!' :: rest => (blockEnd 0 rest).bind (docComment true)
  | _, rest => (blockEnd 0 rest).map fun r => ([], r.2)

/-! ## Single tokens -/

/-- Characters that can be punctuation. -/
def isMark (c : Char) : Bool := "~!@#$%^&*-=+|;:,<.>/?'".toList.contains c

/-- Whether a text starts with a mark and not with a comment. -/
def startsMark : List Char → Bool
  | '/' :: '/' :: _ => false
  | '/' :: '*' :: _ => false
  | c :: _ => isMark c
  | [] => false

/-- Names that have no raw form. -/
def neverRaw : List String := ["_", "super", "self", "Self", "crate"]

/-- An identifier, raw or not, and what follows it. -/
def readIdent : List Char → Option (List Char × List Char)
  | 'r' :: '#' :: rest =>
    match readPlainIdent rest with
    | some (name, rest') =>
      if neverRaw.contains (String.ofList name) then none else some ('r' :: '#' :: name, rest')
    | none => none
  | text => readPlainIdent text

/-- The apostrophe of a lifetime: a name has to follow, and then no further apostrophe. -/
def readApostrophe (rest : List Char) : Option (List Token × List Char) :=
  match readIdent rest with
  | none => none
  | some (_, '\'' :: _) => none
  | some (_, '#' :: _) => if rest.take 2 == ['r', '#'] then some ([.mark '\'' true], rest) else none
  | some _ => some ([.mark '\'' true], rest)

/-- What an identifier cannot start with, because a literal would. -/
def literalStarts : List (List Char) :=
  ["r\"", "r#\"", "r##", "b\"", "b'", "br\"", "br#", "c\"", "cr\"", "cr#"].map String.toList

/-- The token of an identifier, and what follows it. -/
def readIdentToken (text : List Char) : Option (List Token × List Char) :=
  if literalStarts.any fun start => start.isPrefixOf text then none
  else (readIdent text).map fun r => ([.ident (String.ofList r.1)], r.2)

def delimiterToken? (c : Char) : Option Token :=
  if c = '(' then some (.opening .paren)
  else if c = '[' then some (.opening .bracket)
  else if c = '{' then some (.opening .brace)
  else if c = ')' then some (.closing .paren)
  else if c = ']' then some (.closing .bracket)
  else if c = '}' then some (.closing .brace)
  else none

/-- The token that starts with a character, and what follows it. -/
def readToken (c : Char) (rest : List Char) : Option (List Token × List Char) :=
  match readSpelled (c :: rest) with
  | some (spelling, after) => some ([.literal (String.ofList spelling)], after)
  | none =>
    match delimiterToken? c with
    | some t => some ([t], rest)
    | none =>
      if c = '\'' then readApostrophe rest
      else if isMark c then some ([.mark c (startsMark rest)], rest)
      else readIdentToken (c :: rest)

/-! ## Whole texts -/

/-- One token, comment or blank character at the start of a text, and what follows it. -/
def readStep : List Char → Option (List Token × List Char)
  | [] => some ([], [])
  | '/' :: '/' :: rest => readComment '/' rest
  | '/' :: '*' :: rest => readComment '*' rest
  | c :: rest => if isSpace c then some ([], rest) else readToken c rest

/-- Reads step by step; a text has at most as many steps as characters. -/
def readSteps : Nat → List Char → Option (List Token)
  | _, [] => some []
  | 0, _ :: _ => none
  | fuel + 1, c :: rest =>
    match readStep (c :: rest) with
    | some (tokens, rest') => (readSteps fuel rest').map (tokens ++ ·)
    | none => none

/-- Whether every closing delimiter closes the last one left open, and none stays open. -/
def balanced : List Delimiter → List Token → Bool
  | stack, [] => stack.isEmpty
  | stack, .opening d :: rest => balanced (d :: stack) rest
  | d :: stack, .closing e :: rest => d == e && balanced stack rest
  | [], .closing _ :: _ => false
  | stack, _ :: rest => balanced stack rest

/-- A text without one byte order mark at its start. -/
def withoutByteOrderMark : List Char → List Char
  | '\ufeff' :: rest => rest
  | text => text

/-- The tokens of a text, if it consists of tokens. -/
def readChars (text : List Char) : Option (List Token) :=
  let text := withoutByteOrderMark text
  match readSteps text.length text with
  | some tokens => if balanced [] tokens then some tokens else none
  | none => none

def read (text : String) : Option (List Token) := readChars text.toList

end WireErrors.Source
