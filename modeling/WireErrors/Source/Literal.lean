import WireErrors.Text.Quoted

/-!
# Literals

The literal at the start of a text, its suffix included, and which kind of literal a spelling is.
Literals are kept as they are spelled: a reader gives the characters that it takes and the text that
follows them.
-/

namespace WireErrors.Source

open Text

/-- Puts characters in front of what was read. -/
def withChars (front : List Char) (r : List Char × List Char) : List Char × List Char :=
  (front ++ r.1, r.2)

/-- An identifier without `r#`, and what follows it. -/
def readPlainIdent : List Char → Option (List Char × List Char)
  | [] => none
  | c :: rest =>
    if isIdentStart c then
      some (c :: rest.takeWhile isIdentContinue, rest.dropWhile isIdentContinue)
    else none

/-- A literal with any suffix that follows it. -/
def withSuffix (literal : List Char × List Char) : List Char × List Char :=
  match readPlainIdent literal.2 with
  | some suffix => withChars literal.1 suffix
  | none => literal

/-! ## Characters -/

/-- The rest of the escape of a code point, some digits of which were read. -/
def readScalar (value digits : Nat) : List Char → Option (List Char × List Char)
  | [] => none
  | c :: rest =>
    if c = '}' && 0 < digits then (scalar? value).map fun _ => ([c], rest)
    else if c = '_' && 0 < digits then (readScalar value digits rest).map (withChar c)
    else
      match hexDigit? c with
      | some d =>
        if digits < 6 then (readScalar (16 * value + d) (digits + 1) rest).map (withChar c)
        else none
      | none => none

/-- Whether a character is an escape by itself after a backslash. -/
def isShortEscape (c : Char) : Bool := "nrt0\\'\"".toList.contains c

/-- The rest of a character literal, or of a byte literal, after its first apostrophe. -/
def readChar (isByte : Bool) : List Char → Option (List Char × List Char)
  | '\\' :: 'x' :: high :: low :: '\'' :: rest =>
    match hexDigit? high, hexDigit? low with
    | some h, some _ =>
      if isByte || h < 8 then some (['\\', 'x', high, low, '\''], rest) else none
    | _, _ => none
  | '\\' :: 'u' :: '{' :: rest =>
    if isByte then none
    else
      match readScalar 0 0 rest with
      | some (digits, '\'' :: after) => some (['\\', 'u', '{'] ++ digits ++ ['\''], after)
      | _ => none
  | '\\' :: c :: '\'' :: rest => if isShortEscape c then some (['\\', c, '\''], rest) else none
  | c :: '\'' :: rest =>
    if c = '\\' || isByte && 128 ≤ c.toNat then none else some ([c, '\''], rest)
  | _ => none

/-! ## Strings -/

/-- The rest of a byte string after its first quote. -/
def readBytes : List Char → Option (List Char × List Char)
  | [] => none
  | '"' :: rest => some (['"'], rest)
  | '\\' :: 'x' :: high :: low :: rest =>
    if (hexDigit? high).isSome && (hexDigit? low).isSome then
      (readBytes rest).map (withChars ['\\', 'x', high, low])
    else none
  | '\\' :: '\n' :: rest => (readBytes rest).map (withChars ['\\', '\n'])
  | '\\' :: '\r' :: '\n' :: rest => (readBytes rest).map (withChars ['\\', '\r', '\n'])
  | '\\' :: c :: rest =>
    if isShortEscape c then (readBytes rest).map (withChars ['\\', c]) else none
  | '\r' :: '\n' :: rest => (readBytes rest).map (withChars ['\r', '\n'])
  | c :: rest =>
    if c = '\\' || c = '\r' || 128 ≤ c.toNat then none else (readBytes rest).map (withChar c)

/-- Whether the escape of a code point that starts with the given digits is not that of NUL. -/
def isNonzeroScalar (text : List Char) : Bool :=
  (readScalar 0 0 text).any fun r => r.1.any fun c => c ∉ ['0', '_', '}']

/-- The rest of a C string after its first quote. No NUL stands in it, and other bytes need not form
characters. -/
def readCText : List Char → Option (List Char × List Char)
  | [] => none
  | '"' :: rest => some (['"'], rest)
  | '\\' :: 'x' :: high :: low :: rest =>
    match hexDigit? high, hexDigit? low with
    | some h, some l =>
      if h = 0 && l = 0 then none else (readCText rest).map (withChars ['\\', 'x', high, low])
    | _, _ => none
  | '\\' :: 'u' :: '{' :: rest =>
    if isNonzeroScalar rest then (readCText rest).map (withChars ['\\', 'u', '{']) else none
  | '\\' :: '\n' :: rest => (readCText rest).map (withChars ['\\', '\n'])
  | '\\' :: '\r' :: '\n' :: rest => (readCText rest).map (withChars ['\\', '\r', '\n'])
  | '\\' :: c :: rest =>
    if isShortEscape c && c != '0' then (readCText rest).map (withChars ['\\', c]) else none
  | '\r' :: '\n' :: rest => (readCText rest).map (withChars ['\r', '\n'])
  | c :: rest =>
    if c = '\\' || c = '\r' || c = '\x00' then none else (readCText rest).map (withChar c)

/-- A text up to the first quote that is not escaped, with that quote. -/
def throughQuote : List Char → List Char × List Char
  | [] => ([], [])
  | '"' :: rest => (['"'], rest)
  | '\\' :: c :: rest => withChars ['\\', c] (throughQuote rest)
  | c :: rest => withChar c (throughQuote rest)

/-- A string literal, raw or not, as it is spelled, if its value passes a test. -/
def readText (valid : List Char → Bool) (text : List Char) : Option (List Char × List Char) :=
  match text, readLiteral text with
  | '"' :: inside, some (value, _) =>
    if valid value then some (withChar '"' (throughQuote inside)) else none
  | 'r' :: inside, some (value, rest) =>
    let hashes := inside.takeWhile (· == '#')
    if valid value then some ('r' :: hashes ++ '"' :: value ++ '"' :: hashes, rest) else none
  | _, _ => none

/-! ## Numbers -/

/-- A number with its suffix; no other character of a name may follow. -/
def suffixed (number : List Char × List Char) : Option (List Char × List Char) :=
  let whole := withSuffix number
  if whole.2.head?.any isIdentContinue then none else some whole

/-- The digits of a whole number; `empty` until the first digit. -/
def readDigits (base : Nat) (empty : Bool) : List Char → Option (List Char × List Char)
  | [] => if empty then none else some ([], [])
  | c :: rest =>
    if c = '_' then
      if empty && base = 10 then none else (readDigits base empty rest).map (withChar c)
    else
      match hexDigit? c with
      | some d =>
        if d < base then (readDigits base false rest).map (withChar c)
        else if empty || c.isDigit then none else some ([], c :: rest)
      | none => if empty then none else some ([], c :: rest)

/-- A whole number in one of the four bases. -/
def readWhole : List Char → Option (List Char × List Char)
  | '0' :: 'x' :: rest => (readDigits 16 true rest).map (withChars ['0', 'x'])
  | '0' :: 'o' :: rest => (readDigits 8 true rest).map (withChars ['0', 'o'])
  | '0' :: 'b' :: rest => (readDigits 2 true rest).map (withChars ['0', 'b'])
  | text => readDigits 10 true text

/-- The rest of an exponent after its letter, if it has a digit. -/
def readExponent (signed valued : Bool) : List Char → Option (List Char × List Char)
  | [] => if valued then some ([], []) else none
  | c :: rest =>
    if c.isDigit then (readExponent signed true rest).map (withChar c)
    else if c = '_' then (readExponent signed valued rest).map (withChar c)
    else if valued then some ([], c :: rest)
    else if (c = '+' || c = '-') && !signed then (readExponent true false rest).map (withChar c)
    else none

def isDigitOrUnderscore (c : Char) : Bool := c.isDigit || c = '_'

def isExponentLetter (c : Char) : Bool := c = 'e' || c = 'E'

/-- The exponent at the start of a text, if one stands there. -/
def readAnyExponent : List Char → List Char × List Char
  | [] => ([], [])
  | c :: rest =>
    if isExponentLetter c then
      ((readExponent false false rest).map (withChar c)).getD ([], c :: rest)
    else ([], c :: rest)

/-- A number that has a point or an exponent. A point before another point or a name belongs to what
follows. -/
def readFloat (text : List Char) : Option (List Char × List Char) :=
  let digits := text.takeWhile isDigitOrUnderscore
  match text.dropWhile isDigitOrUnderscore with
  | [] => none
  | '.' :: rest =>
    if rest.head?.any fun c => c = '.' || isIdentStart c then none
    else
      let places := rest.takeWhile isDigitOrUnderscore
      some (withChars (digits ++ '.' :: places)
        (readAnyExponent (rest.dropWhile isDigitOrUnderscore)))
  | c :: rest =>
    if isExponentLetter c then (readExponent false false rest).map (withChars (digits ++ [c]))
    else none

/-! ## All literals -/

/-- The spelling of what stands for a literal that could not be formed, after its first
character. -/
def malformed : List Char := "/*ERROR*/)".toList

/-- The literal at the start of a text, if one stands there, and what follows it. -/
def readSpelled : List Char → Option (List Char × List Char)
  | [] => none
  | '(' :: rest =>
    if malformed.isPrefixOf rest then some ('(' :: malformed, rest.drop malformed.length) else none
  | '\'' :: rest => (readChar false rest).map fun r => withSuffix (withChar '\'' r)
  | 'b' :: '\'' :: rest => (readChar true rest).map fun r => withSuffix (withChars ['b', '\''] r)
  | 'b' :: '"' :: rest => (readBytes rest).map fun r => withSuffix (withChars ['b', '"'] r)
  | 'b' :: 'r' :: rest =>
    (readText (fun value => value.all fun c => c.toNat < 128) ('r' :: rest)).map fun r =>
      withSuffix (withChar 'b' r)
  | 'c' :: '"' :: rest => (readCText rest).map fun r => withSuffix (withChars ['c', '"'] r)
  | 'c' :: 'r' :: rest =>
    (readText (fun value => !value.contains '\x00') ('r' :: rest)).map fun r =>
      withSuffix (withChar 'c' r)
  | c :: rest =>
    if c.isDigit then
      ((readFloat (c :: rest)).bind suffixed).orElse fun _ => (readWhole (c :: rest)).bind suffixed
    else (readText (fun _ => true) (c :: rest)).map withSuffix

inductive LiteralKind where
  | text
  | bytes
  | cText
  | byte
  | char
  | whole
  | float
  /-- What stands for a literal that could not be formed. -/
  | malformed
deriving DecidableEq, Repr

/-- Whether what follows the letter of an exponent makes it one; `valued` after a digit. -/
def isExponent (valued : Bool) : List Char → Bool
  | [] => valued
  | c :: rest =>
    if c = '_' then isExponent valued rest
    else if c.isDigit then isExponent true rest
    else c = '+' || c = '-' || valued

/-- The value and the suffix of a number after some of its digits, unless it has a point or an
exponent. -/
def wholeValue (base value : Nat) : List Char → Option (Nat × List Char)
  | [] => some (value, [])
  | c :: rest =>
    if c = '_' then wholeValue base value rest
    else if base = 10 && (c = '.' || isExponentLetter c && isExponent false rest) then none
    else
      match hexDigit? c with
      | some d =>
        if d < base then wholeValue base (base * value + d) rest else some (value, c :: rest)
      | none => some (value, c :: rest)

/-- The value and the suffix of a number, if it is spelled as a whole one. -/
def wholeNumber? : List Char → Option (Nat × List Char)
  | '0' :: 'x' :: rest => wholeValue 16 0 rest
  | '0' :: 'o' :: rest => wholeValue 8 0 rest
  | '0' :: 'b' :: rest => wholeValue 2 0 rest
  | text => wholeValue 10 0 text

/-- The kind of a literal, by its spelling. -/
def literalKind (spelling : String) : LiteralKind :=
  match spelling.toList with
  | '"' :: _ | 'r' :: _ => .text
  | '\'' :: _ => .char
  | 'b' :: '\'' :: _ => .byte
  | 'b' :: _ => .bytes
  | 'c' :: _ => .cText
  | '(' :: _ => .malformed
  | number => if (wholeNumber? number).isSome then .whole else .float

end WireErrors.Source
