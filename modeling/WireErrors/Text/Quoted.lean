import WireErrors.Text.Classes

/-!
# Quoted text

`escape` writes a text as the inside of a string literal and `readString` reads it back up to the
closing quote. `inspect` is the quoted form used in diagnostics, where a NUL has one spelling only.
-/

namespace WireErrors.Text

/-! ## Writing -/

/-- A code point in lower-case hexadecimal digits between braces. -/
def scalarEscape (c : Char) : List Char :=
  ['\\', 'u', '{'] ++ Nat.toDigits 16 c.toNat ++ ['}']

/-- A character of a quoted text, NUL included. -/
def escapeChar (c : Char) : List Char :=
  if c = '\x00' then ['\\', '0']
  else if c = '\t' then ['\\', 't']
  else if c = '\r' then ['\\', 'r']
  else if c = '\n' then ['\\', 'n']
  else if c = '\\' then ['\\', '\\']
  else if c = '"' then ['\\', '"']
  else if isGraphemeExtend c || !isPrintable c then scalarEscape c
  else [c]

/-- Whether a text starts with an octal digit, so that a NUL before it needs its long spelling. -/
def startsOctal : List Char → Bool
  | c :: _ => '0' ≤ c && c ≤ '7'
  | [] => false

/-- The inside of a string literal. -/
def escape : List Char → List Char
  | [] => []
  | c :: rest =>
    (if c = '\x00' && startsOctal rest then ['\\', 'x', '0', '0'] else escapeChar c) ++ escape rest

def quoted (text : List Char) : List Char := '"' :: escape text ++ ['"']

/-- A string literal with the given value. -/
def quote (text : String) : String := String.ofList (quoted text.toList)

/-- The form of a text in diagnostics. -/
def inspect (text : String) : String :=
  String.ofList ('"' :: text.toList.flatMap escapeChar ++ ['"'])

/-! ## Reading -/

def hexDigit? (c : Char) : Option Nat :=
  if '0' ≤ c && c ≤ '9' then some (c.toNat - '0'.toNat)
  else if 'a' ≤ c && c ≤ 'f' then some (c.toNat - 'a'.toNat + 10)
  else if 'A' ≤ c && c ≤ 'F' then some (c.toNat - 'A'.toNat + 10)
  else none

/-- The character with a code point, if it is a Unicode scalar value. -/
def scalar? (n : Nat) : Option Char := if n.isValidChar then some (Char.ofNat n) else none

/-- Where a reader stands inside a string literal. -/
inductive StringState where
  /-- Between characters; `skipping` the blank that follows a line ended by a backslash. -/
  | plain (skipping : Bool)
  /-- Between the braces of a code point escape, after some digits. -/
  | scalar (value digits : Nat)

/-- Puts a character in front of a value read. -/
def withChar (c : Char) (r : List Char × List Char) : List Char × List Char := (c :: r.1, r.2)

/-- The value of a string literal up to its closing quote, and the text after the quote. -/
def readString : StringState → List Char → Option (List Char × List Char)
  | _, [] => none
  | .plain _, '"' :: rest => some ([], rest)
  | .plain _, '\\' :: 'n' :: rest => (readString (.plain false) rest).map (withChar '\n')
  | .plain _, '\\' :: 'r' :: rest => (readString (.plain false) rest).map (withChar '\r')
  | .plain _, '\\' :: 't' :: rest => (readString (.plain false) rest).map (withChar '\t')
  | .plain _, '\\' :: '0' :: rest => (readString (.plain false) rest).map (withChar '\x00')
  | .plain _, '\\' :: '\\' :: rest => (readString (.plain false) rest).map (withChar '\\')
  | .plain _, '\\' :: '\'' :: rest => (readString (.plain false) rest).map (withChar '\'')
  | .plain _, '\\' :: '"' :: rest => (readString (.plain false) rest).map (withChar '"')
  | .plain _, '\\' :: 'x' :: high :: low :: rest =>
    match hexDigit? high, hexDigit? low with
    | some h, some l =>
      if h < 8 then (readString (.plain false) rest).map (withChar (Char.ofNat (16 * h + l)))
      else none
    | _, _ => none
  | .plain _, '\\' :: 'u' :: '{' :: rest => readString (.scalar 0 0) rest
  | .plain _, '\\' :: '\n' :: rest => readString (.plain true) rest
  | .plain _, '\\' :: '\r' :: '\n' :: rest => readString (.plain true) rest
  | .plain skipping, '\r' :: '\n' :: rest =>
    if skipping then readString (.plain true) rest
    else (readString (.plain false) rest).map (withChar '\n')
  | .plain skipping, c :: rest =>
    if c = '\\' || c = '\r' then none
    else if skipping && (c = ' ' || c = '\t' || c = '\n') then readString (.plain true) rest
    else (readString (.plain false) rest).map (withChar c)
  | .scalar value digits, c :: rest =>
    if c = '}' && 0 < digits then
      (scalar? value).bind fun d => (readString (.plain false) rest).map (withChar d)
    else if c = '_' && 0 < digits then readString (.scalar value digits) rest
    else
      match hexDigit? c with
      | some d =>
        if digits < 6 then readString (.scalar (16 * value + d) (digits + 1)) rest else none
      | none => none

/-- The text of a raw string up to a quote with as many number signs as given, and the text after
them. -/
def readRaw (hashes : Nat) : List Char → Option (List Char × List Char)
  | [] => none
  | '\r' :: '\n' :: rest => (readRaw hashes rest).map fun r => withChar '\r' (withChar '\n' r)
  | c :: rest =>
    if c = '\r' then none
    else if c = '"' && rest.take hashes == List.replicate hashes '#' then
      some ([], rest.drop hashes)
    else (readRaw hashes rest).map (withChar c)

/-- How many number signs may stand on each side of a raw string. -/
def maximalHashes : Nat := 255

/-- A string literal, raw or not, at the start of a text: its value and what follows it. -/
def readLiteral : List Char → Option (List Char × List Char)
  | '"' :: rest => readString (.plain false) rest
  | 'r' :: rest =>
    let hashes := (rest.takeWhile (· == '#')).length
    match rest.drop hashes with
    | '"' :: body => if maximalHashes < hashes then none else readRaw hashes body
    | _ => none
  | _ => none

/-- The value of a string literal, which may have a suffix. -/
def literalValue? (text : String) : Option String :=
  (readLiteral text.toList).map fun r => String.ofList r.1

end WireErrors.Text
