import WireErrors.Source.Identifier
import WireErrors.Source.Literal

/-!
# Readers

A reader takes tokens from the front of a list or refuses with the reason why it cannot. Here are
readers for single tokens, sequences and plain paths. A reader is told how many rounds a loop may
have: every round takes a token, so that the number of all tokens and one more are enough.

Tokens left over in front of a closing delimiter are skipped, and the file is refused for the first
of them when nothing else is wrong with it.
-/

namespace WireErrors.Source

/-! ## Refusals -/

/-- What can be asked for at a place. -/
inductive Alternative where
  | word (text : String)
  | sign (text : String)
  | name
  | lifetime
  | literal
  | string
  | group (delimiter : Delimiter)
  | anyGroup
deriving DecidableEq, Repr

def Alternative.title : Alternative → String
  | word text | sign text => "`" ++ text ++ "`"
  | name => "identifier"
  | lifetime => "lifetime"
  | literal => "literal"
  | string => "string literal"
  | group .paren => "parentheses"
  | group .bracket => "square brackets"
  | group .brace => "curly braces"
  | anyGroup => "delimiter"

/-- Why a text is not read as a file. -/
inductive SyntaxError where
  /-- The text does not consist of tokens. -/
  | unreadable
  /-- None of the alternatives stands where reading stopped; `atEnd` if nothing stands there. -/
  | expected (atEnd : Bool) (alternatives : List Alternative)
  /-- Something else is wrong with the token where reading stopped. -/
  | unexpected (atEnd : Bool) (text : String)
  /-- The bound on the depth or the rounds of reading was reached. -/
  | tooDeep
deriving DecidableEq, Repr

def SyntaxError.message : SyntaxError → String
  | .unreadable => "cannot parse string into token stream"
  | .expected true [] => "unexpected end of input"
  | .expected false [] => "unexpected token"
  | .expected atEnd [a] => lead atEnd ++ "expected " ++ a.title
  | .expected atEnd [a, b] => lead atEnd ++ "expected " ++ a.title ++ " or " ++ b.title
  | .expected atEnd alternatives =>
    lead atEnd ++ "expected one of: " ++ ", ".intercalate (alternatives.map Alternative.title)
  | .unexpected atEnd text => lead atEnd ++ text
  | .tooDeep => "nested too deeply"
where
  lead (atEnd : Bool) : String := if atEnd then "unexpected end of input, " else ""

/-- The first state are the tokens left; the second one is the delimiter in front of which tokens
were left over first. -/
abbrev Reader := ReaderT Nat (StateT (List Token) (StateT (Option Delimiter) (Except SyntaxError)))

/-! ## Looking ahead -/

/-- Whether nothing is left inside the delimiters around the place. -/
def isEnd : List Token → Bool
  | [] => true
  | .closing _ :: _ => true
  | _ => false

/-- What is left after a sign at the front. -/
def afterSign? : List Char → List Token → Option (List Token)
  | [], tokens => some tokens
  | [c], .mark d _ :: rest => if c = d then some rest else none
  | c :: more, .mark d true :: rest => if c = d then afterSign? more rest else none
  | _, _ => none

def startsWith (text : String) (tokens : List Token) : Bool :=
  (afterSign? text.toList tokens).isSome

def startsWithWord (text : String) : List Token → Bool
  | .ident name :: _ => name == text
  | _ => false

def startsWithAnyWord (words : List String) (tokens : List Token) : Bool :=
  words.any fun word => startsWithWord word tokens

def startsWithOpening (delimiter : Delimiter) : List Token → Bool
  | .opening d :: _ => d == delimiter
  | _ => false

def startsWithName : List Token → Bool
  | .ident name :: _ => !isKeyword name
  | _ => false

def startsWithLifetime : List Token → Bool
  | .mark '\'' true :: .ident _ :: _ => true
  | _ => false

/-- Whether the spelling of a literal is that of a number. -/
def isNumber (spelling : String) : Bool :=
  literalKind spelling == .whole || literalKind spelling == .float

/-- The spelling of the literal at the front, truth values and negative numbers included, and what
follows it. -/
def literal? : List Token → Option (String × List Token)
  | .literal text :: rest => some (text, rest)
  | .ident word :: rest => if word == "true" || word == "false" then some (word, rest) else none
  | .mark '-' _ :: .literal text :: rest => if isNumber text then some ("-" ++ text, rest) else none
  | _ => none

def startsWithLiteral (tokens : List Token) : Bool := (literal? tokens).isSome

def startsWithText : List Token → Bool
  | .literal text :: _ => literalKind text == .text
  | _ => false

/-- Whether an alternative stands at the front. -/
def Alternative.stands (tokens : List Token) : Alternative → Bool
  | word text => startsWithWord text tokens
  | sign text => startsWith text tokens
  | name => startsWithName tokens
  | lifetime => startsWithLifetime tokens
  | literal => startsWithLiteral tokens
  | string => startsWithText tokens
  | group delimiter => startsWithOpening delimiter tokens
  | anyGroup => [Delimiter.paren, .bracket, .brace].any fun d => startsWithOpening d tokens

/-- What is left after the end of what stands between delimiters. -/
def afterClosing : Nat → List Token → List Token
  | _, [] => []
  | 0, .closing _ :: rest => rest
  | depth + 1, .closing _ :: rest => afterClosing depth rest
  | depth, .opening _ :: rest => afterClosing (depth + 1) rest
  | depth, _ :: rest => afterClosing depth rest

/-- The tokens up to the end of what stands between delimiters, and what follows the end. -/
def untilClosing : Nat → List Token → List Token × List Token
  | _, [] => ([], [])
  | depth, .opening d :: rest =>
    let (inside, after) := untilClosing (depth + 1) rest
    (.opening d :: inside, after)
  | 0, .closing _ :: rest => ([], rest)
  | depth + 1, .closing d :: rest =>
    let (inside, after) := untilClosing depth rest
    (.closing d :: inside, after)
  | depth, t :: rest =>
    let (inside, after) := untilClosing depth rest
    (t :: inside, after)

/-- What is left after the token, lifetime or delimited tokens at the front. -/
def afterOne : List Token → List Token
  | .opening _ :: rest => afterClosing 0 rest
  | .mark '\'' true :: .ident _ :: rest => rest
  | _ :: rest => rest
  | [] => []

namespace Reader

variable {α β : Type}

/-- How many rounds a loop may have. -/
def limit : Reader Nat := ReaderT.read

def peek (test : List Token → Bool) : Reader Bool := return test (← get)

/-! ## Refusing -/

/-- Refuses for missing alternatives; one that stands here, where something after it made it
unfit, is not among them. -/
def expected (alternatives : List Alternative) : Reader α := do
  let tokens ← get
  throw (.expected (isEnd tokens) (alternatives.filter fun a => !a.stands tokens))

/-- Refuses the token where reading stands for another reason. -/
def wrong (text : String) : Reader α := do
  throw (.unexpected (isEnd (← get)) text)

/-- Refuses for a missing mark, whether or not something stands in its place. -/
def expectedMark (text : String) : Reader α := throw (.expected false [.sign text])

def tooDeep : Reader α := throw .tooDeep

/-- Reads what a reader reads, or nothing where it refuses. -/
def attempt (reader : Reader α) : Reader (Option α) := fun rounds tokens surplus =>
  match reader rounds tokens surplus with
  | .ok ((a, rest), surplus) => .ok ((some a, rest), surplus)
  | .error .tooDeep => .error .tooDeep
  | .error _ => .ok ((none, tokens), surplus)

/-! ## Single tokens -/

/-- Takes a sign if it is there. -/
def sign? (text : String) : Reader Bool := do
  match afterSign? text.toList (← get) with
  | some rest => set rest; return true
  | none => return false

def sign (text : String) : Reader Unit := do
  if !(← sign? text) then expectedMark text

/-- Takes a word if it is there. -/
def word? (text : String) : Reader Bool := do
  match ← get with
  | .ident name :: rest => if name == text then set rest; return true else return false
  | _ => return false

def word (text : String) : Reader Unit := do
  if !(← word? text) then expected [.word text]

/-- An identifier. -/
def name : Reader String := do
  match ← get with
  | .ident name :: rest =>
    if isKeyword name then
      throw (.unexpected false ("expected identifier, found keyword `" ++ name ++ "`"))
    set rest
    return name
  | _ => expected [.name]

/-- An identifier, or one of some keywords. -/
def nameOr (keywords : List String) : Reader String := do
  match ← get with
  | .ident word :: rest =>
    if keywords.contains word then
      set rest
      return word
    else name
  | _ => name

/-- A lifetime if one is there. -/
def lifetime? : Reader (Option String) := do
  match ← get with
  | .mark '\'' true :: .ident name :: rest =>
    set rest
    return some name
  | _ => return none

def lifetime : Reader String := do
  match ← lifetime? with
  | some name => return name
  | none => expected [.lifetime]

/-- The spelling of a literal, a truth value or negative number included. -/
def literal : Reader String := do
  match literal? (← get) with
  | some (text, rest) => set rest; return text
  | none => expected [.literal]

/-! ## Delimiters -/

def opening (delimiter : Delimiter) : Reader Unit := do
  match ← get with
  | .opening d :: rest =>
    if d == delimiter then set rest else expected [.group delimiter]
  | _ => expected [.group delimiter]

/-- Notes the delimiter in front of which tokens were left over, if there were any. -/
def noteSurplus (found : Option Delimiter) : Reader Unit :=
  modifyThe (Option Delimiter) fun surplus => surplus.or found

/-- The end of what stands between delimiters, with any tokens left in front of it, which are for
the caller to note. -/
def closingUnnoted (delimiter : Delimiter) : Reader (Option Delimiter) := do
  match ← get with
  | .closing _ :: rest =>
    set rest
    return none
  | tokens =>
    set (afterClosing 0 tokens)
    return some delimiter

/-- The end of what stands between delimiters, with any tokens left in front of it. -/
def closing (delimiter : Delimiter) : Reader Unit := do
  noteSurplus (← closingUnnoted delimiter)

/-- The refusal for tokens left over in front of a closing delimiter. -/
def surplusError (delimiter : Delimiter) : SyntaxError :=
  .unexpected false
    ("unexpected token, expected `" ++ String.ofList [Token.closingChar delimiter] ++ "`")

/-- Takes everything up to the end of what stands between delimiters, with the end. -/
def inside : Reader (List Token) := do
  let (inside, after) := untilClosing 0 (← get)
  set after
  return inside

/-- Tokens between delimiters of any kind. -/
def delimited : Reader (Delimiter × List Token) := do
  match ← get with
  | .opening d :: rest =>
    set rest
    return (d, ← inside)
  | _ => expected [.anyGroup]

/-! ## Sequences -/

/-- At most `rounds` elements separated by commas up to a closing delimiter, which is taken too; a
comma may follow the last element. -/
def commaRounds (delimiter : Delimiter) (element : Reader α) : Nat → Reader (List α)
  | 0 => tooDeep
  | rounds + 1 => do
    if ← peek isEnd then
      closing delimiter
      return []
    let first ← element
    if ← peek isEnd then
      closing delimiter
      return [first]
    sign ","
    return first :: (← commaRounds delimiter element rounds)

def commaList (delimiter : Delimiter) (element : Reader α) : Reader (List α) := do
  commaRounds delimiter element (← limit)

/-- At most `rounds` elements without separators up to a closing delimiter, which is taken too. -/
def upToRounds (delimiter : Delimiter) (element : Reader α) : Nat → Reader (List α)
  | 0 => tooDeep
  | rounds + 1 => do
    if ← peek isEnd then
      closing delimiter
      return []
    let first ← element
    return first :: (← upToRounds delimiter element rounds)

def upTo (delimiter : Delimiter) (element : Reader α) : Reader (List α) := do
  upToRounds delimiter element (← limit)

/-- At most `rounds` elements with a separator between two of them, up to a stop. -/
def listRounds (separator : String) (stop : List Token → Bool) (element : Reader α) :
    Nat → Reader (List α)
  | 0 => tooDeep
  | rounds + 1 => do
    if ← peek stop then return []
    let first ← element
    if ← peek stop then return [first]
    sign separator
    return first :: (← listRounds separator stop element rounds)

def list (separator : String) (stop : List Token → Bool) (element : Reader α) :
    Reader (List α) := do
  listRounds separator stop element (← limit)

/-- At most `rounds` elements with a separator between two of them, up to a stop or an element
without a separator after it. -/
def chainRounds (separator : String) (stop : List Token → Bool) (element : Reader α) :
    Nat → Reader (List α)
  | 0 => tooDeep
  | rounds + 1 => do
    if ← peek stop then return []
    let first ← element
    if ← sign? separator then return first :: (← chainRounds separator stop element rounds)
    else return [first]

def chain (separator : String) (stop : List Token → Bool) (element : Reader α) :
    Reader (List α) := do
  chainRounds separator stop element (← limit)

/-- At most `rounds` elements, as long as there are some. -/
def manyRounds (element? : Reader (Option α)) : Nat → Reader (List α)
  | 0 => tooDeep
  | rounds + 1 => do
    match ← element? with
    | some first => return first :: (← manyRounds element? rounds)
    | none => return []

def many (element? : Reader (Option α)) : Reader (List α) := do
  manyRounds element? (← limit)

/-- At most `rounds` steps that extend what was read, as long as there are some. -/
def extendRounds (step? : α → Reader (Option α)) : Nat → α → Reader α
  | 0, _ => tooDeep
  | rounds + 1, a => do
    match ← step? a with
    | some b => extendRounds step? rounds b
    | none => return a

def extend (step? : α → Reader (Option α)) (a : α) : Reader α := do
  extendRounds step? (← limit) a

/-! ## Plain paths -/

/-- Keywords that may stand in a plain path. -/
def plainKeywords : List String := ["super", "self", "Self", "crate"]

def startsWithSegment (tokens : List Token) : Bool :=
  startsWithName tokens || startsWithAnyWord plainKeywords tokens

/-- A further segment of a plain path. -/
def plainSegment? : Reader (Option String) := do
  if ← sign? "::" then
    if ← peek startsWithSegment then return some (← nameOr plainKeywords)
    else wrong "expected path segment after `::`"
  else return none

/-- A path without arguments. -/
def plainPath : Reader Path := do
  let absolute ← sign? "::"
  let first ← nameOr plainKeywords
  return ⟨absolute, first :: (← many plainSegment?)⟩

end Reader

end WireErrors.Source
