import WireErrors.Source.Grammar.Type

/-!
# Reading patterns

Readers for patterns, for what can be an end of a range in them, and for the fields of records and
tuples. `patternStep` reads a pattern, given the readers for all that can stand inside it.
-/

namespace WireErrors.Source.Reader

/-! ## Fields -/

/-- The position that a literal spells, which may have a sign in front. -/
def position (negative : Bool) (spelling : String) : Except SyntaxError String :=
  match literalKind spelling, wholeNumber? spelling.toList with
  | .whole, some (value, suffix) =>
    if !suffix.isEmpty then .error (.unexpected false "expected unsuffixed integer")
    else if negative then .error (.unexpected false "invalid digit found in string")
    else if value < UInt32.size then .ok (toString value)
    else .error (.unexpected false "number too large to fit in target type")
  | _, _ => .error (.unexpected false "expected integer literal")

/-- The name of a field, or its position. -/
def fieldName : Reader String := do
  match ← get with
  | .literal text :: rest => number false text rest
  | .mark '-' _ :: .literal text :: rest => number true text rest
  | tokens => if startsWithName tokens then name else wrong "expected identifier or integer"
where
  number (negative : Bool) (text : String) (rest : List Token) : Reader String := do
    if literalKind text != .whole then wrong "expected identifier or integer"
    set rest
    position negative text

/-- Whether a name was read in place of a position. -/
def isWord (field : String) : Bool := !field.toList.all Char.isDigit

/-- The dots of a range; `true` if the last value belongs to it. -/
def rangeDots : Reader Bool := do
  if ← sign? "..=" then return true
  if ← sign? "..." then return true
  sign ".."
  return false

section

variable (readers : Readers)

/-! ## Alternatives -/

def startsAlternative (tokens : List Token) : Bool :=
  startsWith "|" tokens && !startsWith "||" tokens && !startsWith "|=" tokens

def nextAlternative? : Reader (Option Pattern) := do
  if ← peek startsAlternative then
    sign "|"
    some <$> readers.pattern
  else return none

/-- A pattern or several ones separated by bars; a bar may stand in front. -/
def alternatives : Reader Pattern := do
  let leading ← sign? "|"
  let first ← readers.pattern
  let others ← many (nextAlternative? readers)
  if leading || !others.isEmpty then return .alternatives (first :: others) else return first

/-! ## Ranges -/

def endsRange (tokens : List Token) : Bool :=
  isEnd tokens || startsWith "|" tokens || startsWith "=" tokens || startsWithColon tokens ||
    startsWith "," tokens || startsWith ";" tokens || startsWithWord "if" tokens

/-- An end of a range. -/
def rangeEnd : Reader RangeEnd := do
  let tokens ← get
  if startsWithLiteral tokens then return .literal (← literal)
  if startsWithSegment tokens || startsWith "::" tokens || startsWith "<" tokens then
    return .path (← route readers false)
  if ← word? "const" then
    return .constant (Expr.block .constant none (← body readers)).excerpt
  expected [.literal, .name, .sign "::", .sign "<", .word "self", .word "Self", .word "super",
    .word "crate", .word "const"]

/-- An end of a range, if one is given. -/
def rangeEnd? : Reader (Option RangeEnd) := do
  if ← peek endsRange then return none else some <$> rangeEnd readers

/-- The rest of a range after its first end. -/
def rangeAfter (first : RangeEnd) : Reader Pattern := do
  let closed ← rangeDots
  let last ← rangeEnd? readers
  if closed && last.isNone then wrong "expected range upper bound"
  return .range (some first) closed last

/-- A literal or a range that starts with one. -/
def literalPattern : Reader Pattern := do
  let first ← rangeEnd readers
  if ← peek (startsWith "..") then return (← rangeAfter readers first)
  match first with
  | .literal text => return .literal text
  | .path route => return .path route
  | .constant block => return .constant block

/-- A range without a first end, or a sign for any number of elements. -/
def dotsPattern : Reader Pattern := do
  let closed ← rangeDots
  match ← rangeEnd? readers with
  | some last => return .range none closed (some last)
  | none => if closed then wrong "expected range upper bound" else return .rest

/-! ## Patterns with parts -/

/-- A field of a record, with the pattern for it. -/
def fieldPattern (attributes : List Attribute) : Reader FieldPattern := do
  let start ← get
  let boxed ← word? "box"
  let byReference ← word? "ref"
  let mutable ← word? "mut"
  if boxed || byReference || mutable then
    let name ← name
    if boxed then return .mk attributes none (.unformatted (← readSince start))
    return .mk attributes none (.variable byReference mutable name)
  let field ← fieldName
  if !isWord field || (← peek (startsWith ":")) then
    sign ":"
    return .mk attributes (some field) (← alternatives readers)
  return .mk attributes none (.binding field)

/-- At most `rounds` fields of a record, and the attributes of the dots for further fields if there
are any; with the brace after them. -/
def fieldPatterns : Nat → Reader (List FieldPattern × Option (List Attribute))
  | 0 => tooDeep
  | rounds + 1 => do
    if ← peek isEnd then
      closing .brace
      return ([], none)
    let attributes ← outerAttributes readers
    if ← sign? ".." then
      closing .brace
      return ([], some attributes)
    let first ← fieldPattern readers attributes
    if !(← peek isEnd) then sign ","
    let (others, rest) ← fieldPatterns rounds
    return (first :: others, rest)

/-- A pattern that starts with a path. -/
def pathPattern : Reader Pattern := do
  let route ← route readers false
  let tokens ← get
  if startsWith "!" tokens && !startsWith "!=" tokens then
    if let some path := route.path? then
      sign "!"
      let (delimiter, body) ← delimited
      return .invocation path delimiter body
  if startsWithOpening .brace tokens then
    opening .brace
    let (fields, rest) ← fieldPatterns readers (← limit)
    return .record route fields rest
  if startsWithOpening .paren tokens then
    opening .paren
    return .tuple route (← commaList .paren (alternatives readers))
  if startsWith ".." tokens then rangeAfter readers (.path route) else return .path route

/-- At most `rounds` parts of a tuple, and whether a comma ends them; with the parenthesis after
them. -/
def tupleParts : Nat → Reader (List Pattern × Bool)
  | 0 => tooDeep
  | rounds + 1 => do
    if ← peek isEnd then
      closing .paren
      return ([], true)
    let first ← alternatives readers
    if ← peek isEnd then
      closing .paren
      return ([first], false)
    sign ","
    let (others, comma) ← tupleParts rounds
    return (first :: others, comma)

def isRest : Pattern → Bool
  | .rest => true
  | _ => false

/-- A tuple without a name or a pattern in parentheses. -/
def parenPattern : Reader Pattern := do
  opening .paren
  match ← tupleParts readers (← limit) with
  | ([part], false) => return if isRest part then .plainTuple [part] false else .enclosed part
  | (parts, comma) => return .plainTuple parts comma

def sliceElement : Reader Pattern := do
  match ← alternatives readers with
  | .range none .. | .range _ _ none =>
    throw (.unexpected false "range pattern is not allowed unparenthesized inside slice pattern")
  | element => return element

/-- A variable. -/
def variablePattern : Reader Pattern := do
  let byReference ← word? "ref"
  let mutable ← word? "mut"
  let name ← nameOr ["self"]
  if ← sign? "@" then return .capture byReference mutable name (← readers.pattern)
  if byReference || mutable then return .variable byReference mutable name
  return .binding name

/-! ## All patterns -/

/-- Whether a pattern starts with a path that goes on. -/
def startsPathPattern (tokens : List Token) : Bool :=
  let second := afterOne tokens
  startsWithName tokens && (startsWith "::" second || startsWith "!" second ||
      startsWithOpening .brace second || startsWithOpening .paren second ||
      startsWith ".." second) ||
    startsWithWord "self" tokens && startsWith "::" second || startsWith "::" tokens ||
    startsWith "<" tokens || startsWithAnyWord ["Self", "super", "crate"] tokens

/-- What can start a pattern. -/
def patternStarts : List Alternative :=
  [.name, .sign "::", .sign "<", .word "_", .literal, .word "const", .word "ref", .word "mut",
   .sign "&", .group .paren, .group .bracket, .sign "..", .word "const"]

def patternStep : Reader Pattern := do
  let tokens ← get
  if startsPathPattern tokens then pathPattern readers
  else if ← word? "_" then return .wildcard
  else if ← word? "box" then
    discard readers.pattern
    return .unformatted (← readSince tokens)
  else if startsWith "-" tokens || startsWithLiteral tokens || startsWithWord "const" tokens then
    literalPattern readers
  else if startsWithAnyWord ["ref", "mut", "self"] tokens || startsWithName tokens then
    variablePattern readers
  else if ← sign? "&" then
    let mutable ← word? "mut"
    return .reference mutable (← readers.pattern)
  else if startsWithOpening .paren tokens then parenPattern readers
  else if startsWithOpening .bracket tokens then
    opening .bracket
    return .slice (← commaList .bracket (sliceElement readers))
  else if startsWith ".." tokens && !startsWith "..." tokens then dotsPattern readers
  else expected patternStarts

end

end WireErrors.Source.Reader
