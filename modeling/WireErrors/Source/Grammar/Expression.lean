import WireErrors.Source.Grammar.Pattern
import WireErrors.Text.Split

/-!
# Reading expressions and statements

A `Link` joins an expression to what follows it; an expression goes on behind a link as long as the
link holds more tightly than the one in front. `exprStep` and `statementsStep` read an expression
and the statements of a block, given the readers for all that can stand inside them.
-/

namespace WireErrors.Source

/-! ## Links -/

/-- What can join an expression to what follows it. -/
inductive Link where
  | binary (operator : Operator)
  | assign (operator : Option Operator)
  | range
  | cast

namespace Link

def level : Link → Precedence
  | binary operator => operator.precedence
  | assign _ => .assignment
  | range => .range
  | cast => .cast

/-- Operators that can be combined with an assignment. -/
def combined : List Operator :=
  [.add, .subtract, .multiply, .divide, .remainder, .bitXor, .bitAnd, .bitOr, .shiftLeft,
   .shiftRight]

/-- All operators, a longer sign before one that it starts with. -/
def operators : List Operator :=
  [.and, .or, .shiftLeft, .shiftRight, .equal, .lessEqual, .notEqual, .greaterEqual, .add,
   .subtract, .multiply, .divide, .remainder, .bitXor, .bitAnd, .bitOr, .less, .greater]

/-- The signs of links, with those first that have to be tried first. -/
def signs : List (String × Link) :=
  combined.map (fun operator => (operator.text ++ "=", .assign (some operator))) ++
    operators.map fun operator => (operator.text, .binary operator)

/-- The link at the front, and what follows it; the dots of a range are left. -/
def ofTokens? (tokens : List Token) : Option (Link × List Token) :=
  match signs.findSome? fun s => (afterSign? s.1.toList tokens).map fun rest => (s.2, rest) with
  | some link => some link
  | none =>
    match tokens with
    | .ident "as" :: rest => some (cast, rest)
    | .mark '=' true :: .mark '>' _ :: _ => none
    | .mark '=' _ :: rest => some (assign none, rest)
    | .mark '.' true :: .mark '.' _ :: _ => some (range, tokens)
    | _ => none

end Link

namespace Reader

section

variable (readers : Readers)

/-- An expression in front of a brace. -/
def subject : Reader Expr := readers.expr (.whole false)

/-! ## Statements -/

/-- Whether an item starts here and not an expression. -/
def startsItem (tokens : List Token) : Bool :=
  let second := afterOne tokens
  let third := afterOne second
  startsWithAnyWord ["pub", "extern", "use", "fn", "mod", "type", "struct", "enum", "trait",
      "impl", "macro"] tokens ||
    startsWithWord "crate" tokens && !startsWith "::" second ||
    startsWithWord "static" tokens && (startsWithWord "mut" second || startsWithName second) ||
    startsWithWord "const" tokens && !(startsWithOpening .brace second ||
      startsWithAnyWord ["static", "move"] second || startsWith "|" second ||
      startsWithWord "async" second && !startsWithAnyWord ["unsafe", "extern", "fn"] third) ||
    startsWithWord "unsafe" tokens && !startsWithOpening .brace second ||
    startsWithWord "async" tokens && startsWithAnyWord ["unsafe", "extern", "fn"] second ||
    startsWithWord "union" tokens && startsWithName second ||
    startsWithWord "auto" tokens && startsWithWord "trait" second ||
    startsWithWord "default" tokens && startsWithAnyWord ["unsafe", "impl"] second

/-- Whether what ends with a brace here is a statement by itself, and not the start of a longer
expression. -/
def endsStatement (tokens : List Token) : Bool :=
  !(startsWith "." tokens && !startsWith ".." tokens || startsWith "?" tokens)

/-- What the use of a macro at the start of a statement is. -/
inductive InvocationKind where
  /-- An expression, or no use of a macro. -/
  | expr
  /-- A use of a macro in place of an item, which gives a name. -/
  | item
  /-- A statement with braces. -/
  | statement (path : Path)

/-- Which kind of use of a macro stands at the start of a statement; the path and the mark after it
are taken if it is a statement by itself. -/
def invocationKind : Reader InvocationKind := do
  let start ← get
  match ← attempt plainPath with
  | none => return .expr
  | some path =>
    if ← sign? "!" then
      let tokens ← get
      if startsWithName tokens || startsWithWord "try" tokens then
        set start
        return .item
      if startsWithOpening .brace tokens && endsStatement (afterOne tokens) then
        return .statement path
    set start
    return .expr

/-- A pattern with a type, if one is given. -/
def typedPattern (attributes : List Attribute) : Reader TypedPattern := do
  let pattern ← readers.pattern
  let type ← if ← sign? ":" then some <$> wholeType readers else pure none
  return ⟨attributes, pattern, type⟩

/-- A binding, after its first word. -/
def binding (attributes : List Attribute) : Reader Statement := do
  let target ← typedPattern readers []
  if !(← sign? "=") then
    sign ";"
    return .bind attributes target none
  let value ← wholeExpr readers
  if !value.endsWithBrace && (← word? "else") then
    let otherwise ← block readers
    sign ";"
    return .bindOr attributes target value otherwise
  sign ";"
  return .bind attributes target (some value)

/-- A statement with the semicolon after it. -/
def statement : Reader Statement := do
  let start ← get
  let attributes ← outerAttributes readers
  match ← invocationKind with
  | .statement path =>
    let (delimiter, body) ← delimited
    return .invocation attributes path delimiter body (← sign? ";")
  | .item => item start
  | .expr =>
    if ← word? "let" then binding readers attributes
    else if ← peek startsItem then item start
    else
      let value ← readers.expr .statement
      return ofExpr (value.withAttributes attributes) (← sign? ";")
where
  /-- An item that starts at a place in front of its attributes. -/
  item (start : List Token) : Reader Statement := do
    set start
    return .item (← readers.item).excerpt
  /-- The statement that an expression is, with a semicolon behind it or not. -/
  ofExpr (value : Expr) (semicolon : Bool) : Statement :=
    match value with
    | .invocation path delimiter body =>
      if semicolon || delimiter == .brace then .invocation [] path delimiter body semicolon
      else .expr value semicolon
    | .attributed attributes (.invocation path delimiter body) =>
      if semicolon || delimiter == .brace then .invocation attributes path delimiter body semicolon
      else .expr value semicolon
    | _ => .expr value semicolon

/-- At most `rounds` statements up to the closing brace, which is taken too. -/
def statementRounds : Nat → Reader (List Statement)
  | 0 => tooDeep
  | rounds + 1 => do
    if ← sign? ";" then return .empty :: (← statementRounds rounds)
    if ← peek isEnd then
      closing .brace
      return []
    let first ← statement readers
    if ← peek isEnd then
      closing .brace
      return [first]
    match first with
    | .expr value false =>
      if value.needsSemicolon then throw (.unexpected false "unexpected token, expected `;`")
    | _ => pure ()
    return first :: (← statementRounds rounds)

/-- Statements up to the closing brace, which is taken too. -/
def statementsStep : Reader (List Statement) := do
  statementRounds readers (← limit)

/-! ## Lists of parts -/

/-- The arguments of a call. -/
def arguments : Reader (List Expr) := do
  opening .paren
  commaList .paren (wholeExpr readers)

def fieldValue : Reader FieldValue := do
  let attributes ← outerAttributes readers
  let field ← fieldName
  if !isWord field || (← peek (startsWith ":")) then
    sign ":"
    return .mk attributes field (some (← wholeExpr readers))
  return .mk attributes field none

/-- At most `rounds` fields of a record and the record that has the other ones, with the brace after
them. -/
def fieldRounds : Nat → Reader (List FieldValue × Option Expr)
  | 0 => tooDeep
  | rounds + 1 => do
    if ← peek isEnd then
      closing .brace
      return ([], none)
    if ← sign? ".." then
      let base ← if ← peek isEnd then pure none else some <$> wholeExpr readers
      closing .brace
      return ([], base)
    let first ← fieldValue readers
    if !(← peek isEnd) then sign ","
    let (others, base) ← fieldRounds rounds
    return (first :: others, base)

/-- A value in parentheses or a tuple. -/
def enclosedExpr : Reader Expr := do
  opening .paren
  if ← peek isEnd then
    closing .paren
    return .tuple []
  let first ← wholeExpr readers
  if ← peek isEnd then
    closing .paren
    return .enclosed first
  sign ","
  return .tuple (first :: (← commaList .paren (wholeExpr readers)))

/-- An array by its elements or by one element and its number. -/
def bracketExpr : Reader Expr := do
  opening .bracket
  if ← peek isEnd then
    closing .bracket
    return .array []
  let first ← wholeExpr readers
  if ← sign? ";" then
    let length ← wholeExpr readers
    closing .bracket
    return .repeated first length
  if ← peek isEnd then
    closing .bracket
    return .array [first]
  if ← sign? "," then return .array (first :: (← commaList .bracket (wholeExpr readers)))
  wrong "expected `,` or `;`"

/-! ## Conditions and loops -/

/-- What happens where a condition does not hold, after at most `rounds` further conditions. -/
def otherwiseRounds : Nat → Reader Otherwise
  | 0 => tooDeep
  | rounds + 1 => do
    if !(← word? "else") then return .none
    if ← word? "if" then
      let condition ← subject readers
      let body ← block readers
      return .conditional condition body (← otherwiseRounds rounds)
    if ← peek (startsWithOpening .brace) then return .block (← block readers)
    expected [.word "if", .group .brace]

def conditional : Reader Expr := do
  let condition ← subject readers
  let body ← block readers
  return .conditional condition body (← otherwiseRounds readers (← limit))

/-- An arm with the comma after it. -/
def arm : Reader Arm := do
  let attributes ← outerAttributes readers
  let pattern ← alternatives readers
  let guard ← if ← word? "if" then some <$> wholeExpr readers else pure none
  sign "=>"
  let body ← readers.expr .statement
  if body.standsAlone || (← peek isEnd) then discard (sign? ",") else sign ","
  return .mk attributes pattern guard body

def select : Reader Expr := do
  let subject ← subject readers
  opening .brace
  let inner ← innerAttributes readers
  return .select subject inner (← upTo .brace (arm readers))

/-- A loop without its label, if one starts here. -/
def loop? (label : Option String) : Reader (Option Expr) := do
  if ← word? "loop" then return some (.forever label (← body readers))
  if ← word? "while" then
    let condition ← subject readers
    return some (.repeatWhile label condition (← body readers))
  if ← word? "for" then
    let pattern ← alternatives readers
    word "in"
    let subject ← subject readers
    return some (.forEach label pattern subject (← body readers))
  return none

/-- A loop or block with a label. -/
def labelled : Reader Expr := do
  let label ← lifetime
  sign ":"
  match ← loop? readers (some label) with
  | some loop => return loop
  | none =>
    if ← peek (startsWithOpening .brace) then
      return .block .plain (some label) (← body readers)
    else wrong "expected loop or block expression"

/-- Whether parameters and not a loop follow the word `for`. -/
def startsBinder (tokens : List Token) : Bool :=
  startsWithWord "for" tokens && startsParameters (afterOne tokens)

/-- An expression that starts with a keyword and stands alone, if one starts here. -/
def keywordBlock? : Reader (Option Expr) := do
  let tokens ← get
  let second := afterOne tokens
  if startsBinder tokens then return none
  if ← word? "if" then return some (← conditional readers)
  if ← word? "match" then return some (← select readers)
  if ← word? "unsafe" then return some (.block .unchecked none (← body readers))
  if startsWithOpening .brace second then
    if ← word? "try" then return some (.block .fallible none (.mk [] (← block readers)))
    if ← word? "const" then return some (.block .constant none (← body readers))
  if startsWithOpening .brace tokens then return some (.block .plain none (← body readers))
  if startsWithLifetime tokens then return some (← labelled readers)
  loop? readers none

/-! ## Jumps, ranges and closures -/

/-- Whether an expression can start here. -/
def startsExpr : List Token → Bool
  | .ident word :: _ => word != "as"
  | .opening _ :: _ => true
  | .literal _ :: _ => true
  | tokens =>
    let startsBut (text : String) (exceptions : List String) : Bool :=
      startsWith text tokens && !exceptions.any fun exception => startsWith exception tokens
    startsBut "!" ["!="] || startsBut "-" ["-=", "->"] || startsBut "*" ["*="] ||
      startsBut "|" ["|="] || startsBut "&" ["&="] || startsBut "<" ["<=", "<<="] ||
      startsWith ".." tokens || startsWith "::" tokens || startsWithLifetime tokens ||
      startsWith "#" tokens

def leave (braces : Bool) : Reader Expr := do
  let start ← get
  let label ← lifetime?
  let tokens ← get
  if label.isSome && startsWith ":" tokens then
    set start
    discard (wholeExpr readers)
    throw (.unexpected false "parentheses required")
  if startsExpr tokens && (braces || !startsWithOpening .brace tokens) then
    return .leave label (some (← wholeExpr readers))
  return .leave label none

/-- An expression that may be left out. -/
def optionalExpr : Reader (Option Expr) := do
  if ← peek startsExpr then some <$> wholeExpr readers else return none

/-- At most `rounds` links that bind the right side of a link more tightly than that link does. -/
def rightRounds (braces : Bool) (level : Precedence) : Nat → Expr → Reader Expr
  | 0, _ => tooDeep
  | rounds + 1, right => do
    match Link.ofTokens? (← get) with
    | none => return right
    | some (link, _) =>
      if right.isRange then return right
      if level < link.level || link.level == level && level == .assignment then
        rightRounds braces level rounds (← readers.expr (.further braces link.level right))
      else return right

/-- The right side of a link of a level. -/
def rightSide (braces : Bool) (level : Precedence) : Reader Expr := do
  let first ← readers.expr (.unary braces)
  rightRounds readers braces level (← limit) first

/-- The dots of a range; `true` if the last value belongs to it. -/
def exprDots : Reader Bool := do
  if ← sign? "..=" then return true
  if ← peek (startsWith "...") then expected [.sign "..="]
  sign ".."
  return false

/-- Whether a range without a last value ends here. -/
def endsOpenRange (braces : Bool) (tokens : List Token) : Bool :=
  isEnd tokens ||
    [",", ";", "?", "=", "+", "/", "%", "^", ">", "<=", "!=", "-=", "*=", "&=", "|=", "<<="].any
      (fun text => startsWith text tokens) ||
    startsWith "." tokens && !startsWith ".." tokens ||
    !braces && startsWithOpening .brace tokens || startsWithWord "as" tokens

/-- The rest of a range after its first value. -/
def rangeFrom (braces : Bool) (first : Option Expr) : Reader Expr := do
  let closed ← exprDots
  if !closed && (← peek (endsOpenRange braces)) then return .range first closed none
  return .range first closed (some (← rightSide readers braces .range))

def closure (braces : Bool) : Reader Expr := do
  let binder ← binder readers
  let constant ← word? "const"
  let immovable ← word? "static"
  let deferred ← word? "async"
  let moves ← word? "move"
  let kind : ClosureKind := ⟨constant, immovable, deferred, moves⟩
  sign "|"
  let inputs ← list "," (startsWith "|") do typedPattern readers (← outerAttributes readers)
  sign "|"
  if ← sign? "->" then
    let result ← wholeType readers
    return .closure binder kind inputs (some result)
      (.block .plain none (.mk [] (← block readers)))
  return .closure binder kind inputs none (← readers.expr (.whole braces))

def startsClosure (tokens : List Token) : Bool :=
  let second := afterOne tokens
  startsWith "|" tokens || startsWithAnyWord ["move", "static"] tokens ||
    startsBinder tokens ||
    startsWithWord "const" tokens && !startsWithOpening .brace second ||
    startsWithWord "async" tokens && (startsWith "|" second || startsWithWord "move" second)

/-- A block that runs later, after its first word. -/
def deferredBlock : Reader Expr := do
  let moves ← word? "move"
  return .block (.deferred moves) none (.mk [] (← block readers))

def startsDeferredBlock (tokens : List Token) : Bool :=
  let second := afterOne tokens
  startsWithWord "async" tokens && (startsWithOpening .brace second ||
    startsWithWord "move" second && startsWithOpening .brace (afterOne second))

/-! ## Operands -/

/-- A path, a use of a macro or a record. -/
def pathExpr (braces : Bool) : Reader Expr := do
  let route ← route readers false
  let tokens ← get
  if startsWith "!" tokens && !startsWith "!=" tokens then
    if let some path := route.path? then
      sign "!"
      let (delimiter, body) ← delimited
      return .invocation path delimiter body
  if braces && startsWithOpening .brace tokens then
    opening .brace
    let (fields, base) ← fieldRounds readers (← limit)
    return .record route fields base
  return .path route

/-- A test whether a value matches a pattern, after its first word. -/
def matching (braces : Bool) : Reader Expr := do
  let pattern ← alternatives readers
  sign "="
  let first ← readers.expr (.unary braces)
  return .matching pattern (← readers.expr (.further braces .comparison first))

def atom (braces : Bool) : Reader Expr := do
  let tokens ← get
  if startsWithLiteral tokens then return .literal (← literal)
  if startsWithWord "async" tokens && startsDeferredBlock tokens then
    discard (word? "async")
    return (← deferredBlock readers)
  if startsClosure tokens then return (← closure readers braces)
  if startsBuiltin tokens then return .unformatted (← builtin)
  if startsWithSegment tokens || startsWith "::" tokens || startsWith "<" tokens ||
      startsWithWord "try" tokens && (startsWith "!" (afterOne tokens) ||
        startsWith "::" (afterOne tokens)) then
    return (← pathExpr readers braces)
  if startsWithOpening .paren tokens then return (← enclosedExpr readers)
  if startsWithOpening .bracket tokens then return (← bracketExpr readers)
  if ← word? "break" then return (← leave readers braces)
  if ← word? "continue" then return .again (← lifetime?)
  if ← word? "return" then return .giveBack (← optionalExpr readers)
  if ← word? "become" then
    discard (wholeExpr readers)
    return .unformatted (← readSince tokens)
  if ← word? "yield" then return .yield (← optionalExpr readers)
  if ← word? "let" then return (← matching readers braces)
  if let some block ← keywordBlock? readers then return block
  if startsWith ".." tokens then return (← rangeFrom readers braces none)
  if ← word? "_" then return .inferred
  wrong "expected an expression"

/-- The fields that a number with a point stands for after a dot; it may have a sign in front. -/
def positions (negative : Bool) (receiver : Expr) : List (List Char) → Reader Expr
  | [] => return receiver
  | part :: rest => do
    let field ← position negative (String.ofList part)
    positions false (.field receiver field) rest

/-- The parts between the points of a number, without an empty one at its end. -/
def numberParts (text : String) : List (List Char) :=
  let parts := Text.splitAt '.' text.toList
  if parts.getLast? = some [] then parts.dropLast else parts

/-- A field or method, after its dot and any positions that a number stands for. -/
def namedMember (receiver : Expr) : Reader Expr := do
  if ← word? "await" then return .await receiver
  let field ← fieldName
  if isWord field then
    if ← sign? "::" then
      sign "<"
      let generic ← angledArguments readers
      return .genericMethod receiver field generic (← arguments readers)
    if ← peek (startsWithOpening .paren) then
      return .method receiver field (← arguments readers)
  return .field receiver field

/-- What follows a dot. -/
def memberOf (receiver : Expr) : Reader Expr := do
  match ← get with
  | .literal text :: rest => number false text rest
  | .mark '-' _ :: .literal text :: rest => number true text rest
  | _ => namedMember readers receiver
where
  number (negative : Bool) (text : String) (rest : List Token) : Reader Expr := do
    if literalKind text != .float then return (← namedMember readers receiver)
    set rest
    let receiver ← positions negative receiver (numberParts text)
    if text.toList.getLast? = some '.' then namedMember readers receiver else return receiver

/-- An expression made longer by one part, if there is one. -/
def suffix? (first : Expr) : Reader (Option Expr) := do
  let tokens ← get
  if startsWithOpening .paren tokens then return some (.call first (← arguments readers))
  if startsWithOpening .bracket tokens then
    opening .bracket
    let index ← wholeExpr readers
    closing .bracket
    return some (.index first index)
  if first.isRange then return none
  if startsWith "." tokens && !startsWith ".." tokens then
    sign "."
    return some (← memberOf readers first)
  if ← sign? "?" then return some (.propagate first)
  return none

def unaryOperators : List UnaryOperator := [.dereference, .not, .negate]

/-- An operand of a reference, after its sign. -/
def reference (braces : Bool) : Reader Expr := do
  let tokens ← get
  let raw := startsWithWord "raw" tokens && startsWithAnyWord ["mut", "const"] (afterOne tokens)
  if raw then discard (word? "raw")
  let mutable ← word? "mut"
  if raw && !mutable then word "const"
  let target ← readers.expr (.unary braces)
  return if raw then .rawReference mutable target else .reference mutable target

/-- An operand with its operators in front and its suffixes. -/
def unary (braces : Bool) : Reader Expr := do
  let attributes ← outerAttributes readers
  let tokens ← get
  if ← sign? "&" then return attributed attributes (← reference readers braces)
  match unaryOperators.find? fun operator => startsWith operator.text tokens with
  | some operator =>
    sign operator.text
    return attributed attributes (.unary operator (← readers.expr (.unary braces)))
  | none =>
    let value ← extend (suffix? readers) (← atom readers braces)
    if !attributes.isEmpty && value.isRange then
      throw (.unexpected false
        "attributes are not allowed on range expressions starting with `..`")
    return attributed attributes value
where
  attributed (attributes : List Attribute) (value : Expr) : Expr :=
    if attributes.isEmpty then value else .attributed attributes value

/-! ## Whole expressions -/

def isComparison : Expr → Bool
  | .binary operator .. => operator.precedence == .comparison
  | _ => false

/-- What cannot follow a cast. -/
def castFollower? (tokens : List Token) : Option String :=
  let second := afterOne tokens
  let third := afterOne second
  if startsWith "." tokens && !startsWith ".." tokens then
    if startsWithWord "await" second then some "`.await`"
    else if startsWithName second && (startsWithOpening .paren third || startsWith "::" third) then
      some "a method call"
    else some "a field access"
  else if startsWith "?" tokens then some "`?`"
  else if startsWithOpening .bracket tokens then some "indexing"
  else if startsWithOpening .paren tokens then some "a function call"
  else none

/-- An expression made longer by a link of a level or above, if there is one. -/
def linked? (braces : Bool) (level : Precedence) (left : Expr) : Reader (Option Expr) := do
  if left.isRange then return none
  match Link.ofTokens? (← get) with
  | none => return none
  | some (link, rest) =>
    if link.level < level then return none
    match link with
    | .binary operator =>
      if operator.precedence == .comparison && isComparison left then
        wrong "comparison operators cannot be chained"
      set rest
      return some (.binary operator left (← rightSide readers braces operator.precedence))
    | .assign operator =>
      set rest
      return some (.assign operator left (← rightSide readers braces .assignment))
    | .range => return some (← rangeFrom readers braces (some left))
    | .cast =>
      set rest
      let type ← readers.type false
      match castFollower? (← get) with
      | some follower => wrong ("casts cannot be followed by " ++ follower)
      | none => return some (.cast left type)

def further (braces : Bool) (level : Precedence) (left : Expr) : Reader Expr :=
  extend (linked? readers braces level) left

/-- An expression that ends where a statement or an arm would end. Attributes in front of it belong
to its first part. -/
def statementExpr : Reader Expr := do
  let attributes ← outerAttributes readers
  let first ← match ← keywordBlock? readers with
    | some block => pure block
    | none => readers.expr (.unary true)
  if !first.standsAlone then
    further readers true .jump (first.withAttributes attributes)
  else if ← peek endsStatement then return first.withAttributes attributes
  else
    let longer ← extend (suffix? readers) first
    further readers true .jump (longer.withAttributes attributes)

def exprStep : Goal → Reader Expr
  | .whole braces => do
    let first ← readers.expr (.unary braces)
    further readers braces .jump first
  | .unary braces => unary readers braces
  | .further braces level left => further readers braces level left
  | .statement => statementExpr readers

end

end Reader

end WireErrors.Source
