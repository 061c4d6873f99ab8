import WireErrors.Source.Grammar.Attribute

/-!
# Reading types

Readers for types, for the paths in types, patterns and expressions, and for the parameters and
conditions of generic items.
-/

namespace WireErrors.Source.Reader

/-! ## Looking ahead -/

def startsWithColon (tokens : List Token) : Bool := startsWith ":" tokens && !startsWith "::" tokens

/-- Whether parameters and not a type follow in angle brackets. -/
def startsParameters (tokens : List Token) : Bool :=
  let second := afterOne tokens
  let third := afterOne second
  startsWith "<" tokens && (startsWith ">" second || startsWith "#" second ||
    startsWithWord "const" second ||
    (startsWithLifetime second || startsWithName second) &&
      (startsWith ">" third || startsWith "," third || startsWithColon third ||
        startsWith "=" third))

/-- Whether the arguments of a call follow a segment of a path. -/
def startsCalled (tokens : List Token) : Bool :=
  startsWithOpening .paren tokens ||
    (afterSign? "::".toList tokens).any (startsWithOpening .paren)

/-- Whether arguments in angle brackets follow a name; in expressions they need `::` in front. -/
def startsAngled (inType : Bool) (tokens : List Token) : Bool :=
  inType && startsWith "<" tokens && !startsWith "<=" tokens && !startsWith "<<=" tokens ||
    (afterSign? "::".toList tokens).any (startsWith "<")

/-- Whether a further bound can start here. -/
def startsBound (place : BoundPlace) : List Token → Bool
  | .ident _ :: _ => true
  | tokens =>
    startsWith "::" tokens || startsWith "?" tokens || startsWithLifetime tokens ||
      startsWithOpening .paren tokens ||
      place != .object && startsWithOpening .bracket tokens

section

variable (readers : Readers)

/-! ## Parts of types -/

/-- The calling convention in front of a function. -/
def convention : Reader Convention := do
  if !(← word? "extern") then return .standard
  match ← get with
  | .literal text :: rest =>
    if literalKind text == .text then
      set rest
      return .foreign (some text)
    else return .foreign none
  | _ => return .foreign none

/-- The type of a result, if one is given. -/
def result? (plus : Bool) : Reader (Option TypeExpr) := do
  if ← sign? "->" then some <$> readers.type plus else return none

/-- A literal, name or block in place of a type. -/
def constantArgument : Reader Excerpt := do
  let tokens ← get
  if startsWithLiteral tokens then return (Expr.literal (← literal)).excerpt
  if startsWithName tokens then return (Expr.names [← name]).excerpt
  if startsWithOpening .brace tokens then return (Expr.block .plain none (← body readers)).excerpt
  expected []

/-! ## Parameters -/

/-- What ends the bounds of a parameter. -/
def endsParameter (tokens : List Token) : Bool := startsWith "," tokens || startsWith ">" tokens

/-- A generic parameter, after its attributes, if one starts here. -/
def genericParameter? (attributes : List Attribute) : Reader (Option GenericParameter) := do
  let tokens ← get
  if startsWithLifetime tokens then
    let name ← lifetime
    let bounds ← if ← sign? ":" then chain "+" endsParameter lifetime else pure []
    return some (.lifetime attributes name bounds)
  if startsWithName tokens then
    let name ← name
    let bounds ← if ← sign? ":" then
        chain "+" (fun tokens => endsParameter tokens || startsWith "=" tokens)
          (readers.bound .declaration)
      else pure []
    let standard ← if ← sign? "=" then some <$> wholeType readers else pure none
    return some (.type attributes name bounds standard)
  if ← word? "const" then
    let name ← name
    sign ":"
    let type ← wholeType readers
    let standard ← if ← sign? "=" then some <$> constantArgument readers else pure none
    return some (.constant attributes name type standard)
  return none

/-- The parameters for any choice of which something holds. -/
def binder : Reader (Option (List GenericParameter)) := do
  if ← word? "for" then
    sign "<"
    let parameters ← list "," (startsWith ">") do
      match ← genericParameter? readers (← outerAttributes readers) with
      | some parameter => return parameter
      | none => expected [.name, .lifetime, .word "const"]
    sign ">"
    return some parameters
  else return none

/-- A parameter of a generic item. -/
def genericParameter : Reader GenericParameter := do
  let attributes ← outerAttributes readers
  match ← genericParameter? readers attributes with
  | some parameter => return parameter
  | none =>
    if ← word? "_" then return .type attributes "_" [] none
    expected [.lifetime, .name, .word "const"]

/-- The generic parameters of an item, if there are any. -/
def genericParameters : Reader (List GenericParameter) := do
  if ← sign? "<" then
    let parameters ← list "," (startsWith ">") (genericParameter readers)
    sign ">"
    return parameters
  else return []

/-! ## Paths -/

/-- The arguments of a call in a path, from the parentheses on. -/
def calledArguments : Reader Arguments := do
  opening .paren
  let inputs ← commaList .paren (wholeType readers)
  return .called inputs (← result? readers false)

/-- An argument between angle brackets. -/
def argument : Reader Argument := do
  let tokens ← get
  if startsWithLifetime tokens && !startsWith "+" (afterOne tokens) then
    return .lifetime (← lifetime)
  if startsWithLiteral tokens || startsWithOpening .brace tokens then
    return .constant (← constantArgument readers)
  let type ← wholeType readers
  match type with
  | .path (.plain false [segment]) =>
    if ← sign? "=" then
      if (← peek startsWithLiteral) || (← peek (startsWithOpening .brace)) then
        return .equalConstant segment (← constantArgument readers)
      return .equal segment (← wholeType readers)
    if ← sign? ":" then
      return .bounded segment
        (← chain "+" (fun tokens => startsWith "," tokens || startsWith ">" tokens)
          (readers.bound .declaration))
    return .type type
  | _ => return .type type

/-- Arguments between angle brackets, after the first bracket. -/
def angledArguments : Reader (List Argument) := do
  let arguments ← list "," (startsWith ">") (argument readers)
  sign ">"
  return arguments

def segment (inType : Bool) : Reader Segment := do
  if ← peek (startsWithAnyWord ["super", "self", "crate", "try"]) then
    return .plain (← nameOr pathKeywords)
  let name ← nameOr ["Self"]
  if ← peek (startsAngled inType) then
    discard (sign? "::")
    sign "<"
    return .mk name (.angled (← angledArguments readers))
  else return .plain name

/-- A further segment of a path. -/
def nextSegment? (inType : Bool) : Reader (Option Segment) := do
  match afterSign? "::".toList (← get) with
  | some rest =>
    if startsWithOpening .paren rest then return none
    set rest
    some <$> segment readers inType
  | none => return none

/-- The segments of a path, after any `::` in front. -/
def segments (inType : Bool) : Reader (List Segment) := do
  let first ← segment readers inType
  return first :: (← many (nextSegment? readers inType))

/-- A further segment behind a type in angle brackets. -/
def innerSegment? (inType : Bool) : Reader (Option Segment) := do
  if ← sign? "::" then some <$> segment readers inType else return none

def route (inType : Bool) : Reader Route := do
  if ← sign? "<" then
    let type ← wholeType readers
    let (absolute, interface) ← if ← word? "as" then
        let absolute ← sign? "::"
        let interface ← segments readers true
        pure (absolute, interface)
      else pure (false, [])
    sign ">"
    sign "::"
    let first ← segment readers inType
    return .within type absolute interface (first :: (← many (innerSegment? readers inType)))
  else
    let absolute ← sign? "::"
    return .plain absolute (← segments readers inType)

/-! ## Bounds -/

/-- What a type may depend on, after the first word. -/
def captured : Reader (List Captured) := do
  sign "<"
  let names ← capturedRounds (← limit)
  sign ">"
  return names
where
  capturedName : Reader Captured := do
    match ← lifetime? with
    | some name => return .lifetime name
    | none =>
      if (← peek startsWithName) || (← peek (startsWithWord "Self")) then
        return .type (← nameOr ["Self"])
      expected [.lifetime, .name, .sign ">"]
  /-- At most `rounds` names up to the closing bracket, which is left. -/
  capturedRounds : Nat → Reader (List Captured)
    | 0 => tooDeep
    | rounds + 1 => do
      if ← peek (startsWith ">") then return []
      let first ← capturedName
      if ← sign? "," then return first :: (← capturedRounds rounds)
      if ← peek (startsWith ">") then return [first]
      expected [.sign ",", .sign ">"]

/-- The mark of a bound for constant code, if one is there and allowed. -/
def constantMark (place : BoundPlace) : Reader Bool := do
  let tokens ← get
  if startsWithOpening .bracket tokens then
    opening .bracket
    word "const"
    closing .bracket
    if place = .object then throw (.unexpected false "`[const]` is not allowed here")
    return true
  if ← word? "const" then
    if place = .object then throw (.unexpected false "`const` is not allowed here")
    return true
  return false

/-- A trait as a bound, from inside of any parentheses around it; none if it has no layout. -/
def interfaceBound? (enclosed : Bool) (place : BoundPlace) : Reader (Option Bound) := do
  let before ← binder readers
  let constant ← constantMark place
  let isOptional ← sign? "?"
  let binder ← if before.isNone && isOptional then binder readers else pure before
  let absolute ← sign? "::"
  let segments ← called (← segments readers true)
  if binder.isSome && isOptional then
    throw (.unexpected false "`for<...>` binder not allowed with `?` trait polarity modifier")
  if constant then return none
  return some (.interface enclosed binder isOptional absolute segments)
where
  /-- Gives the arguments of a call to the last segment of a path, if they follow it. -/
  called (segments : List Segment) : Reader (List Segment) := do
    match segments.getLast? with
    | some (.mk name .none) | some (.mk name (.angled [])) =>
      if !(← peek startsCalled) then return segments
      discard (sign? "::")
      return segments.dropLast ++ [.mk name (← calledArguments readers)]
    | _ => return segments

def boundStep (place : BoundPlace) : Reader Bound := do
  let start ← get
  if startsWithLifetime start then return .lifetime (← lifetime)
  if ← word? "use" then
    let names ← captured
    if place = .hidden then return .capture names
    else
      throw (.unexpected false "`use<...>` precise capturing syntax is not allowed here")
  let enclosed := startsWithOpening .paren start
  if enclosed then opening .paren
  let bound ← interfaceBound? readers enclosed place
  if enclosed then closing .paren
  match bound with
  | some bound => return bound
  | none => return .unformatted (← readSince start)

/-- Further bounds after a first one, if they may be joined. -/
def moreBounds (place : BoundPlace) (plus : Bool) : Reader (List Bound) := do
  if !plus then return []
  if ← sign? "+" then
    chain "+" (fun tokens => !startsBound place tokens) (readers.bound place)
  else return []

def bounds (place : BoundPlace) (plus : Bool) : Reader (List Bound) := do
  let first ← readers.bound place
  return first :: (← moreBounds readers place plus)

/-- Further bounds of which one has to follow each `+`. -/
def addedBounds : Reader (List Bound) :=
  many do if ← sign? "+" then some <$> readers.bound .object else return none

def isInterface : Bound → Bool
  | .interface .. | .unformatted _ => true
  | _ => false

/-- The bounds of a type whose values have a table of methods. -/
def objectBounds (plus : Bool) : Reader (List Bound) := do
  let bounds ← bounds readers .object plus
  if bounds.any isInterface then return bounds
  else throw (.unexpected false "at least one trait is required for an object type")

/-! ## Types -/

/-- The bound that a type in parentheses stands for, if it can be one; `named` if it starts with the
word for an object type. -/
def enclosedBound? (named : Bool) : TypeExpr → Option Bound
  | .path (.plain absolute segments) => some (.interface true none false absolute segments)
  | .object [.interface _ binder isOptional absolute segments] =>
    if named then none else some (.interface true binder isOptional absolute segments)
  | .object [bound] => if named then none else some bound
  | _ => none

/-- Whether the last token in front of a place is a plus sign. -/
def endsWithPlus (start rest : List Token) : Bool :=
  match (between start rest).getLast? with
  | some (.mark '+' _) => true
  | _ => false

/-- A type in parentheses or a tuple. What is left over in front of the closing parenthesis is noted
behind the bounds that follow it. -/
def enclosedType (plus : Bool) : Reader TypeExpr := do
  opening .paren
  let tokens ← get
  if isEnd tokens then
    closing .paren
    return .tuple []
  if startsWithLifetime tokens then
    let bounds ← objectBounds readers true
    closing .paren
    return .enclosed (.object bounds)
  if startsWith "?" tokens then
    let first ← interfaceBound? readers true .object
    let surplus ← closingUnnoted .paren
    let others ← addedBounds readers
    noteSurplus surplus
    return .object (first.toList ++ others)
  let first ← wholeType readers
  let goesOn := endsWithPlus tokens (← get)
  if ← sign? "," then return .tuple (first :: (← commaList .paren (wholeType readers)))
  let surplus ← closingUnnoted .paren
  let type ← if plus && !goesOn && (← peek (startsWith "+")) then
      match enclosedBound? (startsWithWord "dyn" tokens) first with
      | some bound => pure (.object (bound :: (← addedBounds readers)))
      | none => pure (.enclosed first)
    else pure (.enclosed first)
  noteSurplus surplus
  return type

/-- The dots for further inputs of a function type, if they stand here, with any comma. -/
def furtherInputs? (attributes : List Attribute) : Reader (Option FurtherInputs) := do
  match ← get with
  | .ident word :: .mark ':' _ :: rest =>
    if startsWith "..." rest && (word == "_" || !isKeyword word) then
      set rest
      sign "..."
      discard (sign? ",")
      return some ⟨attributes, some word⟩
    else return none
  | _ =>
    if ← sign? "..." then
      discard (sign? ",")
      return some ⟨attributes, none⟩
    else return none

/-- An input of a function type, the first one of which may be `self`. -/
def functionInput (attributes : List Attribute) (isFirst : Bool) : Reader FunctionInput := do
  let start ← get
  let hasMutable := isFirst && startsWithWord "mut" start && startsWithWord "self" (afterOne start)
  if hasMutable then discard (word? "mut")
  let tokens ← get
  let isSelf := isFirst && startsWithWord "self" tokens
  let named := (startsWithName tokens || startsWithWord "_" tokens || isSelf) &&
    startsWithColon (afterOne tokens)
  let name ← if named then
      let name ← nameOr ["_", "self"]
      sign ":"
      pure (some name)
    else pure none
  let place ← get
  if isFirst && !(named && isSelf) && startsWithWord "mut" place &&
      startsWithWord "self" (afterOne place) then
    discard (word? "mut")
    discard (word? "self")
    return .mk attributes none (.unformatted (← readSince start))
  if hasMutable && name.isNone then
    word "self"
    return .mk attributes none (.unformatted (← readSince start))
  let type ← wholeType readers
  if hasMutable then return .mk attributes none (.unformatted (← readSince start))
  return .mk attributes name type

/-- At most `rounds` inputs of a function type up to the closing parenthesis, which is taken too,
with what was left over in front of it. -/
def functionInputs (isFirst : Bool) :
    Nat → Reader (List FunctionInput × Option FurtherInputs × Option Delimiter)
  | 0 => tooDeep
  | rounds + 1 => do
    if ← peek isEnd then return ([], none, ← closingUnnoted .paren)
    let attributes ← outerAttributes readers
    match ← furtherInputs? attributes with
    | some further => return ([], some further, ← closingUnnoted .paren)
    | none =>
      let input ← functionInput readers attributes isFirst
      if ← peek isEnd then return ([input], none, ← closingUnnoted .paren)
      sign ","
      let (inputs, rest) ← functionInputs false rounds
      return (input :: inputs, rest)

/-- A function type. What is left over behind its inputs is noted behind its result. -/
def functionType (binder : Option (List GenericParameter)) : Reader TypeExpr := do
  let unchecked ← word? "unsafe"
  let convention ← convention
  word "fn"
  opening .paren
  let (inputs, further, surplus) ← functionInputs readers true (← limit)
  let result ← result? readers false
  noteSurplus surplus
  return .function binder unchecked convention inputs further result

/-- A slice or an array. -/
def bracketType : Reader TypeExpr := do
  opening .bracket
  let element ← wholeType readers
  let type ← if ← sign? ";" then
      pure (.array element (← wholeExpr readers).excerpt)
    else pure (.slice element)
  closing .bracket
  return type

def pointerType : Reader TypeExpr := do
  if ← word? "const" then return .pointer false (← readers.type false)
  if ← word? "mut" then return .pointer true (← readers.type false)
  expected [.word "const", .word "mut"]

/-- A type given by a path, by a path and further bounds or by a use of a macro. -/
def pathType (binder : Option (List GenericParameter)) (plus : Bool) : Reader TypeExpr := do
  let route ← route readers true
  match route with
  | .plain absolute segments =>
    let tokens ← get
    if startsWith "!" tokens && !startsWith "!=" tokens then
      if let some path := route.path? then
        sign "!"
        let (delimiter, body) ← delimited
        return .invocation path delimiter body
    if binder.isSome || plus && startsWith "+" tokens then
      let first := Bound.interface false binder false absolute segments
      return .object (first :: (← moreBounds readers .object plus))
    return .path route
  | .within .. => return .path route

/-- What can follow parameters for any choice of which a type is meant. -/
def boundTypeStarts : List Alternative :=
  [.name, .word "fn", .word "unsafe", .word "extern", .word "super", .word "self", .word "Self",
   .word "crate"]

/-- What can start a type. -/
def typeStarts : List Alternative :=
  [.word "for", .group .paren, .word "fn", .word "unsafe", .word "extern", .name, .sign "::",
   .sign "<", .word "dyn", .group .bracket, .sign "*", .sign "&", .sign "!", .word "impl",
   .word "_", .lifetime]

def typeStep (plus : Bool) : Reader TypeExpr := do
  let start ← get
  let binder ← binder readers
  let tokens ← get
  let isFunction := startsWithAnyWord ["fn", "unsafe", "extern"] tokens
  if binder.isSome && !isFunction && !startsWithSegment tokens then expected boundTypeStarts
  if startsWithOpening .paren tokens then enclosedType readers plus
  else if isFunction then functionType readers binder
  else if startsBuiltin tokens then return .unformatted (← builtin)
  else if startsWithSegment tokens || startsWith "::" tokens || startsWith "<" tokens then
    pathType readers binder plus
  else if ← word? "dyn" then
    let starred ← sign? "*"
    let bounds ← objectBounds readers plus
    if starred then return .unformatted (← readSince start) else return .object bounds
  else if startsWithOpening .bracket tokens then bracketType readers
  else if ← sign? "*" then pointerType readers
  else if ← sign? "&" then
    let lifetime ← lifetime?
    let mutable ← word? "mut"
    return .reference lifetime mutable (← readers.type false)
  else if ← sign? "!" then return .never
  else if ← word? "impl" then
    let bounds ← bounds readers .hidden plus
    if bounds.any isInterface then return .hidden bounds
    else throw (.unexpected false "at least one trait must be specified")
  else if ← word? "_" then return .inferred
  else if startsWithLifetime tokens then return .object (← objectBounds readers true)
  else expected typeStarts

/-! ## Conditions -/

/-- What ends the conditions of an item or the bounds in one of them. -/
def endsCondition (tokens : List Token) : Bool :=
  isEnd tokens || startsWithOpening .brace tokens || startsWith "," tokens ||
    startsWith ";" tokens || startsWithColon tokens || startsWith "=" tokens

def condition : Reader Condition := do
  let tokens ← get
  if startsWithLifetime tokens && startsWith ":" (afterOne tokens) then
    let name ← lifetime
    sign ":"
    return .lifetime name
      (← chain "+" (fun tokens => endsCondition tokens || startsWith ":" tokens) lifetime)
  let binder ← binder readers
  let type ← wholeType readers
  sign ":"
  return .type binder type (← chain "+" endsCondition (readers.bound .declaration))

/-- The conditions of an item, if there are any. -/
def conditions : Reader (List Condition) := do
  if ← word? "where" then
    if ← peek startsParameters then
      wrong "generic parameters on `where` clauses are reserved for future use"
    chain "," endsCondition (condition readers)
  else return []

end

end WireErrors.Source.Reader
