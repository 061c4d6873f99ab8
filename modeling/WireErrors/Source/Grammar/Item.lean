import WireErrors.Source.Tree.Item
import WireErrors.Source.Grammar.Expression

/-!
# Reading items and files

`File.read` reads the text of a file as a source tree. A refusal says what was expected where
reading stopped.
-/

namespace WireErrors.Source

namespace Reader

section

variable (readers : Readers)

/-! ## Functions -/

/-- The parameter `self`. -/
def receiver (attributes : List Attribute) : Reader Parameter := do
  let reference ← if ← sign? "&" then some <$> lifetime? else pure none
  let mutable ← word? "mut"
  word "self"
  if ← peek (startsWith "::") then wrong "expected `:`"
  if reference.isNone && (← sign? ":") then
    return .receiver attributes reference mutable (some (← wholeType readers))
  return .receiver attributes reference mutable none

/-- A parameter; dots are read with the comma after them. -/
def parameter : Reader Parameter := do
  let attributes ← outerAttributes readers
  let tokens ← get
  if ← sign? "..." then
    endDots
    return .further attributes none
  match ← attempt (receiver readers attributes) with
  | some receiver => return receiver
  | none =>
    if startsWithName tokens && startsWith "<" (afterOne tokens) then
      return .typed attributes .wildcard (← wholeType readers)
    let pattern ← readers.pattern
    sign ":"
    if ← sign? "..." then
      endDots
      return .further attributes (some pattern)
    return .typed attributes pattern (← wholeType readers)
where
  /-- The comma behind dots that do not end the parameters. -/
  endDots : Reader Unit := do if !(← peek isEnd) then sign ","

/-- At most `rounds` parameters up to the closing parenthesis, which is taken too, with what was
left over in front of it; `before` are those in front of them. -/
def parameterRounds (before : List Parameter) :
    Nat → Reader (List Parameter × Option Delimiter)
  | 0 => tooDeep
  | rounds + 1 => do
    if ← peek isEnd then return (before, ← closingUnnoted .paren)
    let next ← parameter readers
    if isFurther next then return (before ++ [next], ← closingUnnoted .paren)
    if isReceiver next then
      if before.any isReceiver then
        throw (.unexpected false "unexpected second method receiver")
      if !before.isEmpty then throw (.unexpected false "unexpected method receiver")
    if ← peek isEnd then return (before ++ [next], ← closingUnnoted .paren)
    sign ","
    parameterRounds (before ++ [next]) rounds
where
  isReceiver : Parameter → Bool
    | .receiver .. => true
    | _ => false
  isFurther : Parameter → Bool
    | .further .. => true
    | _ => false

/-- What is left after a word at the front. -/
def withoutWord (word : String) (tokens : List Token) : List Token :=
  if startsWithWord word tokens then afterOne tokens else tokens

/-- What is left after a calling convention at the front. -/
def withoutConvention : List Token → List Token
  | .ident "extern" :: .literal text :: rest =>
    if literalKind text == .text then rest else .literal text :: rest
  | tokens => withoutWord "extern" tokens

/-- Whether a function starts here. -/
def startsSignature (tokens : List Token) : Bool :=
  startsWithWord "fn" (withoutConvention
    (withoutWord "unsafe" (withoutWord "async" (withoutWord "const" tokens))))

/-- Whether a foreign function starts here, which may be marked as safe. -/
def startsForeignSignature (tokens : List Token) : Bool :=
  let marked := withoutWord "async" (withoutWord "const" tokens)
  startsSignature tokens || startsWithWord "safe" marked &&
    startsWithWord "fn" (withoutConvention (withoutWord "safe" marked))

/-- A function up to its body. What is left over behind its parameters is noted at the end. -/
def signature (attributes : List Attribute) (visibility : Visibility) (replaceable : Bool) :
    Reader Signature := do
  let constant ← word? "const"
  let deferred ← word? "async"
  let unchecked ← word? "unsafe"
  let convention ← convention
  word "fn"
  let name ← name
  let generics ← genericParameters readers
  opening .paren
  let (parameters, surplus) ← parameterRounds readers [] (← limit)
  let result ← result? readers true
  let conditions ← conditions readers
  noteSurplus surplus
  return {
    attributes, visibility, replaceable, constant, deferred, unchecked, convention, name,
    generics := ⟨generics, conditions⟩, parameters, result }

/-- The body of a function and the attributes inside of it. -/
def functionBody (signature : Signature) : Reader Function := do
  opening .brace
  let inner ← innerAttributes readers
  let body ← readers.statements
  return { signature with attributes := signature.attributes ++ inner, body }

/-! ## Constants and aliases -/

/-- A constant after its first word, if formatting has a layout for it. -/
def constant? (attributes : List Attribute) (visibility : Visibility) (replaceable : Bool) :
    Reader (Option Constant) := do
  let tokens ← get
  if !startsWithName tokens && !startsWithWord "_" tokens then expected [.name, .word "_"]
  let name ← nameOr ["_"]
  let generic ← peek (startsWith "<")
  discard (genericParameters readers)
  sign ":"
  let type ← wholeType readers
  let value ← if ← sign? "=" then some <$> wholeExpr readers else pure none
  let conditional ← peek (startsWithWord "where")
  discard (conditions readers)
  sign ";"
  match value with
  | some value =>
    if generic || conditional then return none
    return some { attributes, visibility, replaceable, name, type, value }
  | none => return none

/-- A name for a type, as it is declared. -/
structure AliasParts where
  name : String
  generics : Generics
  bounds : Option (List Bound)
  type : Option TypeExpr

/-- A name for a type, after its first word; conditions may stand in front of the type, after it or
in either place. -/
def aliasParts (before after : Bool) : Reader AliasParts := do
  let name ← name
  let generics ← genericParameters readers
  let bounds ← if ← sign? ":" then
      some <$> list "+" (fun tokens => startsWithWord "where" tokens || startsWith "=" tokens ||
        startsWith ";" tokens) (readers.bound .declaration)
    else pure none
  let conditional ← peek (startsWithWord "where")
  let first ← if before then conditions readers else pure []
  let type ← if ← sign? "=" then some <$> wholeType readers else pure none
  let last ← if after && !(before && conditional) then conditions readers else pure []
  sign ";"
  return ⟨name, ⟨generics, first ++ last⟩, bounds, type⟩

/-- A name for a type, if formatting has a layout for it. -/
def alias? (isMember : Bool) (attributes : List Attribute) (visibility : Visibility)
    (replaceable : Bool) : Reader (Option Alias) := do
  let parts ← aliasParts readers (!isMember) isMember
  match parts.type, parts.bounds with
  | some type, none =>
    return some {
      attributes, visibility, replaceable, name := parts.name, generics := parts.generics, type }
  | _, _ => return none

/-! ## Uses of macros -/

/-- What can start the use of a macro. -/
def invocationStarts : List Alternative :=
  [.name, .word "self", .word "super", .word "crate", .sign "::"]

def startsInvocation (tokens : List Token) : Bool :=
  startsWithName tokens || startsWithAnyWord ["self", "super", "crate"] tokens ||
    startsWith "::" tokens

/-- A use of a macro in place of an item or member; in that of an item, a name may follow the
path. -/
def invocation (attributes : List Attribute) (named : Bool) : Reader Invocation := do
  let path ← plainPath
  sign "!"
  let tokens ← get
  let name ← if named && (startsWithName tokens || startsWithWord "try" tokens) then
      some <$> nameOr ["try"]
    else pure none
  let (delimiter, body) ← delimited
  if delimiter != .brace then sign ";"
  return ⟨attributes, path, name, delimiter, body⟩

/-! ## Members -/

/-- What was read since a place, as a member without a layout. -/
def unformattedMember (start : List Token) : Reader Member := do
  return .unformatted (← readSince start)

/-- A member of an `impl` block. -/
def member : Reader Member := do
  let start ← get
  let attributes ← outerAttributes readers
  let visibility ← visibility
  let replaceable ← if startsWith "!" (afterOne (← get)) then pure false else word? "default"
  let tokens ← get
  if startsSignature tokens then
    let signature ← signature readers attributes visibility replaceable
    if ← sign? ";" then unformattedMember start
    else return .function (← functionBody readers signature)
  else if ← word? "const" then
    match ← constant? readers attributes visibility replaceable with
    | some constant => return .constant constant
    | none => unformattedMember start
  else if ← word? "type" then
    match ← alias? readers true attributes visibility replaceable with
    | some a => return .alias a
    | none => unformattedMember start
  else
    let plain := visibility = .inherited && !replaceable
    if plain && startsInvocation tokens then
      return .invocation (← invocation attributes false)
    else
      expected ((if replaceable then [] else [.word "default"]) ++
        [.word "fn", .word "const", .word "type"] ++ (if plain then invocationStarts else []))

/-- A constant of a trait. -/
def interfaceConstant (start : List Token) (attributes : List Attribute) : Reader Member := do
  let constant ← get
  word "const"
  let tokens ← get
  if startsWithAnyWord ["async", "unsafe", "extern", "fn"] tokens then
    set constant
    return .functionDeclaration (← signature readers attributes .inherited false)
  if !startsWithName tokens && !startsWithWord "_" tokens then
    expected [.name, .word "_", .word "async", .word "unsafe", .word "extern", .word "fn"]
  let name ← nameOr ["_"]
  let generic ← peek (startsWith "<")
  discard (genericParameters readers)
  sign ":"
  let type ← wholeType readers
  let value ← if ← sign? "=" then some <$> wholeExpr readers else pure none
  let conditional ← peek (startsWithWord "where")
  discard (conditions readers)
  sign ";"
  if generic || conditional then unformattedMember start
  else
    match value with
    | some value => return .constant { attributes, name, type, value }
    | none => return .constantDeclaration attributes name type

/-- A member of a trait without what only members of `impl` blocks have in front. -/
def plainInterfaceMember (start : List Token) (attributes : List Attribute) (plain : Bool) :
    Reader Member := do
  let tokens ← get
  if startsSignature tokens then
    let signature ← signature readers attributes .inherited false
    if ← sign? ";" then return .functionDeclaration signature
    else if ← peek (startsWithOpening .brace) then
      return .function (← functionBody readers signature)
    else expected [.group .brace, .sign ";"]
  else if startsWithWord "const" tokens then interfaceConstant readers start attributes
  else if ← word? "type" then
    let parts ← aliasParts readers false true
    return .typeDeclaration attributes parts.name parts.generics (parts.bounds.getD []) parts.type
  else if plain && startsInvocation tokens then
    return .invocation (← invocation attributes false)
  else
    expected ([.word "fn", .word "const", .word "type"] ++ if plain then invocationStarts else [])

/-- A member of a trait. -/
def interfaceMember : Reader Member := do
  let start ← get
  let attributes ← outerAttributes readers
  let visibility ← visibility
  let replaceable ← word? "default"
  let plain := visibility = .inherited && !replaceable
  let member ← plainInterfaceMember readers start attributes plain
  if plain then return member else unformattedMember start

/-! ## Types with fields -/

/-- A field with a name; the type of one without a name may be given by further fields, nested to
a limited depth. -/
def namedFieldTo : Nat → Reader Field
  | 0 => tooDeep
  | depth + 1 => do
    let attributes ← outerAttributes readers
    let visibility ← visibility
    let name ← nameOr ["_"]
    sign ":"
    let start ← get
    if name == "_" && (startsWithWord "struct" start ||
        startsWithWord "union" start && startsWithOpening .brace (afterOne start)) then
      discard (nameOr ["struct"])
      opening .brace
      discard (commaList .brace (namedFieldTo depth))
      let tokens ← readSince start
      return { attributes, visibility, name := some name, type := .unformatted tokens }
    return { attributes, visibility, name := some name, type := ← wholeType readers }

def positionalField : Reader Field := do
  let attributes ← outerAttributes readers
  let visibility ← visibility
  return { attributes, visibility, name := none, type := ← wholeType readers }

def namedFields : Reader (List Field) := do
  opening .brace
  commaList .brace (namedFieldTo readers (← limit))

def positionalFields : Reader (List Field) := do
  opening .paren
  commaList .paren (positionalField readers)

/-- The start of an item, from its name on, without conditions. -/
def heading (attributes : List Attribute) (visibility : Visibility) : Reader Heading := do
  let name ← name
  let parameters ← genericParameters readers
  return { attributes, visibility, name, generics := ⟨parameters, []⟩ }

/-- Adds the conditions that follow to the start of an item. -/
def withConditions (heading : Heading) : Reader Heading := do
  return { heading with
    generics := ⟨heading.generics.parameters, ← conditions readers⟩ }

/-- The rest of a struct after the start. -/
def record (heading : Heading) : Reader Item := do
  let conditional ← peek (startsWithWord "where")
  let heading ← withConditions readers heading
  let tokens ← get
  if !conditional && startsWithOpening .paren tokens then
    let fields ← positionalFields readers
    let conditionalAfter ← peek (startsWithWord "where")
    let heading ← withConditions readers heading
    if ← sign? ";" then return .record heading (.positional fields)
    else expected (if conditionalAfter then [.sign ";"] else [.word "where", .sign ";"])
  else if startsWithOpening .brace tokens then
    return .record heading (.named (← namedFields readers))
  else if ← sign? ";" then return .record heading .none
  else
    expected ((if conditional then [] else [.word "where", .group .paren]) ++
      [.group .brace, .sign ";"])

def variant : Reader Variant := do
  let attributes ← outerAttributes readers
  discard visibility
  let name ← name
  let tokens ← get
  let fields ← if startsWithOpening .brace tokens then .named <$> namedFields readers
    else if startsWithOpening .paren tokens then .positional <$> positionalFields readers
    else pure .none
  let value ← if ← sign? "=" then some <$> wholeExpr readers else pure none
  return { attributes, name, fields, value }

def enumeration (heading : Heading) : Reader Item := do
  let heading ← withConditions readers heading
  opening .brace
  return .enumeration heading (← commaList .brace (variant readers))

/-! ## Imports -/

/-- What can start an import or a part of one. -/
def importStarts : List Alternative :=
  [.name, .word "self", .word "super", .word "crate", .word "try", .sign "*", .group .brace]

/-- The new name of an import. -/
def newName : Reader String := do
  let tokens ← get
  if startsWithName tokens || startsWithWord "_" tokens then nameOr ["_"]
  else wrong "expected identifier or underscore"

/-- An import, after any `::` in front, that nests to a limited depth. Where `rooted`, `::` may
stand in front of a part of it; then it has no layout. -/
def importTree : Nat → Bool → Reader (Option Import)
  | 0, _ => tooDeep
  | depth + 1, rooted => do
    let tokens ← get
    if startsWithName tokens || startsWithAnyWord ["self", "super", "crate", "try"] tokens then
      let name ← nameOr ["self", "super", "crate", "try"]
      if ← sign? "::" then return (← importTree depth false).map (.inside name)
      if ← word? "as" then return some (.renamed name (← newName))
      return some (.item name)
    if ← sign? "*" then return some .all
    if startsWithOpening .brace tokens then
      opening .brace
      let trees ← commaList .brace do
        let root ← if rooted then sign? "::" else pure false
        let tree ← importTree depth (rooted && !root)
        return if root then none else tree
      return if trees.all Option.isSome then some (.several (trees.filterMap id)) else none
    expected importStarts

/-! ## Items -/

/-- A block of members for a type, from its first word or a word in front of that on. -/
def implementation (start : List Token) (attributes : List Attribute) (visibility : Visibility) :
    Reader Item := do
  let replaceable ← word? "default"
  let unchecked ← word? "unsafe"
  word "impl"
  let tokens ← get
  let parameters ← if startsParameters tokens then genericParameters readers else pure []
  let tokens ← get
  let constant := startsWithWord "const" tokens ||
    startsWith "?" tokens && startsWithWord "const" (afterOne tokens)
  if constant then
    discard (sign? "?")
    word "const"
  let tokens ← get
  let negative ← if startsWithOpening .brace (afterOne tokens) then pure false else sign? "!"
  let first ← wholeType readers
  let isFor ← word? "for"
  if !isFor && negative then throw (.unexpected false "inherent impls cannot be negative")
  let type ← if isFor then wholeType readers else pure first
  let conditions ← conditions readers
  opening .brace
  let inner ← innerAttributes readers
  let members ← upTo .brace (member readers)
  if visibility ≠ .inherited || constant || isFor && !isPath first then
    return .unformatted (← readSince start)
  return .implementation (attributes ++ inner) replaceable unchecked ⟨parameters, conditions⟩
    negative (if isFor then some first else none) type members
where
  isPath : TypeExpr → Bool
    | .path (.plain ..) => true
    | _ => false

/-- A trait, from its first word or a word in front of that on. -/
def interface (attributes : List Attribute) (visibility : Visibility) : Reader Item := do
  let unchecked ← word? "unsafe"
  let automatic ← word? "auto"
  word "trait"
  let heading ← heading readers attributes visibility
  let tokens ← get
  if !unchecked && !automatic then
    if ← sign? "=" then
      let bounds ← list "+" (fun tokens => startsWithWord "where" tokens || startsWith ";" tokens)
        (readers.bound .declaration)
      let heading ← withConditions readers heading
      sign ";"
      return .interfaceAlias heading bounds
    if !startsWithOpening .brace tokens && !startsWith ":" tokens &&
        !startsWithWord "where" tokens then
      expected [.group .brace, .sign ":", .word "where", .sign "="]
  let bounds ← if ← sign? ":" then
      list "+" (fun tokens => startsWithWord "where" tokens || startsWithOpening .brace tokens)
        (readers.bound .declaration)
    else pure []
  let heading ← withConditions readers heading
  opening .brace
  let inner ← innerAttributes readers
  let members ← upTo .brace (interfaceMember readers)
  return .interface { heading with attributes := heading.attributes ++ inner } unchecked automatic
    bounds members

/-- A module, from its first word or a word in front of that on. -/
def module (attributes : List Attribute) (visibility : Visibility) :
    Reader Item := do
  let unchecked ← word? "unsafe"
  word "mod"
  let name ← nameOr ["try"]
  if ← sign? ";" then return .moduleFile attributes visibility unchecked name
  if !(← peek (startsWithOpening .brace)) then expected [.sign ";", .group .brace]
  opening .brace
  let inner ← innerAttributes readers
  return .module (attributes ++ inner) visibility unchecked name (← upTo .brace readers.item)

/-- A static variable, after its first word. -/
def staticItem (start : List Token) (attributes : List Attribute) (visibility : Visibility) :
    Reader Item := do
  let mutable ← word? "mut"
  let name ← name
  if ← sign? "=" then
    discard (wholeExpr readers)
    sign ";"
    return .unformatted (← readSince start)
  sign ":"
  let type ← wholeType readers
  if ← sign? ";" then return .unformatted (← readSince start)
  sign "="
  let value ← wholeExpr readers
  sign ";"
  return .static mutable { attributes, visibility, name, type, value }

/-- A declaration of a foreign function, a function of which that has a body has no layout. -/
def foreignFunction (start : List Token) (attributes : List Attribute) (visibility : Visibility) :
    Reader Member := do
  let marked := withoutWord "async" (withoutWord "const" (← get))
  let safe := startsWithWord "safe" marked
  let signature ← if safe then
      let constant ← word? "const"
      let deferred ← word? "async"
      discard (word? "safe")
      let rest ← signature readers attributes visibility false
      pure { rest with constant, deferred }
    else signature readers attributes visibility false
  let hasBody ← peek (startsWithOpening .brace)
  if hasBody then discard (functionBody readers signature) else sign ";"
  if safe || hasBody then unformattedMember start else return .functionDeclaration signature

/-- A declaration of a foreign variable; one with a value or a mark for its use has no layout. -/
def foreignVariable (start : List Token) (attributes : List Attribute) (visibility : Visibility) :
    Reader Member := do
  let unchecked ← word? "unsafe"
  let safe ← if unchecked then pure false else word? "safe"
  word "static"
  let mutable ← word? "mut"
  let name ← name
  sign ":"
  let type ← wholeType readers
  let hasValue ← sign? "="
  if hasValue then discard (wholeExpr readers)
  sign ";"
  if unchecked || safe || hasValue then unformattedMember start
  else return .staticDeclaration attributes visibility mutable name type

/-- A declaration of something foreign. -/
def foreignMember : Reader Member := do
  let start ← get
  let attributes ← outerAttributes readers
  let visibility ← visibility
  let tokens ← get
  let second := afterOne tokens
  if startsForeignSignature tokens then foreignFunction readers start attributes visibility
  else if startsWithWord "static" tokens ||
      startsWithAnyWord ["unsafe", "safe"] tokens && startsWithWord "static" second then
    foreignVariable readers start attributes visibility
  else if ← word? "type" then
    let parts ← aliasParts readers true true
    if parts.bounds.isSome || parts.type.isSome then unformattedMember start
    else
      return .foreignType { attributes, visibility, name := parts.name, generics := parts.generics }
  else if visibility = .inherited && startsInvocation tokens then
    return .invocation (← invocation attributes false)
  else
    expected ([.word "fn", .word "static", .word "type"] ++
      if visibility = .inherited then invocationStarts else [])

/-- Declarations of what is defined elsewhere, which can have no visibility. -/
def foreignBlock (start : List Token) (visibility : Visibility) : Reader Item := do
  set start
  let attributes ← outerAttributes readers
  let unchecked ← word? "unsafe"
  if visibility ≠ .inherited then expected [.word "extern"]
  let convention ← convention
  opening .brace
  let inner ← innerAttributes readers
  let members ← upTo .brace (foreignMember readers)
  return .foreign (attributes ++ inner) unchecked convention members

/-- The import of a library or foreign items. -/
def foreignItem (start : List Token) (attributes : List Attribute) (visibility : Visibility) :
    Reader Item := do
  match ← get with
  | _ :: .ident "crate" :: rest =>
    set rest
    let name ← nameOr ["self"]
    let newName ← if ← word? "as" then some <$> nameOr ["_"] else pure none
    sign ";"
    return .library attributes visibility name newName
  | _ :: .opening .brace :: _ => foreignBlock readers start visibility
  | _ :: .literal text :: rest =>
    if literalKind text != .text then
      discard (word? "extern")
      expected foreignStarts
    if !startsWithOpening .brace rest then
      set rest
      expected [.group .brace]
    foreignBlock readers start visibility
  | _ =>
    discard (word? "extern")
    expected foreignStarts
where
  foreignStarts : List Alternative := [.word "crate", .group .brace, .string]

/-- What can start an item. -/
def itemStarts : List Alternative :=
  [.word "fn", .word "extern", .word "use", .word "static", .word "const", .word "unsafe",
   .word "mod", .word "type", .word "struct", .word "enum", .word "union", .word "trait",
   .word "auto", .word "impl", .word "default", .word "macro"]

/-- An item that starts with the word for unchecked code and is no function. -/
def uncheckedItem (start : List Token) (attributes : List Attribute)
    (visibility : Visibility) : Reader Item := do
  let tokens := afterOne (← get)
  if startsWithWord "trait" tokens ||
      startsWithWord "auto" tokens && startsWithWord "trait" (afterOne tokens) then
    interface readers attributes visibility
  else if startsWithWord "impl" tokens then implementation readers start attributes visibility
  else if startsWithWord "extern" tokens then
    foreignBlock readers start visibility
  else if startsWithWord "mod" tokens then module readers attributes visibility
  else
    set tokens
    expected [.word "trait", .word "auto", .word "impl", .word "extern", .word "mod"]

/-- The definition of a macro by a body, after the first word. -/
def macroDefinition : Reader Unit := do
  discard name
  let hasInputs ← peek (startsWithOpening .paren)
  if hasInputs then discard delimited
  if ← peek (startsWithOpening .brace) then discard delimited
  else expected ((if hasInputs then [] else [.group .paren]) ++ [.group .brace])

/-- An item, after its attributes and visibility. -/
def itemBody (start : List Token)
    (attributes : List Attribute) (visibility : Visibility) : Reader Item := do
  let tokens ← get
  let second := afterOne tokens
  if startsSignature tokens then
    let signature ← signature readers attributes visibility false
    if ← sign? ";" then return .unformatted (← readSince start)
    return .function (← functionBody readers signature)
  else if startsWithWord "extern" tokens then foreignItem readers start attributes visibility
  else if ← word? "use" then
    let absolute ← sign? "::"
    let tree ← importTree (← limit) (!absolute)
    sign ";"
    match tree with
    | some tree => return .use attributes visibility absolute tree
    | none => return .unformatted (← readSince start)
  else if ← word? "static" then staticItem readers start attributes visibility
  else if ← word? "const" then
    match ← constant? readers attributes visibility false with
    | some constant => return .constant constant
    | none => return .unformatted (← readSince start)
  else if startsWithWord "unsafe" tokens then
    uncheckedItem readers start attributes visibility
  else if startsWithWord "mod" tokens then module readers attributes visibility
  else if ← word? "type" then
    match ← alias? readers false attributes visibility false with
    | some a => return .alias a
    | none => return .unformatted (← readSince start)
  else if ← word? "struct" then record readers (← heading readers attributes visibility)
  else if ← word? "enum" then enumeration readers (← heading readers attributes visibility)
  else if startsWithWord "union" tokens && startsWithName second then
    discard (word? "union")
    let heading ← withConditions readers (← heading readers attributes visibility)
    return .union heading (← namedFields readers)
  else if startsWithWord "trait" tokens ||
      startsWithWord "auto" tokens && startsWithWord "trait" second then
    interface readers attributes visibility
  else if startsWithWord "impl" tokens ||
      startsWithWord "default" tokens && !startsWith "!" second then
    implementation readers start attributes visibility
  else if ← word? "macro" then
    macroDefinition
    return .unformatted (← readSince start)
  else if visibility = .inherited && startsInvocation tokens then
    return .invocation (← invocation attributes true)
  else
    expected (itemStarts ++ if visibility = .inherited then invocationStarts else [])

def itemStep : Reader Item := do
  let start ← get
  let attributes ← outerAttributes readers
  let visibility ← visibility
  itemBody readers start attributes visibility

/-- The next item, unless nothing is left. -/
def nextItem? : Reader (Option Item) := do
  if (← get).isEmpty then return none else some <$> readers.item

/-- The attributes of a file and its items up to the end. -/
def file : Reader File := do
  let attributes ← innerAttributes readers
  let items ← many (nextItem? readers)
  return { attributes, items }

end

/-! ## All readers -/

/-- The readers for what nests to a limited depth. -/
def readers : Nat → Readers
  | 0 => {
      type _ := tooDeep
      bound _ := tooDeep
      pattern := tooDeep
      expr _ := tooDeep
      statements := tooDeep
      item := tooDeep }
  | depth + 1 => {
      type plus rounds tokens := typeStep (readers depth) plus rounds tokens
      bound place rounds tokens := boundStep (readers depth) place rounds tokens
      pattern rounds tokens := patternStep (readers depth) rounds tokens
      expr goal rounds tokens := exprStep (readers depth) goal rounds tokens
      statements rounds tokens := statementsStep (readers depth) rounds tokens
      item rounds tokens := itemStep (readers depth) rounds tokens }

end Reader

/-! ## Files -/

/-- The file that tokens stand for. No kind of tree is read through more than four readers before
one of them takes a token, which bounds the depth of reading. -/
def File.ofTokens (tokens : List Token) : Except SyntaxError File :=
  let reader := Reader.file (Reader.readers (4 * (tokens.length + 1)))
  match ((reader.run (tokens.length + 1)).run tokens).run none with
  | .ok (_, some delimiter) => .error (Reader.surplusError delimiter)
  | .ok ((file, _), none) => .ok file
  | .error refusal => .error refusal

/-- What follows at most `steps` blanks and comments that are no documentation. -/
def afterBlanks : Nat → List Char → List Char
  | 0, text => text
  | steps + 1, text =>
    match text with
    | [] => []
    | _ :: _ =>
      match readStep text with
      | some ([], rest) => afterBlanks steps rest
      | _ => text

/-- A first line for the system's program loader, if there is one, and the text after it. -/
def loaderLine : List Char → Option (List Char) × List Char
  | '#' :: '!' :: rest =>
    match afterBlanks rest.length rest with
    | '[' :: _ => (none, '#' :: '!' :: rest)
    | _ => (some ('#' :: '!' :: rest.takeWhile (· != '\n')), rest.dropWhile (· != '\n'))
  | text => (none, text)

/-- The file that a text stands for. -/
def File.read (text : String) : Except SyntaxError File :=
  let (loader, text) := loaderLine (withoutByteOrderMark text.toList)
  match readChars text with
  | some tokens =>
    (File.ofTokens tokens).map fun file => { file with loader := loader.map String.ofList }
  | none => .error .unreadable

end WireErrors.Source
