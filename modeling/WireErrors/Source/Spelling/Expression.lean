import WireErrors.Source.Tree.Expression
import WireErrors.Source.Spelling.Type

/-!
# Tokens of patterns and expressions

`tokens` spells a tree as it stands: parentheses are spelled where the tree has them and nowhere
else.
-/

namespace WireErrors.Source

open Token

/-! ## Patterns -/

def RangeEnd.tokens : RangeEnd → List Token
  | .literal text => [.literal text]
  | .path route => route.tokens false
  | .constant block => block.tokens

/-- An end of a range, if there is one. -/
def rangeEndTokens : Option RangeEnd → List Token
  | none => []
  | some rangeEnd => rangeEnd.tokens

/-- The sign of a range. -/
def rangeSign (closed : Bool) : List Token := sign (if closed then "..=" else "..")

/-- The words in front of a variable. -/
def variableWords (byReference mutable : Bool) : List Token :=
  wordIf byReference "ref" ++ wordIf mutable "mut"

mutual

def Pattern.tokens : Pattern → List Token
  | .wildcard => [.ident "_"]
  | .rest => sign ".."
  | .binding name => [.ident name]
  | .variable byReference mutable name => variableWords byReference mutable ++ [.ident name]
  | .capture byReference mutable name pattern =>
    variableWords byReference mutable ++ .ident name :: sign "@" ++ pattern.tokens
  | .literal text => [.literal text]
  | .path route => route.tokens false
  | .tuple route fields =>
    route.tokens false ++ group .paren (commaSeparated (Pattern.listTokens fields))
  | .record route fields rest =>
    route.tokens false ++ group .brace (commaSeparated (FieldPattern.listTokens fields ++
      (rest.map fun attributes => attributeTokens attributes ++ sign "..").toList))
  | .plainTuple fields comma =>
    group .paren (commaSeparated (Pattern.listTokens fields) ++ signIf comma ",")
  | .enclosed pattern => group .paren pattern.tokens
  | .slice elements => group .bracket (commaSeparated (Pattern.listTokens elements))
  | .reference mutable pattern => sign "&" ++ wordIf mutable "mut" ++ pattern.tokens
  | .range first closed last =>
    rangeEndTokens first ++ rangeSign closed ++ rangeEndTokens last
  | .alternatives cases => List.intercalate (sign "|") (Pattern.listTokens cases)
  | .constant block => block.tokens
  | .invocation path delimiter body => path.tokens ++ sign "!" ++ group delimiter body
  | .unformatted tokens => tokens

def Pattern.listTokens : List Pattern → List (List Token)
  | [] => []
  | pattern :: rest => pattern.tokens :: Pattern.listTokens rest

def FieldPattern.tokens : FieldPattern → List Token
  | .mk attributes name pattern =>
    attributeTokens attributes ++ namedTokens name ++ pattern.tokens

def FieldPattern.listTokens : List FieldPattern → List (List Token)
  | [] => []
  | field :: rest => field.tokens :: FieldPattern.listTokens rest

end

def TypedPattern.tokens (typed : TypedPattern) : List Token :=
  attributeTokens typed.attributes ++ typed.pattern.tokens ++
    (match typed.type with | some type => sign ":" ++ type.tokens | none => [])

/-! ## Expressions -/

/-- The name of a loop or block in front of it. -/
def labelTokens : Option String → List Token
  | none => []
  | some name => Token.lifetime name ++ sign ":"

/-- The name of the loop or block that a jump goes to. -/
def targetTokens : Option String → List Token
  | none => []
  | some name => Token.lifetime name

def BlockKind.tokens : BlockKind → List Token
  | .plain => []
  | .unchecked => [.ident "unsafe"]
  | .constant => [.ident "const"]
  | .fallible => [.ident "try"]
  | .deferred moves => .ident "async" :: wordIf moves "move"

def ClosureKind.tokens (kind : ClosureKind) : List Token :=
  wordIf kind.constant "const" ++ wordIf kind.immovable "static" ++ wordIf kind.deferred "async" ++
    wordIf kind.moves "move"

mutual

def Expr.tokens : Expr → List Token
  | .attributed attributes value => attributeTokens attributes ++ value.tokens
  | .path route => route.tokens false
  | .literal text => [.literal text]
  | .inferred => [.ident "_"]
  | .unary operator operand => sign operator.text ++ operand.tokens
  | .reference mutable target => sign "&" ++ wordIf mutable "mut" ++ target.tokens
  | .rawReference mutable target =>
    sign "&" ++ [.ident "raw", .ident (if mutable then "mut" else "const")] ++ target.tokens
  | .binary operator left right => left.tokens ++ sign operator.text ++ right.tokens
  | .assign none left right => left.tokens ++ sign "=" ++ right.tokens
  | .assign (some operator) left right =>
    left.tokens ++ sign (operator.text ++ "=") ++ right.tokens
  | .cast value type => value.tokens ++ .ident "as" :: type.tokens
  | .range first closed last =>
    Expr.optionTokens first ++ rangeSign closed ++ Expr.optionTokens last
  | .call function arguments =>
    function.tokens ++ group .paren (commaSeparated (Expr.listTokens arguments))
  | .method receiver name arguments =>
    receiver.tokens ++ sign "." ++ .ident name ::
      group .paren (commaSeparated (Expr.listTokens arguments))
  | .genericMethod receiver name generic arguments =>
    receiver.tokens ++ sign "." ++ .ident name :: (Arguments.angled generic).tokens false ++
      group .paren (commaSeparated (Expr.listTokens arguments))
  | .field receiver name => receiver.tokens ++ sign "." ++ [.ident name]
  | .index receiver index => receiver.tokens ++ group .bracket index.tokens
  | .propagate value => value.tokens ++ sign "?"
  | .await value => value.tokens ++ sign "." ++ [.ident "await"]
  | .enclosed value => group .paren value.tokens
  | .tuple [] => group .paren []
  | .tuple (first :: rest) =>
    group .paren (first.tokens ++ sign "," ++ commaSeparated (Expr.listTokens rest))
  | .array elements => group .bracket (commaSeparated (Expr.listTokens elements))
  | .repeated element length => group .bracket (element.tokens ++ sign ";" ++ length.tokens)
  | .record route fields none =>
    route.tokens false ++ group .brace (commaSeparated (FieldValue.listTokens fields))
  | .record route fields (some base) =>
    route.tokens false ++
      group .brace (commaSeparated (FieldValue.listTokens fields ++ [sign ".." ++ base.tokens]))
  | .invocation path delimiter body => path.tokens ++ sign "!" ++ group delimiter body
  | .block kind label body =>
    labelTokens label ++ kind.tokens ++ body.tokens
  | .conditional condition body otherwise =>
    .ident "if" :: condition.tokens ++ group .brace (Statement.listTokens body) ++
      otherwise.tokens
  | .matching pattern value => .ident "let" :: pattern.tokens ++ sign "=" ++ value.tokens
  | .select subject inner arms =>
    .ident "match" :: subject.tokens ++
      group .brace (attributeTokens inner ++ Arm.listTokens arms)
  | .forever label body => labelTokens label ++ .ident "loop" :: body.tokens
  | .repeatWhile label condition body =>
    labelTokens label ++ .ident "while" :: condition.tokens ++ body.tokens
  | .forEach label pattern subject body =>
    labelTokens label ++ .ident "for" :: pattern.tokens ++ .ident "in" :: subject.tokens ++
      body.tokens
  | .closure binder kind inputs result body =>
    binderTokens binder ++ kind.tokens ++ sign "|" ++
      commaSeparated (inputs.map TypedPattern.tokens) ++ sign "|" ++
      (match result with | some type => sign "->" ++ type.tokens | none => []) ++ body.tokens
  | .giveBack value => .ident "return" :: Expr.optionTokens value
  | .leave label value => .ident "break" :: targetTokens label ++ Expr.optionTokens value
  | .again label => .ident "continue" :: targetTokens label
  | .yield value => .ident "yield" :: Expr.optionTokens value
  | .unformatted tokens => tokens

def Expr.optionTokens : Option Expr → List Token
  | none => []
  | some expr => expr.tokens

def Expr.listTokens : List Expr → List (List Token)
  | [] => []
  | expr :: rest => expr.tokens :: Expr.listTokens rest

def Body.tokens : Body → List Token
  | .mk attributes statements =>
    group .brace (attributeTokens attributes ++ Statement.listTokens statements)

def Otherwise.tokens : Otherwise → List Token
  | .none => []
  | .block body => .ident "else" :: group .brace (Statement.listTokens body)
  | .conditional condition body otherwise =>
    .ident "else" :: .ident "if" :: condition.tokens ++
      group .brace (Statement.listTokens body) ++ otherwise.tokens

def FieldValue.tokens : FieldValue → List Token
  | .mk attributes name none => attributeTokens attributes ++ [.ident name]
  | .mk attributes name (some value) =>
    attributeTokens attributes ++ .ident name :: sign ":" ++ value.tokens

def FieldValue.listTokens : List FieldValue → List (List Token)
  | [] => []
  | field :: rest => field.tokens :: FieldValue.listTokens rest

/-- A match arm, always with a comma after it. -/
def Arm.tokens : Arm → List Token
  | .mk attributes pattern none body =>
    attributeTokens attributes ++ pattern.tokens ++ sign "=>" ++ body.tokens ++ sign ","
  | .mk attributes pattern (some guard) body =>
    attributeTokens attributes ++ pattern.tokens ++ .ident "if" :: guard.tokens ++ sign "=>" ++
      body.tokens ++ sign ","

def Arm.listTokens : List Arm → List Token
  | [] => []
  | arm :: rest => arm.tokens ++ Arm.listTokens rest

def Statement.tokens : Statement → List Token
  | .expr value semicolon => value.tokens ++ signIf semicolon ";"
  | .invocation attributes path delimiter body semicolon =>
    attributeTokens attributes ++ path.tokens ++ sign "!" ++ group delimiter body ++
      signIf semicolon ";"
  | .bind attributes target none =>
    attributeTokens attributes ++ .ident "let" :: target.tokens ++ sign ";"
  | .bind attributes target (some value) =>
    attributeTokens attributes ++ .ident "let" :: target.tokens ++ sign "=" ++ value.tokens ++
      sign ";"
  | .bindOr attributes target value otherwise =>
    attributeTokens attributes ++ .ident "let" :: target.tokens ++ sign "=" ++ value.tokens ++
      .ident "else" :: group .brace (Statement.listTokens otherwise) ++ sign ";"
  | .item item => item.tokens
  | .empty => sign ";"

def Statement.listTokens : List Statement → List Token
  | [] => []
  | statement :: rest => statement.tokens ++ Statement.listTokens rest

end

end WireErrors.Source
