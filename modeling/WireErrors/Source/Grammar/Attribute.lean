import WireErrors.Source.Spelling.Item
import WireErrors.Source.Formatting.Item
import WireErrors.Source.Grammar.Reader

/-!
# Reading attributes and blocks

Types, patterns, expressions, statements and items occur in each other. The readers for each kind
are given the readers for all kinds, to read what is inside; `Readers` are these. Here are the
readers for attributes, blocks and visibility.
-/

namespace WireErrors.Source

/-- An expression inside of a tree of another kind. -/
def Expr.excerpt (e : Expr) : Excerpt := ⟨e.tokens, e.layout .inner .alone⟩

/-- An item inside of a tree of another kind. -/
def Item.excerpt (i : Item) : Excerpt := ⟨i.tokens, i.layout⟩

namespace Reader

/-- Which expressions are asked for. With `braces`, a record may stand where a block could. -/
inductive Goal where
  | whole (braces : Bool)
  | unary (braces : Bool)
  /-- An expression that goes on after its first part, with links of a level or above. -/
  | further (braces : Bool) (level : Precedence) (left : Expr)
  /-- An expression that ends where a statement or an arm would end. -/
  | statement

/-- Where a bound stands, which decides about what it can be. -/
inductive BoundPlace where
  /-- In a type whose values have a table of methods: only lifetimes and traits. -/
  | object
  /-- In a type of which only bounds are known: also what it may depend on. -/
  | hidden
  /-- In the declaration of a parameter or member. -/
  | declaration
deriving DecidableEq

structure Readers where
  /-- A type, the bounds of which may be joined by `+` or not. -/
  type : Bool → Reader TypeExpr
  bound : BoundPlace → Reader Bound
  pattern : Reader Pattern
  expr : Goal → Reader Expr
  /-- Statements up to a closing brace, which is taken too. -/
  statements : Reader (List Statement)
  item : Reader Item

section

variable (readers : Readers)

/-- An expression that stands by itself. -/
def wholeExpr : Reader Expr := readers.expr (.whole true)

/-- A type, bounds included. -/
def wholeType : Reader TypeExpr := readers.type true

/-! ## Attributes -/

/-- What follows the path of an attribute. -/
def attributeArgument : Reader AttributeArgument := do
  match ← get with
  | .opening _ :: _ =>
    let (delimiter, body) ← delimited
    return .list delimiter body
  | tokens =>
    if !startsWith "=" tokens || startsWith "==" tokens || startsWith "=>" tokens then return .none
    sign "="
    let tokens ← get
    match literal? tokens with
    | some (text, rest) =>
      if isEnd rest then
        set rest
        return .value text
      else return .expr (← wholeExpr readers).excerpt
    | none =>
      if startsWith "#" tokens && startsWithOpening .bracket (afterOne tokens) then
        wrong "unexpected attribute inside of attribute"
      return .expr (← wholeExpr readers).excerpt

/-- An attribute, after the marks in front of its brackets. -/
def attributeBody (inner : Bool) : Reader Attribute := do
  opening .bracket
  let path ← if ← word? "unsafe" then pure ⟨false, ["unsafe"]⟩ else plainPath
  let argument ← attributeArgument readers
  closing .bracket
  return ⟨inner, path, argument⟩

/-- The attributes in front of something. -/
def outerAttributes : Reader (List Attribute) :=
  many do if ← sign? "#" then some <$> attributeBody readers false else return none

/-- The attributes of what surrounds them. -/
def innerAttributes : Reader (List Attribute) :=
  many do
    match ← get with
    | .mark '#' _ :: .mark '!' _ :: rest =>
      set rest
      some <$> attributeBody readers true
    | _ => return none

/-! ## Blocks -/

/-- Statements in braces. -/
def block : Reader (List Statement) := do
  opening .brace
  readers.statements

/-- Statements in braces where attributes of the whole block may stand in front of them. -/
def body : Reader Body := do
  opening .brace
  let attributes ← innerAttributes readers
  return .mk attributes (← readers.statements)

end

/-! ## Visibility -/

def visibility : Reader Visibility := do
  if !(← word? "pub") then return .inherited
  match ← get with
  | .opening .paren :: .ident "in" :: rest =>
    set rest
    let path ← plainPath
    closing .paren
    return .within path
  | .opening .paren :: .ident word :: .closing .paren :: rest =>
    if ["crate", "self", "super"].contains word then
      set rest
      return .within ⟨false, [word]⟩
    else return .everyone
  | _ => return .everyone

/-! ## Tokens without a layout -/

/-- The tokens between two places. -/
def between (start rest : List Token) : List Token := start.take (start.length - rest.length)

/-- The tokens that were read since a place. -/
def readSince (start : List Token) : Reader (List Token) := return between start (← get)

def startsBuiltin (tokens : List Token) : Bool :=
  startsWithWord "builtin" tokens && startsWith "#" (afterOne tokens)

/-- The tokens of a construct of the compiler. -/
def builtin : Reader (List Token) := do
  let start ← get
  word "builtin"
  sign "#"
  discard name
  opening .paren
  discard inside
  readSince start

end Reader

end WireErrors.Source
