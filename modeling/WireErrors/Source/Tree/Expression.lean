import WireErrors.Source.Tree.Type

/-!
# Patterns, expressions and statements

Patterns, expressions and statements contain each other, and statements contain items too, which are
kept as tokens with their layout. What decides how an expression ends stands beside the types.
-/

namespace WireErrors.Source

/-! ## Patterns -/

/-- An end of a range in a pattern. -/
inductive RangeEnd where
  | literal (text : String)
  | path (route : Route)
  /-- A block that is run when the program is built. -/
  | constant (block : Excerpt)

mutual

inductive Pattern where
  | wildcard
  /-- Any number of elements. -/
  | rest
  | binding (name : String)
  | variable (byReference mutable : Bool) (name : String)
  /-- A variable for a value that matches a pattern. -/
  | capture (byReference mutable : Bool) (name : String) (pattern : Pattern)
  | literal (text : String)
  | path (route : Route)
  | tuple (route : Route) (fields : List Pattern)
  /-- A record; attributes in `rest` belong to the dots for its other fields. -/
  | record (route : Route) (fields : List FieldPattern) (rest : Option (List Attribute))
  /-- A tuple without a name; `comma` if a comma ends it. -/
  | plainTuple (fields : List Pattern) (comma : Bool)
  | enclosed (pattern : Pattern)
  | slice (elements : List Pattern)
  | reference (mutable : Bool) (pattern : Pattern)
  | range (first : Option RangeEnd) (closed : Bool) (last : Option RangeEnd)
  | alternatives (cases : List Pattern)
  /-- A block that is run when the program is built. -/
  | constant (block : Excerpt)
  /-- A use of a macro with the tokens between its delimiters. -/
  | invocation (path : Path) (delimiter : Delimiter) (body : List Token)
  /-- Tokens that are read as a pattern and have no layout. -/
  | unformatted (tokens : List Token)

/-- A field in the pattern of a record; a field without a name is bound to its own one. -/
inductive FieldPattern where
  | mk (attributes : List Attribute) (name : Option String) (pattern : Pattern)

end

/-- A pattern with the type given for it. -/
structure TypedPattern where
  attributes : List Attribute := []
  pattern : Pattern
  type : Option TypeExpr

/-! ## Operators -/

inductive Operator where
  | or
  | and
  | equal
  | notEqual
  | less
  | lessEqual
  | greater
  | greaterEqual
  | bitOr
  | bitXor
  | bitAnd
  | shiftLeft
  | shiftRight
  | add
  | subtract
  | multiply
  | divide
  | remainder
deriving DecidableEq, Repr

def Operator.text : Operator → String
  | or => "||"
  | and => "&&"
  | equal => "=="
  | notEqual => "!="
  | less => "<"
  | lessEqual => "<="
  | greater => ">"
  | greaterEqual => ">="
  | bitOr => "|"
  | bitXor => "^"
  | bitAnd => "&"
  | shiftLeft => "<<"
  | shiftRight => ">>"
  | add => "+"
  | subtract => "-"
  | multiply => "*"
  | divide => "/"
  | remainder => "%"

inductive UnaryOperator where
  | negate
  | not
  | dereference
deriving DecidableEq, Repr

def UnaryOperator.text : UnaryOperator → String
  | negate => "-"
  | not => "!"
  | dereference => "*"

/-! ## Expressions -/

/-- What stands in front of a block or closure and changes how it runs. -/
inductive BlockKind where
  | plain
  | unchecked
  | constant
  | fallible
  /-- A block that runs later; `moves` if it takes what it names. -/
  | deferred (moves : Bool)
deriving DecidableEq, Repr

/-- The words in front of a closure. -/
structure ClosureKind where
  constant : Bool
  immovable : Bool
  deferred : Bool
  moves : Bool
deriving DecidableEq, Repr

mutual

inductive Expr where
  | attributed (attributes : List Attribute) (value : Expr)
  | path (route : Route)
  | literal (text : String)
  | inferred
  | unary (operator : UnaryOperator) (operand : Expr)
  | reference (mutable : Bool) (target : Expr)
  /-- A reference that is not checked. -/
  | rawReference (mutable : Bool) (target : Expr)
  | binary (operator : Operator) (left right : Expr)
  /-- An assignment, which may combine the old value with the new one. -/
  | assign (operator : Option Operator) (left right : Expr)
  | cast (value : Expr) (type : TypeExpr)
  | range (first : Option Expr) (closed : Bool) (last : Option Expr)
  | call (function : Expr) (arguments : List Expr)
  | method (receiver : Expr) (name : String) (arguments : List Expr)
  /-- A method with arguments for its generic parameters. -/
  | genericMethod (receiver : Expr) (name : String) (generic : List Argument)
      (arguments : List Expr)
  | field (receiver : Expr) (name : String)
  | index (receiver index : Expr)
  /-- A value that is given back at once if it is a failure. -/
  | propagate (value : Expr)
  | await (value : Expr)
  | enclosed (value : Expr)
  | tuple (elements : List Expr)
  | array (elements : List Expr)
  | repeated (element length : Expr)
  | record (route : Route) (fields : List FieldValue) (base : Option Expr)
  /-- A use of a macro with the tokens between its delimiters. -/
  | invocation (path : Path) (delimiter : Delimiter) (body : List Token)
  | block (kind : BlockKind) (label : Option String) (body : Body)
  | conditional (condition : Expr) (body : List Statement) (otherwise : Otherwise)
  /-- The test in a condition whether a value matches a pattern. -/
  | matching (pattern : Pattern) (value : Expr)
  | select (subject : Expr) (inner : List Attribute) (arms : List Arm)
  | forever (label : Option String) (body : Body)
  | repeatWhile (label : Option String) (condition : Expr) (body : Body)
  | forEach (label : Option String) (pattern : Pattern) (subject : Expr) (body : Body)
  | closure (binder : Option (List GenericParameter)) (kind : ClosureKind)
      (inputs : List TypedPattern) (result : Option TypeExpr) (body : Expr)
  | giveBack (value : Option Expr)
  | leave (label : Option String) (value : Option Expr)
  | again (label : Option String)
  | yield (value : Option Expr)
  /-- Tokens that are read as an expression and have no layout. -/
  | unformatted (tokens : List Token)

/-- Statements in braces, with the attributes that stand in front of them. -/
inductive Body where
  | mk (attributes : List Attribute) (statements : List Statement)

/-- What happens where a condition does not hold. -/
inductive Otherwise where
  | none
  | block (body : List Statement)
  | conditional (condition : Expr) (body : List Statement) (otherwise : Otherwise)

/-- A field of a record; one without an expression takes the value of a variable of its name. -/
inductive FieldValue where
  | mk (attributes : List Attribute) (name : String) (value : Option Expr)

inductive Arm where
  | mk (attributes : List Attribute) (pattern : Pattern) (guard : Option Expr) (body : Expr)

inductive Statement where
  | expr (value : Expr) (semicolon : Bool)
  /-- A use of a macro that is a statement by itself. -/
  | invocation (attributes : List Attribute) (path : Path) (delimiter : Delimiter)
      (body : List Token) (semicolon : Bool)
  | bind (attributes : List Attribute) (target : TypedPattern) (value : Option Expr)
  /-- A binding that runs other statements where the value does not match. -/
  | bindOr (attributes : List Attribute) (target : TypedPattern) (value : Expr)
      (otherwise : List Statement)
  | item (item : Excerpt)
  | empty

end

/-- A path of names without arguments. -/
abbrev Expr.names (names : List String) : Expr := .path (.names names)

/-- An arm without a guard. -/
abbrev Arm.plain (pattern : Pattern) (body : Expr) : Arm := .mk [] pattern none body

/-- A field with a value and no attributes. -/
abbrev FieldValue.plain (name : String) (value : Expr) : FieldValue := .mk [] name (some value)

/-! ## Shapes -/

namespace Expr

/-- Whether an expression needs nothing after it to be a statement or an arm. -/
def standsAlone : Expr → Bool
  | .block (.deferred _) .. => false
  | .block .. | .conditional .. | .select .. | .forever .. | .repeatWhile .. | .forEach .. => true
  | .attributed _ value => value.standsAlone
  | _ => false

/-- Whether a semicolon has to separate an expression from the statement after it. -/
def needsSemicolon : Expr → Bool
  | .invocation _ delimiter _ => delimiter != .brace
  | .attributed _ value => value.needsSemicolon
  | value => !value.standsAlone

def isRange : Expr → Bool
  | .range .. => true
  | .attributed _ value => value.isRange
  | _ => false

/-- Whether the first token of an expression is that of a label. -/
def startsWithLabel : Expr → Bool
  | .block _ label _ | .forever label _ | .repeatWhile label .. | .forEach label .. => label.isSome
  | .attributed _ value | .assign _ value _ | .await value | .binary _ value _ | .call value _
  | .cast value _ | .field value _ | .index value _ | .method value .. | .genericMethod value ..
  | .range (some value) .. | .propagate value => value.startsWithLabel
  | _ => false

/-- Whether the last token of an expression is a brace. -/
def endsWithBrace : Expr → Bool
  | .record .. | .block .. | .conditional .. | .select .. | .forever .. | .repeatWhile ..
  | .forEach .. => true
  | .invocation _ delimiter _ => delimiter == .brace
  | .cast _ type => type.last = .brace
  | .unformatted tokens => TypeEnd.ofTokens tokens = .brace
  | .attributed _ value | .unary _ value | .reference _ value | .rawReference _ value
  | .binary _ _ value | .assign _ _ value | .matching _ value | .closure _ _ _ _ value =>
    value.endsWithBrace
  | .range _ _ (some value) | .giveBack (some value) | .leave _ (some value)
  | .yield (some value) => value.endsWithBrace
  | _ => false

/-- An expression with attributes in front of it, which belong to its first part. -/
def withAttributes (attributes : List Attribute) : Expr → Expr
  | .assign operator left right => .assign operator (left.withAttributes attributes) right
  | .binary operator left right => .binary operator (left.withAttributes attributes) right
  | .cast value type => .cast (value.withAttributes attributes) type
  | value => if attributes.isEmpty then value else .attributed attributes value

end Expr

end WireErrors.Source
