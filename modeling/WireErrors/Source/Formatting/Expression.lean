import WireErrors.Source.Parentheses
import WireErrors.Source.Formatting.Type

/-!
# Formatting patterns and expressions

The layout of an expression depends on its `Position`, which decides how chains of methods break,
and on its `Surroundings`, which decide where parentheses stand. A block is set on lines of its own,
or on one line where it holds a single expression at most.
-/

namespace WireErrors.Source

open Layout

/-! ## Patterns -/

def RangeEnd.layout : RangeEnd → Layout
  | .literal text => word text
  | .path route => route.layout false
  | .constant block => block.layout

/-- An end of a range, if there is one. -/
def rangeEndLayout : Option RangeEnd → Layout
  | none => []
  | some rangeEnd => rangeEnd.layout

/-- The sign of a range. -/
def rangeWord (closed : Bool) : Layout := word (if closed then "..=" else "..")

/-- A variable with the words in front of it. -/
def variableLayout (byReference mutable : Bool) (name : String) : Layout :=
  wordIf? byReference "ref " ++ wordIf? mutable "mut " ++ word name

/-- Elements each with the comma after it, as they stand between brackets without a box. -/
def bracketLayout (parts : List Layout) : Layout := word "[" ++ commaLayout parts ++ word "]"

/-- The path in front of the fields of a pattern, in which a type that it is in is left out. -/
def Route.fieldsPathLayout : Route → Layout
  | .within _ absolute interface segments =>
    wordIf? (absolute || interface.isEmpty) "::" ++
      joinedLayout (word "::") (Segment.listLayout false (interface ++ segments))
  | route => route.layout false

/-- Whether alternatives of a pattern need not all be on one line or all on lines of their own. -/
def Pattern.fillsLine : Pattern → Bool
  | .wildcard | .literal _ => true
  | _ => false

mutual

def Pattern.layout : Pattern → Layout
  | .wildcard => word "_"
  | .rest => word ".."
  | .binding name => word name
  | .variable byReference mutable name => variableLayout byReference mutable name
  | .capture byReference mutable name pattern =>
    variableLayout byReference mutable name ++ word " @ " ++ pattern.layout
  | .literal text => word text
  | .path route => route.layout false
  | .tuple route fields =>
    route.fieldsPathLayout ++ word "(" ++ listBox (Pattern.listLayout fields) ++ word ")"
  | .record route fields rest =>
    group indent (route.fieldsPathLayout ++ word " \x7b" ++ shiftLast (-indent)
      (spaceIfMore ++ fieldsLayout rest.isSome (FieldPattern.listLayout fields) ++
        match rest with
        | some attributes => outerLayout attributes ++ word ".." ++ space
        | none => [])) ++ word "\x7d"
  | .plainTuple fields comma =>
    let parts := Pattern.listLayout fields
    match parts with
    | [part] =>
      word "(" ++ group indent (shiftLast (-indent)
        (softBreak ++ part ++ wordIf? comma "," ++ softBreak)) ++ word ")"
    | _ => tupleLayout parts
  | .enclosed pattern => word "(" ++ pattern.layout ++ word ")"
  | .slice elements => bracketLayout (Pattern.listLayout elements)
  | .reference mutable pattern => word "&" ++ wordIf? mutable "mut " ++ pattern.layout
  | .range none closed last => blankAfterPoint ++ rangeWord closed ++ rangeEndLayout last
  | .range (some first) closed last =>
    first.layout ++ rangeWord closed ++ rangeEndLayout last
  | .alternatives cases =>
    box (!cases.all Pattern.fillsLine) 0
      (joinedLayout (space ++ word "| ") (Pattern.listLayout cases))
  | .constant block => block.layout
  | .invocation path delimiter body => invocationLayout path none delimiter body false
  | .unformatted _ => missing

def Pattern.listLayout : List Pattern → List Layout
  | [] => []
  | pattern :: rest => pattern.layout :: Pattern.listLayout rest

def FieldPattern.layout : FieldPattern → Layout
  | .mk attributes name pattern => outerLayout attributes ++ namedLayout name ++ pattern.layout

def FieldPattern.listLayout : List FieldPattern → List Layout
  | [] => []
  | field :: rest => field.layout :: FieldPattern.listLayout rest

end

def TypedPattern.layout (typed : TypedPattern) : Layout :=
  outerLayout typed.attributes ++ typed.pattern.layout ++
    (match typed.type with | some type => word ": " ++ type.layout | none => [])

/-! ## Shapes of expressions -/

/-- Whether a condition that does not fit on its line leaves the brace after it to a line of its
own. -/
def Expr.wrapsBrace : Expr → Bool
  | .assign .. | .await _ | .binary .. | .cast .. | .field .. | .index .. | .method ..
  | .genericMethod .. => true
  | .attributed _ value | .call value _ | .enclosed value | .matching _ value
  | .range _ _ (some value) | .reference _ value | .rawReference _ value | .propagate value
  | .unary _ value | .giveBack (some value) | .leave _ (some value) | .yield (some value) =>
    value.wrapsBrace
  | _ => false

/-- Whether an expression is a name that is no wider than the indentation. -/
def Expr.isShortName : Expr → Bool
  | .path route => route.word?.any fun name => name.utf8ByteSize ≤ 4
  | _ => false

/-- Whether an expression brings delimiters of its own that can follow a parenthesis directly. -/
def Expr.isBlockLike : Expr → Bool
  | .array _ | .block .. | .closure .. | .record .. | .tuple _ => true
  | _ => false

/-- Whether the body of a closure needs no braces on a line of its own. -/
def Expr.isClosureBody : Expr → Bool
  | .select .. | .call .. => true
  | body => body.isBlockLike

/-- Whether a statement ends with a semicolon also where none was written. -/
def Expr.addsSemicolon : Expr → Bool
  | .assign .. | .leave .. | .again _ | .giveBack _ | .yield _ => true
  | .attributed _ value => value.addsSemicolon
  | _ => false

/-- Whether nothing but statements follows where a condition does not hold. -/
def Otherwise.dropsSemicolon : Otherwise → Bool
  | .none => true
  | .block _ => false
  | .conditional _ _ otherwise => otherwise.dropsSemicolon

/-- Whether a statement has no semicolon also where one was written. -/
def Expr.dropsSemicolon : Expr → Bool
  | .conditional _ _ otherwise => otherwise.dropsSemicolon
  | .forEach .. | .repeatWhile .. => true
  | .attributed _ value => value.dropsSemicolon
  | _ => false

/-- Whether an expression is read in the same way at the start of a statement. -/
def Expr.canStartStatement : Expr → Bool
  | .assign _ first _ | .binary _ first _ | .cast first _ | .call first _ | .index first _
  | .range (some first) .. => first.needsSemicolon && first.canStartStatement
  | .field first _ | .method first .. | .genericMethod first .. | .await first
  | .propagate first | .attributed _ first => first.canStartStatement
  | .matching .. => false
  | _ => true

/-- Whether an expression is a short literal, many of which fit on a line. -/
def Expr.isShortLiteral : Expr → Bool
  | .literal text =>
    match literalKind text with
    | .byte | .char | .whole => true
    | _ => text == "true" || text == "false"
  | .attributed _ value => value.isShortLiteral
  | _ => false

/-- The arguments of a call, whose layouts are given. -/
def argumentsLayout (arguments : List Expr) (parts : List Layout) : Layout :=
  match arguments, parts with
  | [argument], [part] => if argument.isBlockLike then part else listBox parts
  | _, _ => listBox parts

/-- An array, the layouts of whose elements are given. -/
def arrayLayout (elements : List Expr) (parts : List Layout) : Layout :=
  if elements.isEmpty then word "[]"
  else if elements.all Expr.isShortLiteral then
    group indent (shiftLast (-indent) (word "[" ++ softBreak ++
      fill 0 (joinedLayout (word "," ++ space) parts) ++ comma true 0) ++ word "]")
  else word "[" ++ listBox parts ++ word "]"

/-! ## Positions -/

/-- Where an expression stands, as far as its layout depends on it. -/
inductive Position where
  | inner
  /-- At the start of a line. -/
  | lineStart
  /-- In front of the dot of a field or method, in a chain that starts a line or not. -/
  | receiver (starts : Bool)
deriving DecidableEq

namespace Position

def startsLine : Position → Bool
  | inner => false
  | lineStart => true
  | receiver starts => starts

/-- The position of a function that is called: a call ends what starts a line. -/
def function : Position → Position
  | receiver _ => receiver false
  | _ => inner

/-- The layout of an expression that is no link of a chain of fields, methods and calls. -/
def whole (position : Position) (body : Layout) : Layout :=
  match position with
  | receiver _ => group (-indent) body
  | _ => body

/-- The layout of a chain that ends with a field or method; a longer chain shares its box. -/
def chain (position : Position) (body : Layout) : Layout :=
  match position with
  | receiver _ => body
  | _ => group indent body

/-- The gap behind a receiver, unless it starts the line and is short. -/
def gapAfter (position : Position) (receiver : Expr) : Layout :=
  if position.startsLine && receiver.isShortName then [] else pointBreak

/-- The indentation of the arguments of a method: none if the receiver stays on its line. -/
def argumentShift (position : Position) (receiver : Expr) : Int :=
  match position with
  | lineStart => if receiver.isShortName then -indent else 0
  | _ => 0

end Position

/-! ## Expressions -/

/-- The layout of an operand in its setting. -/
def Surroundings.Setting.layout (setting : Surroundings.Setting)
    (operand : Surroundings → Layout) : Layout :=
  if setting.enclosed then word "(" ++ operand setting.around ++ word ")"
  else operand setting.around

/-- The layout of a condition or the subject of a match, up to the brace after it. -/
def subjectLayout (expr : Expr) (layout : Surroundings → Layout) : Layout :=
  group 0 ((Surroundings.ofSubject.setting false expr).layout layout ++
    (if expr.wrapsBrace then space else word " "))

/-- The name of a loop or block in front of it. -/
def labelLayout : Option String → Layout
  | none => []
  | some name => word ("'" ++ name ++ ": ")

/-- The name of the loop or block that a jump goes to. -/
def targetLayout : Option String → Layout
  | none => []
  | some name => word (" '" ++ name)

def BlockKind.layout : BlockKind → Layout
  | .plain => []
  | .unchecked => word "unsafe "
  | .constant => word "const "
  | .fallible => word "try "
  | .deferred moves => word (if moves then "async move " else "async ")

def ClosureKind.layout (kind : ClosureKind) : Layout :=
  wordIf? kind.constant "const " ++ wordIf? kind.immovable "static " ++
    wordIf? kind.deferred "async " ++ wordIf? kind.moves "move "

/-- Statements, each on a line of its own, and the brace that closes them. -/
def closedLayout (statements : Layout) : Layout :=
  group indent (shiftLast (-indent) (hardBreakIfMore ++ statements)) ++ word "\x7d"

/-- Statements in braces, each on a line of its own. -/
def bodyLayout (statements : Layout) : Layout := word "\x7b" ++ noBreak ++ closedLayout statements

/-- A body that gets braces, or else parentheses, if it moves to a line of its own; `separator` is
written behind parentheses, and where the body does not move, unless the body stands alone. -/
def bracedIfMoved (body : Expr) (layout : Layout) (separator : String) : Layout :=
  let braces := body.canStartStatement
  group indent ([.gap { zero with lineEnd := if braces then "\x7b" else "(" }] ++ layout ++
    [.gap { zero with
      shift := -indent
      lineEnd := if braces && body.addsSemicolon then ";" else ""
      lineStart := if braces then "\x7d" else ")" ++ separator
      inLine := if body.standsAlone then "" else separator }])

/-- Statements in braces, which may all stay on one line; the layout of the statements is given. -/
def smallBlock (inner : List Attribute) (body : List Statement) (statements : Layout) : Layout :=
  if inner.isEmpty && body.isEmpty then word "\x7b\x7d"
  else
    word "\x7b" ++ shiftLast (-indent) (space ++ innerLayout inner ++ statements) ++ word "\x7d"

/-- The body of a match arm that is no block. -/
def movedArm (body : Expr) (layout : Surroundings → Layout) : Layout :=
  noBreak ++ bracedIfMoved body ((Surroundings.ofArm.setting false body).layout layout) ","

/-- A statement that is an expression. -/
def statementLayout (value : Expr) (semicolon : Bool) (layout : Surroundings → Layout) : Layout :=
  let ends := if semicolon then !value.dropsSemicolon else value.addsSemicolon
  fill 0 ((Surroundings.ofStatement.setting false value).layout layout ++
    if ends then word ";" else []) ++ hardBreak

/-- The inputs of a closure and the bar after them. -/
def closureInputs (inputs : List TypedPattern) (result : Bool) : Layout :=
  let parts := joinedLayout (word "," ++ space) (inputs.map TypedPattern.layout)
  word "|" ++ (if inputs.isEmpty then [] else softBreak ++ parts) ++
    (if result && !inputs.isEmpty then shiftLast (-indent) (comma true 0) else []) ++ word "|"

mutual

/-- The layout of an expression. -/
def Expr.layout (position : Position) (around : Surroundings) : Expr → Layout
  | .attributed attributes value =>
    outerLayout attributes ++
      if value.isRange then word "(" ++ value.layout .inner .alone ++ word ")"
      else value.layout position around
  | .path route => position.whole (route.layout false)
  | .literal text => position.whole (word text)
  | .inferred => position.whole (word "_")
  | .unary operator operand =>
    position.whole (word operator.text ++
      (around.operand .unary operand).layout fun inside => operand.layout .inner inside)
  | .reference mutable target =>
    position.whole (word "&" ++ wordIf? mutable "mut " ++
      (around.operand .unary target).layout fun inside => target.layout .inner inside)
  | .rawReference mutable target =>
    position.whole (word (if mutable then "&raw mut " else "&raw const ") ++
      (around.operand .unary target).layout fun inside => target.layout .inner inside)
  | .binary operator left right =>
    position.whole (fill indent (fill (-indent)
        ((around.binaryLeft operator left).layout fun inside => left.layout .inner inside) ++
      space ++ word operator.text ++ word " " ++
      (around.binaryRight operator right).layout fun inside => right.layout .inner inside))
  | .assign none left right =>
    position.whole (fill 0
      ((around.assignedTo left).layout (fun inside => left.layout .inner inside) ++
      word " = " ++ noBreak ++
      (around.assigned right).layout fun inside => right.layout .inner inside))
  | .assign (some operator) left right =>
    position.whole (fill indent (fill (-indent)
        ((around.assignedTo left).layout fun inside => left.layout .inner inside) ++
      space ++ word (operator.text ++ "=") ++ word " " ++
      (around.assigned right).layout fun inside => right.layout .inner inside))
  | .cast value type =>
    position.whole (fill indent (fill (-indent)
        ((around.castValue value).layout fun inside => value.layout .inner inside) ++
      space ++ word "as " ++ type.layout))
  | .range first closed last =>
    position.whole (Expr.firstLayout around first ++ rangeWord closed ++
      Expr.lastLayout around last)
  | .call function arguments =>
    (around.called function).layout (fun inside => function.layout position.function inside) ++
      word "(" ++ argumentsLayout arguments (Expr.listLayout arguments) ++ word ")"
  | .method receiver name arguments =>
    position.chain ((around.received receiver).layout
        (fun inside => receiver.layout (.receiver position.startsLine) inside) ++
      position.gapAfter receiver ++ word "." ++ word name ++
      group (position.argumentShift receiver)
        (word "(" ++ argumentsLayout arguments (Expr.listLayout arguments) ++ word ")"))
  | .genericMethod receiver name generic arguments =>
    position.chain ((around.received receiver).layout
        (fun inside => receiver.layout (.receiver position.startsLine) inside) ++
      position.gapAfter receiver ++ word "." ++ word name ++
      angledLayout false generic (Argument.listLayout generic) ++
      group (position.argumentShift receiver)
        (word "(" ++ argumentsLayout arguments (Expr.listLayout arguments) ++ word ")"))
  | .field receiver name =>
    position.chain ((around.received receiver).layout
        (fun inside => receiver.layout (.receiver position.startsLine) inside) ++
      position.gapAfter receiver ++ word "." ++ word name)
  | .await value =>
    position.chain ((around.received value).layout
        (fun inside => value.layout (.receiver position.startsLine) inside) ++
      position.gapAfter value ++ word ".await")
  | .index value index =>
    (around.indexed value).layout (fun inside => value.layout position inside) ++
      word "[" ++ index.layout .inner .alone ++ word "]"
  | .propagate value =>
    (around.received value).layout (fun inside => value.layout position inside) ++ word "?"
  | .enclosed value => position.whole (word "(" ++ value.layout .inner .alone ++ word ")")
  | .tuple elements => position.whole (tupleLayout (Expr.listLayout elements))
  | .array elements => position.whole (arrayLayout elements (Expr.listLayout elements))
  | .repeated element length =>
    position.whole (word "[" ++ element.layout .inner .alone ++ word "; " ++
      length.layout .inner .alone ++ word "]")
  | .record route fields base =>
    let rest := Expr.optionLayout base
    position.whole (narrowBox 34 indent (fill (-indent) (route.layout false) ++ word " \x7b" ++
      shiftLast (-indent) (spaceIfMore ++ fieldsLayout rest.isSome (FieldValue.listLayout fields) ++
        match rest with
        | some part => word ".." ++ part ++ space
        | none => [])) ++ word "\x7d")
  | .invocation path delimiter body =>
    position.whole (invocationLayout path none delimiter body false)
  | .block kind label body =>
    position.whole (labelLayout label ++ kind.layout ++ group indent body.smallLayout)
  | .conditional condition body .none =>
    position.whole (group indent (word "if " ++
        group (-indent)
          (subjectLayout condition fun inside => condition.layout .inner inside) ++ word "\x7b" ++
        (if body.isEmpty then []
          else shiftLast (-indent) (hardBreak ++ Statement.listLayout body))) ++ word "\x7d")
  | .conditional condition body otherwise =>
    position.whole (group indent (word "if " ++
      group (-indent) (subjectLayout condition fun inside => condition.layout .inner inside) ++
      smallBlock [] body (Statement.smallLayout body) ++ otherwise.layout))
  | .matching pattern value =>
    position.whole (word "let " ++ fill 0 (pattern.layout ++ word " = " ++ noBreak ++
      (around.operand .matching value).layout fun inside => value.layout .inner inside))
  | .select subject inner arms =>
    position.whole (fill 0 (word "match " ++
      (subjectLayout subject fun inside => subject.layout .inner inside) ++
      bodyLayout (innerLayout inner ++ Arm.listLayout arms)))
  | .forever label (.mk attributes statements) =>
    position.whole (labelLayout label ++ word "loop \x7b" ++
      closedLayout (innerLayout attributes ++ Statement.listLayout statements))
  | .repeatWhile label condition body =>
    position.whole (labelLayout label ++ word "while " ++
      (subjectLayout condition fun inside => condition.layout .inner inside) ++ body.layout)
  | .forEach label pattern subject body =>
    position.whole (fill 0 (labelLayout label ++ word "for " ++ pattern.layout ++ word " in " ++
      noBreak ++ (subjectLayout subject fun inside => subject.layout .inner inside) ++
      body.layout))
  | .closure binder kind inputs none body =>
    let part := (around.closureBody body).layout fun inside => body.layout .inner inside
    position.whole (binderLayout binder ++ kind.layout ++
      group indent (closureInputs inputs false ++ shiftLast (-indent) space) ++ noBreak ++
      (if body.isClosureBody then part else bracedIfMoved body part ""))
  | .closure binder kind inputs (some result) body =>
    position.whole (binderLayout binder ++ kind.layout ++
      group indent (closureInputs inputs true) ++ word " -> " ++
      result.layout ++ word " " ++ noBreak ++
      (around.closureBody body).layout fun inside => body.layout .inner inside)
  | .giveBack none => position.whole (word "return")
  | .giveBack (some value) =>
    position.whole (word "return " ++
      (around.givenBack value).layout fun inside => value.layout .inner inside)
  | .leave label none => position.whole (word "break" ++ targetLayout label)
  | .leave label (some value) =>
    position.whole (word "break" ++ targetLayout label ++ word " " ++
      (around.leftWith label value).layout fun inside => value.layout .inner inside)
  | .again label => position.whole (word "continue" ++ targetLayout label)
  | .yield none => position.whole (word "yield")
  | .yield (some value) =>
    position.whole (word "yield " ++
      (around.givenBack value).layout fun inside => value.layout .inner inside)
  | .unformatted _ => missing

/-- The first value of a range. -/
def Expr.firstLayout (around : Surroundings) : Option Expr → Layout
  | none => blankAfterPoint
  | some first => (around.rangeFirst first).layout fun inside => first.layout .inner inside

/-- The last value of a range. -/
def Expr.lastLayout (around : Surroundings) : Option Expr → Layout
  | none => []
  | some last => (around.rangeLast last).layout fun inside => last.layout .inner inside

def Expr.optionLayout : Option Expr → Option Layout
  | none => none
  | some expr => some (expr.layout .inner .alone)

def Expr.listLayout : List Expr → List Layout
  | [] => []
  | expr :: rest => expr.layout .inner .alone :: Expr.listLayout rest

/-- Statements in braces, each on a line of its own. -/
def Body.layout : Body → Layout
  | .mk attributes statements =>
    bodyLayout (innerLayout attributes ++ Statement.listLayout statements)

/-- Statements in braces that may stay on one line. -/
def Body.smallLayout : Body → Layout
  | .mk attributes statements =>
    smallBlock attributes statements (Statement.smallLayout statements)

/-- What happens where a condition does not hold, behind the body of the condition. -/
def Otherwise.layout : Otherwise → Layout
  | .none => []
  | .block body =>
    word " else " ++ smallBlock [] body (Statement.smallLayout body)
  | .conditional condition body otherwise =>
    word " else if " ++
      group (-indent) (subjectLayout condition fun inside => condition.layout .inner inside) ++
      smallBlock [] body (Statement.smallLayout body) ++ otherwise.layout

def FieldValue.layout : FieldValue → Layout
  | .mk attributes name none => outerLayout attributes ++ word name
  | .mk attributes name (some value) =>
    outerLayout attributes ++ word (name ++ ": ") ++ fill 0 (value.layout .inner .alone)

def FieldValue.listLayout : List FieldValue → List Layout
  | [] => []
  | field :: rest => field.layout :: FieldValue.listLayout rest

/-- The body of a match arm that is a block; a block around one expression is left out, and so are
attributes in front of a block. -/
def Expr.blockArm : Expr → Option Layout
  | .block .plain none (.mk [] [.expr value false]) =>
    some ((Expr.blockArm value).getD (movedArm value fun inside => value.layout .lineStart inside))
  | .block .plain label body | .attributed _ (.block .plain label body) =>
    some (labelLayout label ++ body.layout)
  | .tuple [] => some (bodyLayout [])
  | _ => none

def Arm.layout : Arm → Layout
  | .mk attributes pattern guard body =>
    outerLayout attributes ++ fill 0 (pattern.layout ++
      (match Expr.optionLayout guard with
        | some part => word " if " ++ part
        | none => []) ++
      word " => " ++ (Expr.blockArm body).getD
        (movedArm body fun inside => body.layout .lineStart inside))

def Arm.listLayout : List Arm → Layout
  | [] => []
  | arm :: rest => arm.layout ++ hardBreak ++ Arm.listLayout rest

def Statement.layout : Statement → Layout
  | .expr value semicolon =>
    statementLayout value semicolon fun inside => value.layout .lineStart inside
  | .invocation attributes path delimiter body semicolon =>
    outerLayout attributes ++ invocationLayout path none delimiter body semicolon ++ hardBreak
  | .bind attributes target none =>
    outerLayout attributes ++ fill 0 (word "let " ++ target.layout ++ word ";") ++ hardBreak
  | .bind attributes target (some value) =>
    outerLayout attributes ++ fill 0 (word "let " ++ target.layout ++ word " = " ++ noBreak ++
      value.layout .inner .alone ++ word ";") ++ hardBreak
  | .bindOr attributes target value otherwise =>
    outerLayout attributes ++ fill 0 (word "let " ++ target.layout ++ word " = " ++ noBreak ++
      value.layout .inner .alone ++ space ++ word "else ") ++ noBreak ++
      group indent (smallBlock [] otherwise (Statement.smallLayout otherwise)) ++ word ";" ++
      hardBreak
  | .item item => item.layout
  | .empty => []

def Statement.listLayout : List Statement → Layout
  | [] => []
  | statement :: rest => statement.layout ++ Statement.listLayout rest

/-- The statements of a block, where a single expression may stay on the line of the braces. -/
def Statement.smallLayout : List Statement → Layout
  | [.expr value false] =>
    fill 0 ((Surroundings.ofStatement.setting false value).layout fun inside =>
      value.layout .lineStart inside) ++ space
  | [] => []
  | statement :: rest => statement.layout ++ Statement.listLayout rest

end

end WireErrors.Source
