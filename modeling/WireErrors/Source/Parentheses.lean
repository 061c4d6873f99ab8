import WireErrors.Source.Precedence

/-!
# Parentheses

Which expressions have to stand in parentheses. That depends on more than the operators beside an
expression: a block at the start of a statement ends it, a record cannot stand in front of the brace
after a condition, and a closure or jump takes all that follows it. `Surroundings` says what is
around an expression, and each operand is given a `Setting`.
-/

namespace WireErrors.Source

/-- What is around an expression, as far as its reading depends on it. -/
structure Surroundings where
  /-- The precedence of the operator in front of the expression. -/
  before : Precedence := .jump
  /-- The precedence of the operator behind the expression. -/
  after : Precedence := .jump
  /-- Whether the operator behind could start an expression. -/
  afterStarts : Bool := false
  /-- Whether the operator behind could start the arguments of a type. -/
  afterOpens : Bool := false
  /-- Whether an operator follows. -/
  afterContinues : Bool := false
  /-- Whether the expression is a statement. -/
  statement : Bool := false
  /-- Whether a longer statement starts with the expression. -/
  startsStatement : Bool := false
  /-- Whether the expression is the body of an arm. -/
  arm : Bool := false
  /-- Whether a longer body of an arm starts with the expression. -/
  startsArm : Bool := false
  /-- Whether a brace would end what the expression is part of. -/
  beforeBrace : Bool := false
  /-- Whether a brace follows. -/
  meetsBrace : Bool := false
  /-- Whether a brace at the start of the expression would be taken for the one that follows. -/
  startsOptional : Bool := false

namespace Surroundings

/-- The surroundings of an expression between delimiters. -/
def alone : Surroundings := {}

def ofStatement : Surroundings := { statement := true }

def ofArm : Surroundings := { arm := true }

/-- The surroundings of a condition, or the subject of a match or loop. -/
def ofSubject : Surroundings := { beforeBrace := true, meetsBrace := true }

/-- The surroundings of the operand in front of an operator, which may be a sign that can also start
an expression, or the arguments of a type. -/
def leftOperand (around : Surroundings) (operator : Precedence) (starts opens : Bool) :
    Surroundings :=
  { around with
    after := operator
    afterStarts := starts
    afterOpens := opens
    afterContinues := true
    statement := false
    startsStatement := around.statement || around.startsStatement
    arm := false
    startsArm := around.arm || around.startsArm
    meetsBrace := false }

/-- The surroundings of an expression in front of a dot or question mark. -/
def receiver (around : Surroundings) : Surroundings :=
  { around with
    after := .unambiguous
    afterStarts := false
    afterOpens := false
    afterContinues := true
    statement := around.statement || around.startsStatement
    startsStatement := false
    arm := around.arm || around.startsArm
    startsArm := false
    meetsBrace := false }

/-- The surroundings of the operand behind an operator or word. -/
def rightOperand (around : Surroundings) (operator : Precedence) : Surroundings :=
  { around with
    before := operator
    statement := false
    startsStatement := false
    arm := false
    startsArm := false
    startsOptional := false }

/-- The surroundings of an operand that may be left out. -/
def optionalOperand (around : Surroundings) (operator : Precedence) : Surroundings :=
  { around.rightOperand operator with startsOptional := around.beforeBrace }

/-- The surroundings of the value of a jump, in which braces need no parentheses. -/
def jumpOperand (around : Surroundings) (isOptional : Bool) : Surroundings :=
  { around.rightOperand .jump with
    beforeBrace := false
    startsOptional := around.beforeBrace && isOptional }

/-! ## Parentheses for the place -/

/-- Whether an expression could be taken for one that goes on behind the brace that follows it. -/
def isOpenEnded : Expr → Bool
  | .path _ | .leave _ none | .range _ _ none => true
  | _ => false

/-- Whether an expression needs parentheses where it stands, whatever operators are beside it. -/
def encloses (around : Surroundings) (e : Expr) : Bool :=
  around.startsStatement && !e.needsSemicolon ||
    (around.statement || around.startsStatement) && isMatching e.bare ||
    around.startsArm && e.standsAlone ||
    around.beforeBrace && isRecord e.bare ||
    around.meetsBrace && isBareReturn e.bare ||
    around.meetsBrace && !around.beforeBrace && isOpenEnded e.bare ||
    around.startsOptional && isPlainBlock e
where
  isMatching : Expr → Bool
    | .matching .. => true
    | _ => false
  isRecord : Expr → Bool
    | .record .. => true
    | _ => false
  isBareReturn : Expr → Bool
    | .giveBack none | .yield none => true
    | _ => false
  isPlainBlock : Expr → Bool
    | .block .plain none (.mk [] _) => true
    | _ => false

/-! ## How far an expression goes -/

/-- What becomes of the operator behind an expression that is read without parentheses. -/
inductive Reach where
  /-- The reader meets it where it cannot stand. -/
  | stuck
  /-- It is left to what is around the expression. -/
  | released
  /-- The last part of the expression takes it. -/
  | taken
deriving DecidableEq

/-- Whether the operator behind is taken by an operand of an operator of a level. -/
def byPrecedence (around : Surroundings) (level : Precedence) : Reach :=
  let isTaken := if level = .assignment || level = .comparison then decide (level ≤ around.after)
    else decide (level < around.after)
  if isTaken || around.after = .jump then .taken else .released

/-- The reach of an expression that does not end with an operand. -/
def closedReach (around : Surroundings) (level : Precedence) : Reach :=
  if level = .range && (around.after = .assignment || around.after = .range) ||
      level = .matching && around.after < .matching then .stuck
  else around.byPrecedence level

/-- The reach of an expression whose last operand is stuck. -/
def stuckReach (around : Surroundings) : Reach :=
  if around.after = .unambiguous then .stuck else .released

/-- The reach of an expression, given what it is without parentheses. -/
def reachOf (around : Surroundings) (level : Precedence) (e : Expr) (reach : Reach) : Reach :=
  if around.encloses e then around.byPrecedence level else reach

/-- The precedence of an expression, as far as what follows it changes it. -/
def precedence (around : Surroundings) (e : Expr) : Precedence :=
  if around.afterStarts && e.bare.isBareJump then .jump
  else if !around.afterContinues && goesFar e.bare then .unary
  else if around.afterOpens && endsWithName e.bare then .jump
  else e.precedence
where
  /-- Whether an expression takes all that follows it. -/
  goesFar : Expr → Bool
    | .leave .. | .closure .. | .matching .. | .giveBack _ | .yield _ | .range none .. => true
    | _ => false
  /-- Whether an expression is a cast to a type that could be given arguments. -/
  endsWithName : Expr → Bool
    | .cast _ type => type.last = .name
    | _ => false

/-- Whether the start of an expression is read as an operand of the operator in front of it. -/
def isOperand (around : Surroundings) (e : Expr) : Bool :=
  match e.bare with
  | .assign .. => around.before ≤ .assignment
  | .binary operator .. => around.before < operator.precedence
  | .cast .. => around.before < .cast
  | .range (some _) .. => around.before < .assignment
  | _ => true

/-- The precedence of the operand behind an operator, given its reach for that operator. -/
def rightPrecedence (around : Surroundings) (e : Expr) (reach : Unit → Reach) : Precedence :=
  let own := around.precedence e
  let isLoose := if [Precedence.assignment, .matching, .unary].contains around.before then
      decide (own < around.before)
    else decide (own ≤ around.before)
  if isLoose && ([Precedence.range, .or, .and].contains around.after || !around.afterStarts) &&
      reach () ≠ .taken && around.isOperand e then .unary
  else own

end Surroundings

open Surroundings

/-- The reach of an expression that stands in no parentheses, as an operand of an operator of a
level. -/
def Expr.reach (around : Surroundings) (level : Precedence) : Expr → Reach
  | .attributed _ (.range ..) => around.closedReach level
  | .attributed _ value => value.reach around level
  | .assign none _ right =>
    let inside := around.rightOperand .assignment
    match inside.reachOf .assignment right (right.reach inside .assignment) with
    | .stuck => around.stuckReach
    | _ => .taken
  | .assign (some _) _ right =>
    let inside := around.rightOperand .assignment
    match inside.reachOf .assignment right (right.reach inside .assignment) with
    | .stuck => around.stuckReach
    | .released => around.byPrecedence level
    | .taken => .taken
  | .binary operator _ right =>
    let inside := around.rightOperand operator.precedence
    if operator.precedence = .comparison && around.after = .comparison then .taken
    else
      match inside.reachOf operator.precedence right
          (right.reach inside operator.precedence) with
      | .stuck =>
        if inside.rightPrecedence right (fun _ => .stuck) ≤ operator.precedence then
          around.byPrecedence level
        else around.stuckReach
      | .released => around.byPrecedence level
      | .taken => .taken
  | .unary _ operand | .reference _ operand | .rawReference _ operand =>
    let inside := around.rightOperand .unary
    match inside.reachOf level operand (operand.reach inside level) with
    | .stuck =>
      if inside.rightPrecedence operand (fun _ =>
          inside.reachOf .unary operand (operand.reach inside .unary)) < .unary then
        around.byPrecedence level
      else around.stuckReach
    | .released => around.byPrecedence level
    | .taken => .taken
  | .range _ _ (some last) =>
    let inside := around.optionalOperand .range
    let reach := inside.reachOf .range last (last.reach inside .range)
    if reach = .taken ||
        reach = .released && around.after ≠ .assignment && around.after ≠ .range ||
        inside.rightPrecedence last (fun _ => reach) ≤ .range then .taken
    else .stuck
  | .range _ _ none => if around.afterStarts then .taken else .stuck
  | .leave label (some value) =>
    let inside := around.jumpOperand true
    if label.isNone && value.startsWithLabel ||
        inside.reachOf .jump value (value.reach inside .jump) ≠ .stuck then .taken
    else .released
  | .giveBack (some value) | .yield (some value) =>
    let inside := around.jumpOperand false
    if inside.reachOf .jump value (value.reach inside .jump) ≠ .stuck then .taken else .released
  | .giveBack none | .leave _ none | .yield none =>
    if around.after = .assignment && Precedence.assignment < level then .stuck else .taken
  | .closure .. => .taken
  | .matching _ value =>
    let inside := around.rightOperand .matching
    let reach := inside.reachOf .matching value (value.reach inside .matching)
    if reach = .taken then .taken
    else if around.after < .matching then .released
    else if inside.rightPrecedence value (fun _ => reach) < .matching then .taken
    else if reach = .stuck then .released
    else .taken
  | _ => around.closedReach level

namespace Surroundings

/-- The precedence of the operand in front of an operator. -/
def leftPrecedence (around : Surroundings) (e : Expr) : Precedence :=
  if (!around.afterStarts || around.after = .range) &&
      around.reachOf .jump e (e.reach around .jump) = .released && around.isOperand e then
    .unambiguous
  else around.precedence e

/-! ## Operands -/

/-- Whether an operand stands in parentheses, and what is around it, inside of them if so. -/
structure Setting where
  enclosed : Bool
  around : Surroundings

/-- The setting of an expression that has parentheses at least where asked for. -/
def setting (around : Surroundings) (enclosed : Bool) (e : Expr) : Setting :=
  if enclosed || around.encloses e then ⟨true, alone⟩ else ⟨false, around⟩

/-- Operators whose sign can also start an expression. -/
def startingOperators : List Operator := [.subtract, .multiply, .and, .or, .bitAnd, .bitOr,
  .shiftLeft, .less]

/-- Operators whose sign can also start the arguments of a type. -/
def openingOperators : List Operator := [.shiftLeft, .less]

def binaryLeft (around : Surroundings) (operator : Operator) (left : Expr) : Setting :=
  let inside := around.leftOperand operator.precedence (startingOperators.contains operator)
    (openingOperators.contains operator)
  let precedence := inside.leftPrecedence left
  inside.setting (if operator.precedence = .comparison then precedence ≤ .comparison
    else precedence < operator.precedence) left

/-- The setting of the operand behind an operator, which has to hold together more tightly. -/
def binaryRight (around : Surroundings) (operator : Operator) (right : Expr) : Setting :=
  let inside := around.rightOperand operator.precedence
  inside.setting (inside.rightPrecedence right (fun _ =>
    inside.reachOf operator.precedence right (right.reach inside operator.precedence)) ≤
      operator.precedence) right

def assignedTo (around : Surroundings) (left : Expr) : Setting :=
  let inside := around.leftOperand .assignment false false
  inside.setting (inside.leftPrecedence left ≤ .range) left

def assigned (around : Surroundings) (right : Expr) : Setting :=
  (around.rightOperand .assignment).setting false right

def castValue (around : Surroundings) (value : Expr) : Setting :=
  let inside := around.leftOperand .cast false false
  inside.setting (inside.leftPrecedence value < .cast) value

def rangeFirst (around : Surroundings) (first : Expr) : Setting :=
  let inside := around.leftOperand .range true false
  inside.setting (inside.leftPrecedence first ≤ .range) first

def rangeLast (around : Surroundings) (last : Expr) : Setting :=
  let inside := around.optionalOperand .range
  inside.setting (inside.rightPrecedence last (fun _ =>
    inside.reachOf .range last (last.reach inside .range)) ≤ .range) last

/-- The setting of what is called. A field with a name needs parentheses to be no method. -/
def called (around : Surroundings) (function : Expr) : Setting :=
  let inside := around.leftOperand .unambiguous true false
  inside.setting (match function with
    | .field _ name => !name.toList.all Char.isDigit
    | _ => inside.leftPrecedence function < .unambiguous) function

def indexed (around : Surroundings) (value : Expr) : Setting :=
  let inside := around.leftOperand .unambiguous true false
  inside.setting (inside.leftPrecedence value < .unambiguous) value

/-- The setting of what stands in front of a dot or question mark. -/
def received (around : Surroundings) (value : Expr) : Setting :=
  let inside := around.receiver
  inside.setting (inside.leftPrecedence value < .unambiguous) value

/-- The setting of an operand behind its only operator, or behind a pattern that it is matched
with. -/
def operand (around : Surroundings) (operator : Precedence) (value : Expr) : Setting :=
  let inside := around.rightOperand operator
  inside.setting (inside.rightPrecedence value (fun _ =>
    inside.reachOf operator value (value.reach inside operator)) < operator) value

def closureBody (around : Surroundings) (body : Expr) : Setting :=
  (around.rightOperand .jump).setting false body

/-- The setting of the value with which a loop or block is left. -/
def leftWith (around : Surroundings) (label : Option String) (value : Expr) : Setting :=
  (around.jumpOperand true).setting (label.isNone && value.startsWithLabel) value

/-- The setting of a value that is given back. -/
def givenBack (around : Surroundings) (value : Expr) : Setting :=
  (around.jumpOperand false).setting false value

end Surroundings

end WireErrors.Source
