import WireErrors.Source.Tree.Expression

/-!
# Precedence

How tightly expressions hold together. An operand that holds together less tightly than the operator
beside it needs parentheses, as far as nothing else tells how far it goes.
-/

namespace WireErrors.Source

/-- How tightly the parts of an expression hold together, the loosest ones first. -/
inductive Precedence where
  | jump
  | assignment
  | range
  | or
  | and
  | matching
  | comparison
  | bitOr
  | bitXor
  | bitAnd
  | shift
  | sum
  | product
  | cast
  | unary
  | unambiguous
deriving DecidableEq, Repr

namespace Precedence

/-- The place in the order. -/
def rank (p : Precedence) : Nat := p.ctorIdx

instance : LT Precedence := ⟨fun p q => p.rank < q.rank⟩

instance : LE Precedence := ⟨fun p q => p.rank ≤ q.rank⟩

instance (p q : Precedence) : Decidable (p < q) := inferInstanceAs (Decidable (p.rank < q.rank))

instance (p q : Precedence) : Decidable (p ≤ q) := inferInstanceAs (Decidable (p.rank ≤ q.rank))

end Precedence

def Operator.precedence : Operator → Precedence
  | or => .or
  | and => .and
  | equal | notEqual | less | lessEqual | greater | greaterEqual => .comparison
  | bitOr => .bitOr
  | bitXor => .bitXor
  | bitAnd => .bitAnd
  | shiftLeft | shiftRight => .shift
  | add | subtract => .sum
  | multiply | divide | remainder => .product

namespace Expr

/-- An expression without the attributes in front of it. -/
def bare : Expr → Expr
  | .attributed _ value => value.bare
  | value => value

/-- Whether an expression is a jump without a value that could have one. -/
def isBareJump : Expr → Bool
  | .giveBack none | .leave _ none | .yield none => true
  | _ => false

/-- The precedence of an expression that stands by itself. -/
def precedence : Expr → Precedence
  | .attributed _ value =>
    if value.precedence = .unambiguous && !value.isBareJump then .unary else value.precedence
  | .closure _ _ _ none _ | .giveBack (some _) | .leave _ (some _) | .yield (some _) => .jump
  | .assign .. => .assignment
  | .range .. => .range
  | .binary operator .. => operator.precedence
  | .matching .. => .matching
  | .cast .. => .cast
  | .unary .. | .reference .. | .rawReference .. => .unary
  | _ => .unambiguous

end Expr

end WireErrors.Source
