import WireErrors.Delegate
import WireErrors.Text.Casing

/-!
# Built-in targets

A target is found by its name in any case and with `_` for `-`, and brings a policy and a strategy.
-/

namespace WireErrors

/-- A target under its canonical name. -/
structure Target where
  name : String
  policy : Policy
  strategy : Strategy
deriving DecidableEq, Repr

namespace Target

def rust : Target := ⟨"rust", ⟨.display, true, true, false⟩, .matching⟩

def validating : Target := ⟨"rust-validating", ⟨.display, true, true, true⟩, .chain⟩

def minimal : Target := ⟨"rust-minimal", .plain .none, .matching⟩

/-- The targets that can be listed. -/
def all : List Target := [rust, validating, minimal]

/-- The names under which targets are found, in their normal form. -/
def spellings : List (String × Target) :=
  [("rust", rust), ("rust-validating", validating), ("validating", validating),
   ("rust-minimal", minimal), ("minimal", minimal)]

/-- A name in lower case and with `-` for `_`. -/
def normalName (name : String) : String :=
  String.ofList ((Text.lowercase name).toList.map fun c => if c = '_' then '-' else c)

def find (name : String) : Except GenerationError Target :=
  match spellings.lookup (normalName name) with
  | some target => .ok target
  | none => .error (.unknownTarget (normalName name))

def delegate (target : Target) : Delegate := target.strategy.delegate target.name target.policy

end Target

/-- The spellings of strategies, in lower case. -/
def Strategy.spellings : List (String × Strategy) :=
  [("match", .matching), ("matching", .matching), ("chain", .chain), ("predicate", .chain),
   ("predicate_chain", .chain), ("predicate-chain", .chain)]

/-- The strategy with a name in any case. -/
def Strategy.find (name : String) : Except GenerationError Strategy :=
  match spellings.lookup (Text.lowercase name) with
  | some strategy => .ok strategy
  | none => .error (.parameter ("unknown initializer strategy: " ++ Text.lowercase name))

end WireErrors
