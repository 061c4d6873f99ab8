import WireErrors.Target
import WireErrors.Text.Split

/-!
# Settings

The choice of a target together with overrides of its policy, read from `key=value` pairs that are
separated by commas. A later pair replaces an earlier one.
-/

namespace WireErrors

open Text

structure Settings where
  target : String
  conformance : Option Conformance
  serializable : Option Bool
  display : Option Bool
  validation : Option Bool
  strategy : Option Strategy
  /-- The variant for identifiers that the model does not declare. -/
  unknown : String
deriving DecidableEq, Repr

namespace Settings

def standard : Settings := ⟨"rust", none, none, none, none, none, "UnknownError"⟩

/-! ## Resolving -/

/-- The target with every override put in the place of its own value. -/
def overlay (settings : Settings) (target : Target) : Target where
  name := target.name
  policy := {
    conformance := settings.conformance.getD target.policy.conformance
    serializable := settings.serializable.getD target.policy.serializable
    display := settings.display.getD target.policy.display
    validation := settings.validation.getD target.policy.validation }
  strategy := settings.strategy.getD target.strategy

/-- The target that settings stand for, with a policy that has been checked. -/
def choose (settings : Settings) : Except GenerationError Target := do
  let target := settings.overlay (← Target.find settings.target)
  target.policy.validate target.name
  return target

def inspectBool (value : Bool) : String := if value then "true" else "false"

def inspectConformance : Conformance → String
  | .display => "WithStringConvertible"
  | .custom library interface =>
    "WithCustomConformance \x7b library_import: " ++ inspect library ++ ", conformance_type: " ++
      inspect interface ++ " \x7d"
  | .none => "NoGeneration"

/-- A policy as it is shown in the log. -/
def inspectPolicy (policy : Policy) : String :=
  "GenerationPolicy \x7b option_set_generation: " ++ inspectConformance policy.conformance ++
    ", generate_serializable_conformance: " ++ inspectBool policy.serializable ++
    ", generate_string_convertible_conformance: " ++ inspectBool policy.display ++
    ", can_expect_validation_error: " ++ inspectBool policy.validation ++ " \x7d"

def inspectStrategy : Strategy → String
  | .matching => "Match"
  | .chain => "PredicateChain"

/-- The delegate that settings stand for; the choice is logged. -/
def resolve (settings : Settings) : Emission Delegate := do
  let target ← Emission.ofExcept (settings.choose.mapError .refused)
  Emission.log ⟨.debug, "resolved target", [("target_name", target.name),
    ("policy", inspectPolicy target.policy), ("strategy", inspectStrategy target.strategy)]⟩
  return target.delegate

/-! ## Reading -/

/-- Why a parameter is refused. -/
inductive Misuse where
  | noValue (part : String)
  | unknownKey (key : String)
  | unknownConformance (value : String)
  /-- A custom conformance without a library and a trait. -/
  | incompleteConformance (value : String)
  | notBoolean (key value : String)
deriving DecidableEq, Repr

def Misuse.message : Misuse → String
  | noValue part => "expected key=value, got '" ++ part ++ "'"
  | unknownKey key => "unknown parameter: " ++ key
  | unknownConformance value => "invalid option_set: " ++ value
  | incompleteConformance value =>
    "option_set custom expects custom:<library>:<Trait>, got " ++ value
  | notBoolean key value => key ++ " expects a boolean, got '" ++ value ++ "'"

def refuse {α : Type} (misuse : Misuse) : Except GenerationError α :=
  .error (.parameter misuse.message)

/-- Reads `display`, `none` or `custom:<library>:<Trait>`; the library may hold `::`. -/
def readConformance (value : String) : Except GenerationError Conformance :=
  if value = "display" || value = "string" then .ok .display
  else if value = "none" then .ok .none
  else
    let lead := "custom:".toList
    if lead.isPrefixOf value.toList then
      match splitLast? ':' (value.toList.drop lead.length) with
      | some (library, interface) =>
        .ok (.custom (String.ofList library) (String.ofList interface))
      | none => refuse (.incompleteConformance value)
    else refuse (.unknownConformance value)

/-- The spellings of truth values, in lower case. -/
def booleans : List (String × Bool) :=
  [("true", true), ("yes", true), ("1", true), ("false", false), ("no", false), ("0", false)]

def readBool (key value : String) : Except GenerationError Bool :=
  match booleans.lookup (lowercase value) with
  | some b => .ok b
  | none => refuse (.notBoolean key value)

/-- Settings with the value of one key replaced. -/
def assign (settings : Settings) (key value : String) : Except GenerationError Settings :=
  match key with
  | "target" | "backend" => .ok { settings with target := value }
  | "option_set" => do return { settings with conformance := some (← readConformance value) }
  | "serializable" => do return { settings with serializable := some (← readBool key value) }
  | "display" => do return { settings with display := some (← readBool key value) }
  | "validation" => do return { settings with validation := some (← readBool key value) }
  | "initializer" => do return { settings with strategy := some (← Strategy.find value) }
  | "unknown" => .ok { settings with unknown := value }
  | _ => refuse (.unknownKey key)

/-- Settings after one trimmed `key=value` pair. -/
def readPart (settings : Settings) (part : List Char) : Except GenerationError Settings :=
  match splitFirst? '=' part with
  | some (key, value) => settings.assign (String.ofList (trim key)) (String.ofList (trim value))
  | none => refuse (.noValue (String.ofList part))

/-- The parts of a parameter text between its commas, trimmed and without the empty ones. -/
def parts (text : String) : List (List Char) :=
  ((splitAt ',' text.toList).map trim).filter (!·.isEmpty)

def read (text : String) : Except GenerationError Settings :=
  (parts text).foldlM readPart standard

end Settings

end WireErrors
