import WireErrors.ErrorModule
import WireErrors.Settings
import WireErrors.FileTree

/-!
# Command line

`Request.read` reads the words of a command and `Plan.ofRequest` says what the command does, given
what reading its input file gives. `runCommand` carries the plan out on a file tree.
-/

namespace WireErrors

/-! ## Requests -/

structure Arguments where
  input : String
  output : String
  baseName : Option String
  /-- The text of the settings. -/
  parameters : String
  listTargets : Bool
deriving DecidableEq, Repr

/-- What a command asks for. -/
inductive Request where
  | help
  | run (arguments : Arguments)
deriving DecidableEq, Repr

namespace Request

/-- The options that take a value. -/
inductive Choice where
  | output
  | baseName
  | parameters
deriving DecidableEq, Repr

/-- What the words read so far have given. -/
structure Collected where
  choices : List (Choice × String)
  input : Option String
  listTargets : Bool

namespace Collected

def choose (c : Collected) (choice : Choice) (value : String) : Option Collected :=
  if (c.choices.lookup choice).isSome then none
  else if choice == .output && value.isEmpty then none
  else some { c with choices := (choice, value) :: c.choices }

def takeInput (c : Collected) (value : String) : Option Collected :=
  if c.input.isSome || value.isEmpty then none else some { c with input := some value }

def takeInputs (c : Collected) (values : List String) : Option Collected :=
  values.foldlM takeInput c

def list (c : Collected) : Option Collected :=
  if c.listTargets then none else some { c with listTargets := true }

/-- The request when no word is left; an input is always needed. -/
def request (c : Collected) : Option Request :=
  c.input.map fun input => .run {
    input := input
    output := (c.choices.lookup .output).getD "model_errors.rs"
    baseName := c.choices.lookup .baseName
    parameters := (c.choices.lookup .parameters).getD ""
    listTargets := c.listTargets }

end Collected

/-- The form of one word. -/
inductive Word where
  | help
  | list
  /-- An option with its value, if the word holds it. -/
  | choice (choice : Choice) (value : Option String)
  /-- Everything after this word is an input. -/
  | inputsFollow
  | input (text : String)
  | unknown
deriving DecidableEq, Repr

def longNames : List (String × Choice) :=
  [("output", .output), ("base-name", .baseName), ("param", .parameters)]

def shortNames : List (Char × Choice) :=
  [('o', .output), ('b', .baseName), ('p', .parameters)]

/-- A word after `--`. -/
def longWord (text : List Char) : Word :=
  match Text.splitFirst? '=' text with
  | some (name, value) =>
    match longNames.lookup (String.ofList name) with
    | some choice => .choice choice (some (String.ofList value))
    | none => .unknown
  | none =>
    let name := String.ofList text
    if name == "help" then .help
    else if name == "list-targets" then .list
    else
      match longNames.lookup name with
      | some choice => .choice choice none
      | none => .unknown

def readWord (word : String) : Word :=
  match word.toList with
  | ['-', '-'] => .inputsFollow
  | '-' :: '-' :: text => longWord text
  | ['-'] => .input word
  | '-' :: 'h' :: _ => .help
  | '-' :: c :: text =>
    match shortNames.lookup c, text with
    | some choice, [] => .choice choice none
    | some choice, '=' :: value => .choice choice (some (String.ofList value))
    | some choice, value => .choice choice (some (String.ofList value))
    | none, _ => .unknown
  | _ => .input word

/-- Whether a word can be the value of the option before it. -/
def isValue (word : String) : Bool := word == "-" || !"-".toList.isPrefixOf word.toList

/-- The request in the words that are left, after what others have given. -/
def readFrom (c : Collected) : List String → Option Request
  | [] => c.request
  | word :: rest =>
    match readWord word, rest with
    | .help, _ => some .help
    | .list, rest => c.list.bind fun c => readFrom c rest
    | .choice choice (some value), rest => (c.choose choice value).bind fun c => readFrom c rest
    | .choice choice none, value :: rest =>
      if isValue value then (c.choose choice value).bind fun c => readFrom c rest else none
    | .choice _ none, [] => none
    | .inputsFollow, rest => (c.takeInputs rest).bind Collected.request
    | .input text, rest => (c.takeInput text).bind fun c => readFrom c rest
    | .unknown, _ => none

/-- The request in the words of a command, if they are well-formed. -/
def read (words : List String) : Option Request := readFrom ⟨[], none, false⟩ words

end Request

/-! ## Plans -/

/-- How a command ends and what it prints. -/
structure Report where
  exit : Nat
  output : String
  /-- The error that ended the command. -/
  error : Option String
deriving DecidableEq, Repr

namespace Report

def success : Report := ⟨0, "", none⟩

/-- The words of the command are wrong. -/
def misuse : Report := ⟨2, "", none⟩

def failed (shown : String) : Report := ⟨1, "", some ("Error: " ++ shown ++ "\n")⟩

/-- A name turned out not to be spellable. -/
def aborted : Report := ⟨101, "", none⟩

def ofFailure : Failure → Report
  | .refused error => failed error.inspect
  | .unspellable _ | .noLayout => aborted

end Report

/-- What a command does. -/
inductive Plan where
  | stop (report : Report)
  | write (path text : String)

namespace Plan

/-- The names of the targets, one per line. -/
def targetList : String := String.join (Target.all.map fun target => target.name ++ "\n")

/-- Settings come first, then the input, then generation. -/
def generate (arguments : Arguments) (contents : Except FileFailure String) :
    Except Report String := do
  let settings ← (Settings.read arguments.parameters).mapError fun e => Report.failed e.inspect
  let delegate ← settings.resolve.result.mapError Report.ofFailure
  let model ← (ModelFile.load arguments.input arguments.baseName contents).mapError
    fun e => Report.failed e.inspect
  (ErrorModule.generateFile delegate model settings.unknown).result.mapError Report.ofFailure

/-- The plan for a request, given what reading a path gives. -/
def ofRequest (read : String → Except FileFailure String) : Option Request → Plan
  | none => .stop .misuse
  | some .help => .stop .success
  | some (.run arguments) =>
    if arguments.listTargets then .stop { Report.success with output := targetList }
    else
      match generate arguments (read arguments.input) with
      | .ok text => .write arguments.output text
      | .error report => .stop report

/-- Carries a plan out on a file tree. -/
def carryOut (tree : FileTree) : Plan → Report × FileTree
  | .stop report => (report, tree)
  | .write path text =>
    match tree.write path text with
    | .ok tree => (.success, tree)
    | .error failure => (.failed failure.inspect, tree)

end Plan

/-- Runs the words of a command on a file tree. -/
def runCommand (tree : FileTree) (words : List String) : Report × FileTree :=
  (Plan.ofRequest tree.read (Request.read words)).carryOut tree

end WireErrors
