import WireErrors.Model
import WireErrors.Text.Split

/-!
# Model files

A model file lists one declared error name per line. Blank lines and lines that start with `#` are
skipped, and the name of the file up to its first dot is the base name.
-/

namespace WireErrors

open Text

/-! ## Failing to read or write a file -/

inductive FileFailure where
  | notFound
  | isDirectory
  | notDirectory
  | nameTooLong
  /-- The path holds a NUL. -/
  | invalidPath
  /-- The contents are not UTF-8. -/
  | notText
deriving DecidableEq, Repr

namespace FileFailure

/-- The number, kind and text of a failure that the operating system reports. -/
def system? : FileFailure → Option (Nat × String × String)
  | notFound => some (2, "NotFound", "No such file or directory")
  | isDirectory => some (21, "IsADirectory", "Is a directory")
  | notDirectory => some (20, "NotADirectory", "Not a directory")
  | nameTooLong => some (36, "InvalidFilename", "File name too long")
  | invalidPath => none
  | notText => none

/-- The kind and text of a failure that is found without the operating system. -/
def internal : FileFailure → String × String
  | invalidPath => ("InvalidInput", "file name contained an unexpected NUL byte")
  | _ => ("InvalidData", "stream did not contain valid UTF-8")

def message (failure : FileFailure) : String :=
  match failure.system? with
  | some (code, _, text) => text ++ " (os error " ++ toString code ++ ")"
  | none => failure.internal.2

def inspect (failure : FileFailure) : String :=
  match failure.system? with
  | some (code, kind, text) =>
    "Os \x7b code: " ++ toString code ++ ", kind: " ++ kind ++ ", message: " ++ Text.inspect text ++
      " \x7d"
  | none =>
    "Error \x7b kind: " ++ failure.internal.1 ++ ", message: " ++ Text.inspect failure.internal.2 ++
      " \x7d"

end FileFailure

/-! ## Loading -/

inductive LoadError where
  | unreadable (path : String) (failure : FileFailure)
  /-- A line, counted from one, holds more than a name. -/
  | invalidLine (path : String) (line : Nat) (content : String)
deriving DecidableEq, Repr

namespace LoadError

def label : LoadError → String
  | unreadable .. => "Read"
  | invalidLine .. => "InvalidLine"

def message : LoadError → String
  | unreadable path failure => "failed to read " ++ path ++ ": " ++ failure.message
  | invalidLine path line content =>
    path ++ ":" ++ toString line ++ ": expected a single error name, got '" ++ content ++ "'"

def inspect : LoadError → String
  | unreadable path failure =>
    "Read \x7b path: " ++ Text.inspect path ++ ", source: " ++ failure.inspect ++ " \x7d"
  | invalidLine path line content =>
    "InvalidLine \x7b path: " ++ Text.inspect path ++ ", line: " ++ toString line ++
      ", content: " ++ Text.inspect content ++ " \x7d"

end LoadError

namespace ModelFile

/-- The declared names in lines that are counted from a number on; the first line that holds more
than a name is given back instead, with its number. -/
def namesIn (number : Nat) : List (List Char) → Except (Nat × String) (List String)
  | [] => .ok []
  | line :: rest =>
    let content := trim line
    match content with
    | [] => namesIn (number + 1) rest
    | '#' :: _ => namesIn (number + 1) rest
    | _ =>
      if content.any isBlank then .error (number, String.ofList content)
      else (namesIn (number + 1) rest).map (String.ofList content :: ·)

/-- The declared names in the contents of a model file. -/
def errorNames (contents : String) : Except (Nat × String) (List String) :=
  namesIn 1 (splitAt '\n' contents.toList)

/-- The base name that a path stands for: its last component up to the first dot. -/
def baseName (path : String) : String :=
  let component := match splitLast? '/' path.toList with
    | some (_, component) => component
    | none => path.toList
  String.ofList (component.takeWhile (· != '.'))

/-- The model in a file, given what reading its path gives. -/
def load (path : String) (givenName : Option String) (contents : Except FileFailure String) :
    Except LoadError Model :=
  match contents with
  | .error failure => .error (.unreadable path failure)
  | .ok contents =>
    match errorNames contents with
    | .ok names => .ok ⟨givenName.getD (baseName path), names⟩
    | .error (line, content) => .error (.invalidLine path line content)

end ModelFile

end WireErrors
