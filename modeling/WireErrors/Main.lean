import WireErrors.CommandLine

/-!
# The program

`main` reads the input file that a command names, lets `Plan.ofRequest` decide what the command
does, and carries that out on the file system of the machine.
-/

namespace WireErrors

/-- The failure that an error of the operating system stands for. -/
def failureOf : IO.Error → FileFailure
  | .noFileOrDirectory .. => .notFound
  | .inappropriateType _ code _ => if code = 21 then .isDirectory else .notDirectory
  | .invalidArgument .. => .nameTooLong
  | _ => .notFound

/-- The text of a file, or why there is none. -/
def readText (path : String) : IO (Except FileFailure String) := do
  match ← (IO.FS.readBinFile path).toBaseIO with
  | .ok bytes => return (String.fromUTF8? bytes).elim (.error .notText) .ok
  | .error e => return .error (failureOf e)

/-- Prints a report; the exit code of the program is that of the report. -/
def report (r : Report) : IO UInt32 := do
  IO.print r.output
  if let some text := r.error then IO.eprint text
  return r.exit.toUInt32

end WireErrors

open WireErrors

def main (words : List String) : IO UInt32 := do
  let request := Request.read words
  let contents ← match request with
    | some (.run arguments) => readText arguments.input
    | _ => pure (.error .notFound)
  match Plan.ofRequest (fun _ => contents) request with
  | .stop r => report r
  | .write path text =>
    match ← (IO.FS.writeFile path text).toBaseIO with
    | .ok () => report .success
    | .error e => report (.failed (failureOf e).inspect)
