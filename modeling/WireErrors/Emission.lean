import WireErrors.Error

/-!
# Emission

A generator appends blocks of source text to a destination and logs events, in one order, and it may
stop with a failure. `Emission` is that behaviour as a value: the steps taken and the result.
-/

namespace WireErrors

/-! ## Events -/

inductive Level where
  | trace
  | debug
  | info
  | warn
deriving DecidableEq, Repr

/-- A log entry with its named fields. -/
structure Event where
  level : Level
  message : String
  fields : List (String × String)
deriving DecidableEq, Repr

/-! ## Steps and results -/

inductive Step where
  | block (text : String)
  | event (e : Event)
deriving DecidableEq, Repr

structure Emission (α : Type) where
  steps : List Step
  result : Except Failure α

namespace Emission

variable {α β : Type}

def bind (m : Emission α) (f : α → Emission β) : Emission β :=
  match m.result with
  | .ok a => ⟨m.steps ++ (f a).steps, (f a).result⟩
  | .error failure => ⟨m.steps, .error failure⟩

instance : Monad Emission where
  pure a := ⟨[], .ok a⟩
  bind := bind

/-- Appends a block. -/
def block (text : String) : Emission Unit := ⟨[.block text], .ok ()⟩

/-- Appends blocks in order. -/
def appendAll (texts : List String) : Emission Unit := ⟨texts.map .block, .ok ()⟩

def log (e : Event) : Emission Unit := ⟨[.event e], .ok ()⟩

def fail (failure : Failure) : Emission α := ⟨[], .error failure⟩

def refuse (error : GenerationError) : Emission α := fail (.refused error)

def ofExcept : Except Failure α → Emission α
  | .ok a => pure a
  | .error failure => fail failure

/-- The blocks appended, in order. -/
def blocks (m : Emission α) : List String :=
  m.steps.filterMap fun
    | .block text => some text
    | .event _ => none

end Emission

end WireErrors
