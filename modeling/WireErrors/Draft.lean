import WireErrors.Emission
import WireErrors.Source.Grammar.Item
import WireErrors.Source.Formatting.Item

/-!
# Destinations

Where emitted blocks go: a draft, which keeps the blocks apart and logs each of them, or a plain
text, in which a line break separates a block from the text before it.
-/

namespace WireErrors

/-- What can take blocks of source text. -/
class Destination (δ : Type) where
  append : δ → String → δ
  /-- The events logged when a block is appended. -/
  appendEvents : String → List Event

/-- Takes the steps of an emission, with the events that come up on the way. -/
def Step.into {δ : Type} [Destination δ] (d : δ) : List Step → δ × List Event
  | [] => (d, [])
  | .block text :: rest =>
    let (d', events) := Step.into (Destination.append d text) rest
    (d', Destination.appendEvents δ text ++ events)
  | .event e :: rest =>
    let (d', events) := Step.into d rest
    (d', e :: events)

/-- What an emission leaves in a destination, with the events on the way and its result. Blocks and
events from before a failure count. -/
def Emission.into {α δ : Type} [Destination δ] (d : δ) (m : Emission α) :
    δ × List Event × Except Failure α :=
  let (d', events) := Step.into d m.steps
  (d', events, m.result)

/-! ## Drafts -/

/-- The blocks of a source file under construction. -/
structure Draft where
  blocks : List String
deriving DecidableEq, Repr

namespace Draft

def empty : Draft := ⟨[]⟩

def isEmpty (draft : Draft) : Bool := draft.blocks.isEmpty

/-- The event logged for a block. -/
def appendEvent (text : String) : Event :=
  ⟨.trace, "append block", [("bytes", toString text.utf8ByteSize)]⟩

instance : Destination Draft where
  append draft text := ⟨draft.blocks ++ [text]⟩
  appendEvents text := [appendEvent text]

/-- The blocks with a line break between two of them. -/
def contents (draft : Draft) : String := "\n".intercalate draft.blocks

/-- The draft as one formatted source file. -/
def finish (draft : Draft) : Except Failure String :=
  match Source.File.read draft.contents with
  | .ok file =>
    match file.format? with
    | some text => .ok text
    | none => .error .noLayout
  | .error refusal =>
    .error (.refused (.formatting ("generated code does not parse: " ++ refusal.message)))

end Draft

instance : Destination String where
  append text block := if text.isEmpty then block else text ++ "\n" ++ block
  appendEvents _ := []

/-- An emission into a draft of its own: its blocks are not handed on, only logged. -/
def Emission.staged {α : Type} (m : Emission α) : Emission α :=
  let (_, events, result) := m.into Draft.empty
  ⟨events.map .event, result⟩

end WireErrors
