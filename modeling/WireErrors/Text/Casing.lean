import WireErrors.Text.Classes
import WireErrors.Text.Table.UpperMap
import WireErrors.Text.Table.LowerMap

/-!
# Upper and lower case

The full case mappings of single characters, which may give several characters, and the lower case
of a whole text, in which a capital sigma at the end of a word becomes a final sigma.
-/

namespace WireErrors.Text

/-- The case mapping given by runs of single images and a list of longer ones. -/
def mapCase (runs : List CaseRun) (expansions : List (Nat × List Nat)) (c : Char) : List Char :=
  match CaseRun.image? runs c.toNat with
  | some n => [Char.ofNat n]
  | none =>
    match expansion? expansions c.toNat with
    | some image => image.map Char.ofNat
    | none => [c]

def upper (c : Char) : List Char := mapCase Table.upperRuns Table.upperExpansions c

def lower (c : Char) : List Char := mapCase Table.lowerRuns Table.lowerExpansions c

/-- Whether the first character that casing does not look through is a cased letter. -/
def meetsCased : List Char → Bool
  | [] => false
  | c :: rest => if isCaseIgnorable c then meetsCased rest else isCased c

/-- Lower case of a text; `before` holds the characters already passed, nearest first. -/
def lowercaseAfter (before : List Char) : List Char → List Char
  | [] => []
  | c :: rest =>
    let image :=
      if c = 'Σ' then [if meetsCased before && !meetsCased rest then 'ς' else 'σ'] else lower c
    image ++ lowercaseAfter (c :: before) rest

def lowercase (text : String) : String := String.ofList (lowercaseAfter [] text.toList)

end WireErrors.Text
