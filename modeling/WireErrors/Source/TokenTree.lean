import WireErrors.Source.Token

/-!
# Token trees

Tokens with what stands between delimiters grouped together.
-/

namespace WireErrors.Source

inductive TokenTree where
  /-- A token that is no delimiter. -/
  | token (t : Token)
  | group (delimiter : Delimiter) (body : List TokenTree)

namespace TokenTree

/-- The trees of a list of tokens, given the open groups with the trees in front of each of them and
the trees read since the last delimiter was opened, both with the latest ones first. -/
def build : List (Delimiter × List TokenTree) → List TokenTree → List Token → List TokenTree
  | stack, current, .opening d :: rest => build ((d, current) :: stack) [] rest
  | (d, outer) :: stack, current, .closing _ :: rest =>
    build stack (.group d current.reverse :: outer) rest
  | [], current, .closing _ :: rest => build [] current rest
  | stack, current, t :: rest => build stack (.token t :: current) rest
  | _, current, [] => current.reverse

/-- The trees of a list of tokens with balanced delimiters. -/
def ofTokens (tokens : List Token) : List TokenTree := build [] [] tokens

end TokenTree

end WireErrors.Source
