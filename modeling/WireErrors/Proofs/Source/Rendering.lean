import WireErrors.Source.Token

/-!
# Parts of rendered text

The text of tokens is put together from the texts of their parts, with the blank in between that the
two tokens at the seam call for.
-/

namespace WireErrors.Source.Token

/-- What stands between two tokens. -/
def gap (t u : Token) : String := if touches t u then "" else " "

theorem render_append {first : List Token} {t : Token} (hlast : first.getLast? = some t)
    (u : Token) (second : List Token) :
    render (first ++ u :: second) = render first ++ gap t u ++ render (u :: second) := by
  obtain ⟨before, rfl⟩ := List.getLast?_eq_some_iff.mp hlast
  have hgap : (gap t u).toList = if touches t u then [] else [' '] := by
    unfold gap
    split <;> rfl
  have hchars : renderChars (before ++ t :: u :: second) =
      renderChars (before ++ [t]) ++ (gap t u).toList ++ renderChars (u :: second) := by
    rw [hgap]
    induction before with
    | nil => rfl
    | cons b before ih =>
      cases before with
      | nil => simp [renderChars]
      | cons c before =>
        have htail := ih (List.getLast?_concat ..)
        simp only [List.cons_append, renderChars, List.append_assoc] at htail ⊢
        rw [htail]
  rw [List.append_assoc, List.singleton_append, render, hchars, ← String.toList_inj]
  simp [render]

end WireErrors.Source.Token
