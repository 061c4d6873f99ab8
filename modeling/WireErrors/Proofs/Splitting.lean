import Mathlib.Data.List.DropRight
import Mathlib.Data.List.Forall2
import WireErrors.Text.Split

/-!
# Trimming and splitting

A text splits at a mark into exactly the pieces without the mark that are joined to the text again
(`splitAt_eq_iff`), and two joined texts into the pieces of both (`splitAt_append`). The first and the
last place of a mark are found (`splitFirst?_eq_some_iff`, `splitLast?_eq_some_iff`). Trimming leaves a
text alone that has no blank at its ends (`Tight.trim_eq`).
-/

namespace WireErrors.Text

/-! ## Joined texts -/

theorem intercalate_cons (mark : Char) (first second : List Char) (rest : List (List Char)) :
    List.intercalate [mark] (first :: second :: rest) =
      first ++ mark :: List.intercalate [mark] (second :: rest) := by
  simp [List.intercalate]

theorem mem_intercalate {mark d : Char} {parts : List (List Char)}
    (h : d ∈ List.intercalate [mark] parts) : d = mark ∨ ∃ part ∈ parts, d ∈ part := by
  induction parts with
  | nil => cases h
  | cons first parts ih =>
    cases parts with
    | nil => exact .inr ⟨first, List.mem_cons_self, by simpa [List.intercalate] using h⟩
    | cons second parts =>
      rw [intercalate_cons, List.mem_append, List.mem_cons] at h
      rcases h with hfirst | rfl | hrest
      · exact .inr ⟨first, List.mem_cons_self, hfirst⟩
      · exact .inl rfl
      · refine (ih hrest).imp_right ?_
        rintro ⟨part, hpart, hd⟩
        exact ⟨part, List.mem_cons_of_mem _ hpart, hd⟩

/-! ## Pieces one by one -/

theorem exists_forall₂ {α β : Type} {R : α → β → Prop} {parts : List α}
    (h : ∀ part ∈ parts, ∃ b, R part b) : ∃ others, List.Forall₂ R parts others := by
  induction parts with
  | nil => exact ⟨[], .nil⟩
  | cons part parts ih =>
    rw [List.forall_mem_cons] at h
    obtain ⟨b, hb⟩ := h.1
    obtain ⟨others, hothers⟩ := ih h.2
    exact ⟨b :: others, .cons hb hothers⟩

/-! ## Pieces between marks -/

theorem splitWhere_append {separates : Char → Bool} {piece word rest : List Char}
    (hword : ∀ c ∈ word, separates c = false) :
    splitWhere separates piece (word ++ rest) = splitWhere separates (piece ++ word) rest := by
  induction word generalizing piece with
  | nil => rw [List.nil_append, List.append_nil]
  | cons c word ih =>
    rw [List.forall_mem_cons] at hword
    rw [List.cons_append, splitWhere, hword.1, if_neg Bool.false_ne_true, ih hword.2,
      List.append_assoc, List.singleton_append]

theorem splitWhere_ne_nil (separates : Char → Bool) (piece text : List Char) :
    splitWhere separates piece text ≠ [] := by
  induction text generalizing piece with
  | nil => exact List.cons_ne_nil _ _
  | cons c text ih =>
    rw [splitWhere]
    split
    · exact List.cons_ne_nil _ _
    · exact ih _

theorem splitAt_intercalate {mark : Char} {parts : List (List Char)} (hparts : parts ≠ [])
    (hmark : ∀ part ∈ parts, mark ∉ part) : splitAt mark (List.intercalate [mark] parts) = parts := by
  have hseparates : ∀ part ∈ parts, ∀ c ∈ part, (c == mark) = false := by
    intro part hpart c hc
    rw [beq_eq_false_iff_ne]
    rintro rfl
    exact hmark part hpart hc
  unfold splitAt
  induction parts with
  | nil => exact absurd rfl hparts
  | cons first rest ih =>
    rw [List.forall_mem_cons] at hmark hseparates
    cases rest with
    | nil =>
      have hsingle : List.intercalate [mark] [first] = first ++ [] := by simp [List.intercalate]
      rw [hsingle, splitWhere_append hseparates.1]
      rfl
    | cons second rest =>
      rw [intercalate_cons, splitWhere_append hseparates.1, List.nil_append, splitWhere,
        if_pos (beq_self_eq_true mark)]
      exact congrArg _ (ih (List.cons_ne_nil _ _) hmark.2 hseparates.2)

/-- The pieces of a text, of which the first goes on with what has been read of it. -/
theorem intercalate_splitWhere (mark : Char) (piece text : List Char) :
    List.intercalate [mark] (splitWhere (· == mark) piece text) = piece ++ text := by
  induction text generalizing piece with
  | nil => simp [splitWhere, List.intercalate]
  | cons c text ih =>
    rw [splitWhere]
    split
    next hmark =>
      obtain rfl := beq_iff_eq.mp hmark
      obtain ⟨first, rest, hsplit⟩ := List.exists_cons_of_ne_nil (splitWhere_ne_nil (· == c) [] text)
      rw [hsplit, intercalate_cons, ← hsplit, ih, List.nil_append]
    next => rw [ih, List.append_assoc, List.singleton_append]

theorem not_mem_of_mem_splitWhere {mark : Char} {piece text : List Char} (hpiece : mark ∉ piece) :
    ∀ part ∈ splitWhere (· == mark) piece text, mark ∉ part := by
  induction text generalizing piece with
  | nil =>
    intro part hpart
    rwa [List.mem_singleton.mp hpart]
  | cons c text ih =>
    intro part hpart
    rw [splitWhere] at hpart
    split at hpart
    · rcases List.mem_cons.mp hpart with rfl | hpart
      · exact hpiece
      · exact ih List.not_mem_nil part hpart
    next hmark =>
      refine ih ?_ part hpart
      rw [List.mem_append, List.mem_singleton]
      rintro (hmem | rfl)
      · exact hpiece hmem
      · exact hmark (beq_self_eq_true mark)

/-- **What a text splits into**: the pieces without the mark that are joined to it. -/
theorem splitAt_eq_iff {mark : Char} {text : List Char} {pieces : List (List Char)} :
    splitAt mark text = pieces ↔
      pieces ≠ [] ∧ (∀ piece ∈ pieces, mark ∉ piece) ∧ List.intercalate [mark] pieces = text := by
  constructor
  · rintro rfl
    exact ⟨splitWhere_ne_nil _ _ _, not_mem_of_mem_splitWhere List.not_mem_nil,
      intercalate_splitWhere mark [] text⟩
  · rintro ⟨hne, hpieces, rfl⟩
    exact splitAt_intercalate hne hpieces

theorem splitAt_append (mark : Char) (first second : List Char) :
    splitAt mark (first ++ mark :: second) = splitAt mark first ++ splitAt mark second := by
  have hpiece : ∀ piece, splitWhere (· == mark) piece (first ++ mark :: second) =
      splitWhere (· == mark) piece first ++ splitWhere (· == mark) [] second := by
    induction first with
    | nil =>
      intro piece
      rw [List.nil_append, splitWhere]
      exact if_pos (beq_self_eq_true mark)
    | cons c first ih =>
      intro piece
      rw [List.cons_append, splitWhere, splitWhere, ih, ih]
      split <;> rfl
  exact hpiece []

/-! ## First and last places -/

theorem splitFirst?_append {mark : Char} {before : List Char} (h : mark ∉ before)
    (after : List Char) : splitFirst? mark (before ++ mark :: after) = some (before, after) := by
  induction before with
  | nil => exact if_pos rfl
  | cons c before ih =>
    rw [List.mem_cons, not_or] at h
    rw [List.cons_append, splitFirst?, if_neg (Ne.symm h.1), ih h.2]
    rfl

theorem splitFirst?_eq_none_iff {mark : Char} {text : List Char} :
    splitFirst? mark text = none ↔ mark ∉ text := by
  induction text with
  | nil => simp [splitFirst?]
  | cons c rest ih =>
    rw [splitFirst?]
    split
    next hc => simp [hc]
    next hc => simp [ih, Ne.symm hc]

theorem splitFirst?_eq_some_iff {mark : Char} {text before after : List Char} :
    splitFirst? mark text = some (before, after) ↔ text = before ++ mark :: after ∧ mark ∉ before := by
  refine ⟨fun h => ?_, fun ⟨htext, hbefore⟩ => htext ▸ splitFirst?_append hbefore after⟩
  have hmark : mark ∈ text := by
    by_contra hmark
    rw [splitFirst?_eq_none_iff.mpr hmark] at h
    cases h
  obtain ⟨earlier, later, rfl, hearlier⟩ := List.eq_append_cons_of_mem hmark
  rw [splitFirst?_append hearlier] at h
  cases h
  exact ⟨rfl, hearlier⟩

theorem splitLast?_eq_none_iff {mark : Char} {text : List Char} :
    splitLast? mark text = none ↔ mark ∉ text := by
  induction text with
  | nil => simp [splitLast?]
  | cons c rest ih =>
    rw [splitLast?]
    split
    next before after hrest =>
      rw [hrest] at ih
      refine iff_of_false nofun fun hmark => ?_
      cases ih.mpr fun hmem => hmark (List.mem_cons_of_mem c hmem)
    next hrest =>
      rw [List.mem_cons, not_or, ← ih, and_iff_left hrest]
      by_cases hc : c = mark
      · simp [hc]
      · simp [hc, Ne.symm hc]

theorem splitLast?_append {mark : Char} {after : List Char} (h : mark ∉ after)
    (before : List Char) : splitLast? mark (before ++ mark :: after) = some (before, after) := by
  induction before with
  | nil => rw [List.nil_append, splitLast?, splitLast?_eq_none_iff.mpr h]; exact if_pos rfl
  | cons c before ih => rw [List.cons_append, splitLast?, ih]

theorem splitLast?_eq_some_iff {mark : Char} {text before after : List Char} :
    splitLast? mark text = some (before, after) ↔ text = before ++ mark :: after ∧ mark ∉ after := by
  refine ⟨fun h => ?_, fun ⟨htext, hafter⟩ => htext ▸ splitLast?_append hafter before⟩
  have hmark : mark ∈ text := by
    by_contra hmark
    rw [splitLast?_eq_none_iff.mpr hmark] at h
    cases h
  obtain ⟨later, earlier, hreverse, hlater⟩ :=
    List.eq_append_cons_of_mem (List.mem_reverse.mpr hmark)
  obtain rfl : text = earlier.reverse ++ mark :: later.reverse := by
    rw [← List.reverse_reverse text, hreverse]
    simp
  rw [← List.mem_reverse] at hlater
  rw [splitLast?_append hlater] at h
  cases h
  exact ⟨rfl, hlater⟩

/-! ## Trimming -/

theorem trim_eq (text : List Char) : trim text = (text.dropWhile isBlank).rdropWhile isBlank := rfl

theorem mem_of_mem_trim {c : Char} {text : List Char} (h : c ∈ trim text) : c ∈ text :=
  (List.dropWhile_suffix _).subset ((List.rdropWhile_prefix _ _).subset h)

/-- Whether there is no blank at either end of a text. -/
def Tight (text : List Char) : Prop :=
  (∀ c ∈ text.head?, isBlank c = false) ∧ ∀ c ∈ text.getLast?, isBlank c = false

-- a quantifier over characters may also be decided by trying all of them
instance (text : List Char) : Decidable (Tight text) :=
  decidable_of_iff (text.head?.all (!isBlank ·) = true ∧ text.getLast?.all (!isBlank ·) = true)
    (by simp [Tight, Option.all_eq_true])

theorem Tight.append {first second : List Char} (hfirst : Tight first) (hsecond : Tight second) :
    Tight (first ++ second) := by
  constructor
  · intro c hc
    rw [List.head?_append, Option.mem_def, Option.or_eq_some_iff] at hc
    rcases hc with hc | ⟨-, hc⟩
    · exact hfirst.1 c hc
    · exact hsecond.1 c hc
  · intro c hc
    rw [List.getLast?_append, Option.mem_def, Option.or_eq_some_iff] at hc
    rcases hc with hc | ⟨-, hc⟩
    · exact hsecond.2 c hc
    · exact hfirst.2 c hc

theorem head?_dropWhile_isBlank (text : List Char) :
    ∀ c ∈ (text.dropWhile isBlank).head?, isBlank c = false := by
  intro c hc
  have hhead := List.head?_dropWhile_not isBlank text
  rw [Option.mem_def.mp hc] at hhead
  exact hhead

theorem tight_trim (text : List Char) : Tight (trim text) := by
  rw [trim_eq]
  constructor
  · intro c hc
    obtain ⟨rest, hprefix⟩ := List.rdropWhile_prefix isBlank (text.dropWhile isBlank)
    refine head?_dropWhile_isBlank text c ?_
    rw [← hprefix, List.head?_append, Option.mem_def.mp hc]
    rfl
  · intro c hc
    obtain ⟨hne, hlast⟩ := List.mem_getLast?_eq_getLast hc
    rw [hlast]
    simpa using List.rdropWhile_last_not isBlank (text.dropWhile isBlank) hne

theorem Tight.trim_eq {text : List Char} (h : Tight text) : trim text = text := by
  have hfront : text.dropWhile isBlank = text := by
    cases text with
    | nil => rfl
    | cons c rest => exact List.dropWhile_cons_of_neg (by simp [h.1 c rfl])
  rw [Text.trim_eq, hfront, List.rdropWhile_eq_self_iff]
  intro hne
  simp [h.2 _ (List.getLast?_eq_some_getLast hne)]

theorem trim_append_blank {c : Char} (hc : isBlank c = true) (text : List Char) :
    trim (text ++ [c]) = trim text := by
  rw [trim_eq, trim_eq, List.dropWhile_append]
  split
  next hall =>
    rw [List.isEmpty_iff.mp hall]
    simp [hc, List.rdropWhile]
  next => exact List.rdropWhile_concat_pos _ _ _ hc

end WireErrors.Text
