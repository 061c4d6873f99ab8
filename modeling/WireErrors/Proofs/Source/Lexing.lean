import WireErrors.Proofs.Source.Literals
import WireErrors.Proofs.Source.Words
import WireErrors.Source.Lexer

/-!
# Tokens can be read back

The text of a list of tokens is read as the same tokens (`Legible.reads`). That needs each token to
be spelled like one, which is what `Legible` says of a list; what makes the proof go through is that
a token is followed by something that it cannot go on with (`Separated`), or is a mark that is
joined to the next one.
-/

namespace WireErrors.Source

open Text

/-! ## What follows a token -/

/-- Characters that no token goes on with. -/
def separators : List Char := [' ', '\n', ')', ']']

/-- Whether a text starts with a character that no token goes on with, or is empty. -/
def Separated (text : List Char) : Prop := ∀ c ∈ text.head?, c ∈ separators

theorem separated_nil : Separated [] := nofun

theorem separated_cons {c : Char} (rest : List Char) (h : c ∈ separators) : Separated (c :: rest) := by
  intro d hd
  obtain rfl : c = d := Option.some.inj hd
  exact h

/-- Marks of emitted code that words and literals do not go on with. -/
def partingMarks : List Char := ['!', '=', '<', '>', ':', ',', ';', '.', '&', '|', '-', '+', '*', '?']

/-- Characters that no word or literal goes on with. -/
def stops : List Char := separators ++ ['(', '[', '{', '}'] ++ partingMarks

/-- Whether a text starts with a character that no word or literal goes on with, or is empty. -/
def Parted (text : List Char) : Prop := ∀ c ∈ text.head?, c ∈ stops

theorem Separated.parted {text : List Char} (h : Separated text) : Parted text := fun c hc =>
  List.mem_append_left _ (List.mem_append_left _ (h c hc))

theorem not_word_of_mem_stops : ∀ c ∈ stops,
    isIdentStart c = false ∧ isIdentContinue c = false ∧ c ≠ '"' ∧ c ≠ '\'' ∧ c ≠ '#' := by
  decide

/-- Whether a text does not start with a character that turns a name into a literal. -/
def Tame (text : List Char) : Prop := ∀ c ∈ text.head?, c ≠ '"' ∧ c ≠ '\'' ∧ c ≠ '#'

theorem ne_of_isWordChar {c : Char} (h : isWordChar c = true) : c ≠ '"' ∧ c ≠ '\'' ∧ c ≠ '#' := by
  refine ⟨?_, ?_, ?_⟩ <;> rintro rfl <;> revert h <;> decide

theorem tame_append {word rest : List Char} (hword : ∀ c ∈ word, isWordChar c = true)
    (hrest : Parted rest) : Tame (word ++ rest) := by
  intro c hc
  cases word with
  | nil =>
    obtain ⟨-, -, hquote, hapostrophe, hhash⟩ := not_word_of_mem_stops c (hrest c hc)
    exact ⟨hquote, hapostrophe, hhash⟩
  | cons d word =>
    obtain rfl : d = c := Option.some.inj hc
    exact ne_of_isWordChar (hword d List.mem_cons_self)

theorem tame_of_append_eq_cons {word rest tail : List Char} {d : Char}
    (hword : ∀ c ∈ word, isWordChar c = true) (hrest : Parted rest)
    (hd : isWordChar d = true) (h : word ++ rest = d :: tail) : Tame tail := by
  cases word with
  | nil =>
    rw [List.nil_append] at h
    obtain ⟨hstart, hcontinue, -⟩ := not_word_of_mem_stops d (hrest d (by rw [h]; rfl))
    rw [isWordChar, hstart, hcontinue] at hd
    cases hd
  | cons c word =>
    rw [List.cons_append, List.cons.injEq] at h
    rw [← h.2]
    exact tame_append (fun e he => hword e (List.mem_cons_of_mem _ he)) hrest

/-! ## Identifiers -/

theorem readPlainIdent_append {word rest : List Char} (hword : isPlainSpelling word = true)
    (hrest : Parted rest) : readPlainIdent (word ++ rest) = some (word, rest) := by
  cases word with
  | nil => cases hword
  | cons c word =>
    obtain ⟨hstart, hcontinue⟩ := Bool.and_eq_true_iff.mp hword
    rw [List.all_eq_true] at hcontinue
    have hstop : ∀ d ∈ rest.head?, isIdentContinue d = false := fun d hd =>
      (not_word_of_mem_stops d (hrest d hd)).2.1
    have htake : (word ++ rest).takeWhile isIdentContinue = word := by
      rw [List.takeWhile_append_of_pos hcontinue]
      cases rest with
      | nil => simp
      | cons d rest => simp [hstop d rfl]
    have hdrop : (word ++ rest).dropWhile isIdentContinue = rest := by
      rw [List.dropWhile_append_of_pos hcontinue]
      cases rest with
      | nil => rfl
      | cons d rest => simp [hstop d rfl]
    rw [List.cons_append, readPlainIdent, if_pos hstart, htake, hdrop]

theorem readPlainIdent_of_parted {rest : List Char} (hrest : Parted rest) :
    readPlainIdent rest = none := by
  cases rest with
  | nil => rfl
  | cons c rest =>
    have hstart := (not_word_of_mem_stops c (hrest c rfl)).1
    rw [readPlainIdent, hstart, if_neg Bool.false_ne_true]

theorem readIdent_plain {word rest : List Char} (hword : isPlainSpelling word = true)
    (hrest : Parted rest) : readIdent (word ++ rest) = some (word, rest) := by
  have hplain := readPlainIdent_append hword hrest
  unfold readIdent
  split
  next tail htail =>
    exfalso
    cases word with
    | nil => cases hword
    | cons c word =>
      have htame : Tame (word ++ rest) := tame_append
        (fun d hd => isWordChar_of_isPlainSpelling hword (List.mem_cons_of_mem _ hd)) hrest
      rw [List.cons_append, List.cons.injEq] at htail
      exact (htame '#' (by rw [htail.2]; rfl)).2.2 rfl
  next => exact hplain

theorem readIdent_raw {plain rest : List Char} (hplain : isPlainSpelling plain = true)
    (hraw : neverRaw.contains (String.ofList plain) = false) (hrest : Parted rest) :
    readIdent ('r' :: '#' :: plain ++ rest) = some ('r' :: '#' :: plain, rest) := by
  rw [List.cons_append, List.cons_append, readIdent, readPlainIdent_append hplain hrest]
  simp only [hraw, Bool.false_eq_true, if_false]

theorem readIdent_append {name : String} {rest : List Char} (hname : isSpelled name = true)
    (hrest : Parted rest) : readIdent (name.toList ++ rest) = some (name.toList, rest) := by
  rcases isSpelled_cases hname with hplain | ⟨plain, hchars, hplain, hraw⟩
  · exact readIdent_plain hplain hrest
  · rw [hchars]
    exact readIdent_raw hplain hraw hrest

/-! ## Identifiers are no literals -/

theorem readText_of_tame {valid : List Char → Bool} {c : Char} {rest : List Char}
    (hc : c ≠ '"') (hrest : Tame rest) : readText valid (c :: rest) = none := by
  have hliteral : readLiteral (c :: rest) = none := by
    unfold readLiteral
    split
    next heq => exact absurd (List.cons.inj heq).1 hc
    next inside heq =>
      obtain ⟨-, rfl⟩ := List.cons.inj heq
      cases rest with
      | nil => rfl
      | cons d rest =>
        obtain ⟨hquote, -, hhash⟩ := hrest d rfl
        have htake : (d :: rest).takeWhile (· == '#') = [] :=
          List.takeWhile_cons_of_neg (by simpa using hhash)
        simp only [htake, List.length_nil, List.drop_zero]
        split
        next heq => exact absurd (List.cons.inj heq).1 hquote
        next => rfl
    next => rfl
  unfold readText
  rw [hliteral]
  split <;> first | rfl | simp_all

theorem isDigit_of_isIdentStart {c : Char} (h : isIdentStart c = true) : c.isDigit = false := by
  rw [Bool.eq_false_iff]
  intro hdigit
  have hrange : 48 ≤ c.toNat ∧ c.toNat ≤ 57 := by
    simpa [Char.isDigit, UInt32.le_iff_toNat_le] using hdigit
  have hnone : ∀ k < 57 + 1 - 48, isIdentStart (Char.ofNat (48 + k)) = false := by decide
  have hc := holds_of_char_between (P := fun c => isIdentStart c = false) hnone hrange.1 hrange.2
  rw [h] at hc
  cases hc

theorem ne_of_isIdentStart {c : Char} (h : isIdentStart c = true) :
    c ≠ '(' ∧ c ≠ '"' ∧ c ≠ '\'' ∧ c ≠ '#' := by
  refine ⟨?_, ?_, ?_, ?_⟩ <;> rintro rfl <;> revert h <;> decide

theorem readSpelled_plain {word rest : List Char} (hword : isPlainSpelling word = true)
    (hrest : Parted rest) : readSpelled (word ++ rest) = none := by
  cases word with
  | nil => cases hword
  | cons c word =>
    have hchars : ∀ d ∈ word, isWordChar d = true := fun d hd =>
      isWordChar_of_isPlainSpelling hword (List.mem_cons_of_mem _ hd)
    have hstart := (Bool.and_eq_true_iff.mp hword).1
    obtain ⟨hparen, hquote, hapostrophe, -⟩ := ne_of_isIdentStart hstart
    have htame := tame_append hchars hrest
    rw [List.cons_append]
    unfold readSpelled
    split
    next heq => cases heq
    next heq => exact absurd (List.cons.inj heq).1 hparen
    next heq => exact absurd (List.cons.inj heq).1 hapostrophe
    next heq => exact absurd rfl (htame '\'' (by rw [(List.cons.inj heq).2]; rfl)).2.1
    next heq => exact absurd rfl (htame '"' (by rw [(List.cons.inj heq).2]; rfl)).1
    next tail heq =>
      have htail := tame_of_append_eq_cons hchars hrest (by decide) (List.cons.inj heq).2
      rw [readText_of_tame (by decide) htail]
      rfl
    next heq => exact absurd rfl (htame '"' (by rw [(List.cons.inj heq).2]; rfl)).1
    next tail heq =>
      have htail := tame_of_append_eq_cons hchars hrest (by decide) (List.cons.inj heq).2
      rw [readText_of_tame (by decide) htail]
      rfl
    next heq =>
      obtain ⟨rfl, rfl⟩ := List.cons.inj heq
      rw [isDigit_of_isIdentStart hstart, if_neg Bool.false_ne_true, readText_of_tame hquote htame]
      rfl

theorem readSpelled_raw {plain rest : List Char} (hplain : isPlainSpelling plain = true) :
    readSpelled ('r' :: '#' :: plain ++ rest) = none := by
  cases plain with
  | nil => cases hplain
  | cons c plain =>
    obtain ⟨-, hquote, -, hhash⟩ := ne_of_isIdentStart (Bool.and_eq_true_iff.mp hplain).1
    have hliteral : readLiteral ('r' :: '#' :: c :: (plain ++ rest)) = none := by
      have htake : ('#' :: c :: (plain ++ rest)).takeWhile (· == '#') = ['#'] := by
        simp [hhash]
      rw [readLiteral]
      simp only [htake, List.length_singleton, List.drop_succ_cons, List.drop_zero]
      split
      next heq => exact absurd (List.cons.inj heq).1 hquote
      next => rfl
    show (readText _ ('r' :: '#' :: c :: (plain ++ rest))).map withSuffix = none
    unfold readText
    rw [hliteral]
    rfl

/-! ## Tokens of identifiers -/

/-- Whether a text, not behind a name, ends a start of a literal: its last character and no other one
can stand outside of a word, and none of them parts words. -/
def endsLiteralStart : List Char → Bool
  | [] => false
  | [c] => !isWordChar c && !stops.contains c
  | c :: rest => !stops.contains c && endsLiteralStart rest

theorem isPrefixOf_of_word {word rest start : List Char}
    (hword : ∀ c ∈ word, isWordChar c = true) (hrest : Parted rest)
    (hstart : endsLiteralStart start = true) : start.isPrefixOf (word ++ rest) = false := by
  induction word generalizing start with
  | nil =>
    cases start with
    | nil => cases hstart
    | cons c start =>
      have hc : stops.contains c = false := by
        cases start <;> simp_all [endsLiteralStart]
      cases rest with
      | nil => rfl
      | cons d rest =>
        have hne : (c == d) = false := by
          rw [beq_eq_false_iff_ne]
          rintro rfl
          have := hrest c rfl
          simp_all
        rw [List.nil_append, List.isPrefixOf, hne, Bool.false_and]
  | cons d word ih =>
    cases start with
    | nil => cases hstart
    | cons c start =>
      have hd := hword d List.mem_cons_self
      rw [List.cons_append, List.isPrefixOf]
      cases start with
      | nil =>
        have hne : (c == d) = false := by
          rw [beq_eq_false_iff_ne]
          rintro rfl
          simp_all [endsLiteralStart]
        rw [hne, Bool.false_and]
      | cons e start =>
        have hrest' : endsLiteralStart (e :: start) = true := by
          simp_all [endsLiteralStart]
        rw [ih (fun f hf => hword f (List.mem_cons_of_mem _ hf)) hrest', Bool.and_false]

theorem readIdentToken_append {name : String} {rest : List Char} (hname : isSpelled name = true)
    (hrest : Parted rest) :
    readIdentToken (name.toList ++ rest) = some ([.ident name], rest) := by
  have hstarts : (literalStarts.any fun start => start.isPrefixOf (name.toList ++ rest)) =
      false := by
    rcases isSpelled_cases hname with hplain | ⟨plain, hchars, hplain, -⟩
    · have hall : ∀ start ∈ literalStarts, endsLiteralStart start = true := by decide
      rw [List.any_eq_false]
      intro start hstart
      rw [isPrefixOf_of_word (fun c hc => isWordChar_of_isPlainSpelling hplain hc) hrest
        (hall start hstart)]
      exact Bool.false_ne_true
    · rw [hchars]
      cases plain with
      | nil => cases hplain
      | cons c plain =>
        obtain ⟨-, hquote, -, hhash⟩ := ne_of_isIdentStart (Bool.and_eq_true_iff.mp hplain).1
        simp [literalStarts, List.isPrefixOf, Ne.symm hquote, Ne.symm hhash]
  rw [readIdentToken, hstarts, if_neg Bool.false_ne_true, readIdent_append hname hrest]
  simp

theorem readSpelled_ident {name : String} {rest : List Char} (hname : isSpelled name = true)
    (hrest : Parted rest) : readSpelled (name.toList ++ rest) = none := by
  rcases isSpelled_cases hname with hplain | ⟨plain, hchars, hplain, -⟩
  · exact readSpelled_plain hplain hrest
  · rw [hchars]
    exact readSpelled_raw hplain

/-! ## Single tokens -/

/-- The marks of emitted code, apart from the apostrophe. -/
def plainMarks : List Char := ['#', '!', '=', '<', '>', ':', ',', ';', '.', '&', '|', '-', '+', '*', '?']

/-- Whether a text is read as a token at its front and a rest. -/
def Starts (text : List Char) (t : Token) (rest : List Char) : Prop :=
  text ≠ [] ∧ readStep text = some ([t], rest)

theorem starts_of_readToken {c : Char} {text rest : List Char} {t : Token} (hspace : isSpace c = false)
    (hslash : c ≠ '/') (h : readToken c text = some ([t], rest)) : Starts (c :: text) t rest := by
  refine ⟨List.cons_ne_nil _ _, ?_⟩
  unfold readStep
  split
  next heq => cases heq
  next heq => exact absurd (List.cons.inj heq).1 hslash
  next heq => exact absurd (List.cons.inj heq).1 hslash
  next heq =>
    obtain ⟨rfl, rfl⟩ := List.cons.inj heq
    rw [hspace, if_neg Bool.false_ne_true]
    exact h

theorem name_start {c : Char} (h : isIdentStart c = true) :
    isSpace c = false ∧ c ≠ '/' ∧ delimiterToken? c = none ∧ c ≠ '\'' ∧ isMark c = false := by
  have hmarks : ∀ d ∈ "~!@#$%^&*-=+|;:,<.>/?'".toList, isIdentStart d = false := by decide
  have hmark : isMark c = false := by
    rw [isMark, List.contains_eq_mem, decide_eq_false_iff_not]
    intro hmem
    rw [hmarks c hmem] at h
    cases h
  have hother : ∀ d ∈ ['\u200e', '\u200f', '/', '(', '[', '{', ')', ']', '}', '\''], c ≠ d := by
    have hnone : ∀ d ∈ ['\u200e', '\u200f', '/', '(', '[', '{', ')', ']', '}', '\''],
        isIdentStart d = false := by decide +kernel
    rintro d hd rfl
    rw [hnone c hd] at h
    cases h
  simp only [List.forall_mem_cons] at hother
  obtain ⟨hleft, hright, hslash, h1, h2, h3, h4, h5, h6, hapostrophe, -⟩ := hother
  refine ⟨?_, hslash, ?_, hapostrophe, hmark⟩
  · have hblank : isBlank c = false := isBlank_of_isWordChar (Bool.or_eq_true_iff.mpr (.inl h))
    simp [isSpace, hblank, hleft, hright]
  · simp [delimiterToken?, h1, h2, h3, h4, h5, h6]

theorem starts_ident {name : String} {rest : List Char} (hname : isSpelled name = true)
    (hrest : Parted rest) : Starts (name.toList ++ rest) (.ident name) rest := by
  have hspelled := readSpelled_ident hname hrest
  have htoken := readIdentToken_append hname hrest
  cases hchars : name.toList with
  | nil => exact absurd hchars (toList_ne_nil_of_isSpelled hname)
  | cons c chars =>
    rw [hchars, List.cons_append] at hspelled htoken
    have hstart := isIdentStart_of_isSpelled hname hchars
    obtain ⟨hspace, hslash, hdelimiter, hapostrophe, hmark⟩ := name_start hstart
    refine starts_of_readToken hspace hslash ?_
    rw [List.append_eq, readToken, hspelled]
    simp only [hdelimiter, if_neg hapostrophe, hmark, Bool.false_eq_true, if_false]
    exact htoken

theorem starts_mark {c : Char} (hc : c ∈ plainMarks) (rest : List Char) :
    Starts (c :: rest) (.mark c (startsMark rest)) rest := by
  have hmarks : ∀ c ∈ plainMarks, isSpace c = false ∧ c ≠ '/' ∧ delimiterToken? c = none ∧
      c ≠ '\'' ∧ isMark c = true := by decide
  obtain ⟨hspace, hslash, hdelimiter, hapostrophe, hmark⟩ := hmarks c hc
  have hspelled : readSpelled (c :: rest) = none := by
    simp only [plainMarks, List.mem_cons, List.not_mem_nil, or_false] at hc
    rcases hc with rfl | rfl | rfl | rfl | rfl | rfl | rfl | rfl | rfl | rfl | rfl | rfl | rfl |
      rfl | rfl <;> rfl
  refine starts_of_readToken hspace hslash ?_
  rw [readToken, hspelled]
  simp only [hdelimiter, if_neg hapostrophe, hmark, if_true]

theorem starts_delimiter {c : Char} {t : Token} {rest : List Char}
    (hspelled : readSpelled (c :: rest) = none) (hdelimiter : delimiterToken? c = some t)
    (hspace : isSpace c = false) (hslash : c ≠ '/') : Starts (c :: rest) t rest := by
  refine starts_of_readToken hspace hslash ?_
  rw [readToken, hspelled]
  simp only [hdelimiter]

theorem starts_opening (d : Delimiter) {rest : List Char}
    (hrest : d = .paren → ∀ c ∈ rest.head?, c ≠ '/') :
    Starts (Token.openingChar d :: rest) (.opening d) rest := by
  cases d with
  | bracket => exact starts_delimiter rfl rfl (by decide) (by decide)
  | brace => exact starts_delimiter rfl rfl (by decide) (by decide)
  | paren =>
    have hmalformed : malformed.isPrefixOf rest = false := by
      cases rest with
      | nil => rfl
      | cons c rest =>
        have hne : ('/' == c) = false := by
          rw [beq_eq_false_iff_ne]
          exact Ne.symm (hrest rfl c rfl)
        have hchars : malformed = '/' :: "*ERROR*/)".toList := by decide
        rw [hchars, List.isPrefixOf, hne, Bool.false_and]
    have hspelled : readSpelled ('(' :: rest) = none := by
      rw [readSpelled, hmalformed, if_neg Bool.false_ne_true]
    exact starts_delimiter hspelled rfl (by decide) (by decide)

theorem starts_closing (d : Delimiter) (rest : List Char) :
    Starts (Token.closingChar d :: rest) (.closing d) rest := by
  cases d <;> exact starts_delimiter rfl rfl (by decide) (by decide)

theorem withSuffix_of_parted {chars rest : List Char} (hrest : Parted rest) :
    withSuffix (chars, rest) = (chars, rest) := by
  rw [withSuffix, readPlainIdent_of_parted hrest]

theorem starts_literal {c : Char} {spelling text rest : List Char}
    (hspelled : readSpelled (c :: text) = (readText (fun _ => true) (c :: text)).map withSuffix)
    (htext : readText (fun _ => true) (c :: text) = some (spelling, rest))
    (hrest : Parted rest) (hspace : isSpace c = false) (hslash : c ≠ '/') :
    Starts (c :: text) (.literal (String.ofList spelling)) rest := by
  refine starts_of_readToken hspace hslash ?_
  rw [readToken, hspelled, htext, Option.map_some, withSuffix_of_parted hrest]

theorem starts_quote (text : String) {rest : List Char} (hrest : Parted rest) :
    Starts ((Text.quote text).toList ++ rest) (.literal (Text.quote text)) rest := by
  have hread := readText_quoted text.toList rest
  have hshape : quoted text.toList ++ rest = '"' :: (escape text.toList ++ ['"'] ++ rest) := by
    simp [quoted]
  rw [Text.quote, String.toList_ofList]
  rw [hshape] at hread ⊢
  exact starts_literal rfl hread hrest (by decide) (by decide)

theorem starts_raw {text : String} {rest : List Char} (htext : ∀ c ∈ text.toList, c ≠ '"' ∧ c ≠ '\r')
    (hrest : Parted rest) :
    Starts (("r\"" ++ text ++ "\"").toList ++ rest) (.literal ("r\"" ++ text ++ "\"")) rest := by
  have hread := readText_raw text.toList rest htext
  have hspelling : "r\"" ++ text ++ "\"" = String.ofList ('r' :: '"' :: (text.toList ++ ['"'])) := by
    rw [← String.toList_inj]
    simp
  have hshape : ("r\"" ++ text ++ "\"").toList ++ rest =
      'r' :: '"' :: (text.toList ++ '"' :: rest) := by simp
  rw [hshape, hspelling]
  exact starts_literal rfl hread hrest (by decide) (by decide)

theorem readChar_of_ne {c : Char} {rest : List Char} (hc : c ≠ '\\')
    (hrest : ∀ d ∈ rest.head?, d ≠ '\'') : readChar false (c :: rest) = none := by
  unfold readChar
  split
  next heq => exact absurd (List.cons.inj heq).1 hc
  next heq => exact absurd (List.cons.inj heq).1 hc
  next heq => exact absurd (List.cons.inj heq).1 hc
  next heq => exact absurd rfl (hrest '\'' (by rw [(List.cons.inj heq).2]; rfl))
  next => rfl

theorem readApostrophe_ident {name : String} {rest : List Char} (hname : isSpelled name = true)
    (hrest : Parted rest) :
    readApostrophe (name.toList ++ rest) = some ([.mark '\'' true], name.toList ++ rest) := by
  rw [readApostrophe, readIdent_append hname hrest]
  cases rest with
  | nil => rfl
  | cons d rest =>
    obtain ⟨-, -, -, hapostrophe, hhash⟩ := not_word_of_mem_stops d (hrest d rfl)
    split
    next heq => cases heq
    next heq => exact absurd (List.cons.inj (Prod.mk.inj (Option.some.inj heq)).2).1 hapostrophe
    next heq => exact absurd (List.cons.inj (Prod.mk.inj (Option.some.inj heq)).2).1 hhash
    next => rfl

theorem starts_apostrophe {name : String} {rest : List Char} (hname : isSpelled name = true)
    (hrest : Parted rest) :
    Starts ('\'' :: (name.toList ++ rest)) (.mark '\'' true) (name.toList ++ rest) := by
  have hchar : readChar false (name.toList ++ rest) = none := by
    cases hchars : name.toList with
    | nil => exact absurd hchars (toList_ne_nil_of_isSpelled hname)
    | cons c chars =>
      have hstart := isIdentStart_of_isSpelled hname hchars
      have hc : c ≠ '\\' := by
        rintro rfl
        revert hstart
        decide
      refine readChar_of_ne hc fun d hd => ?_
      cases chars with
      | nil => exact (not_word_of_mem_stops d (hrest d hd)).2.2.2.1
      | cons e chars =>
        obtain rfl : e = d := Option.some.inj hd
        have hword := isWordChar_of_isSpelled hname
          (by rw [hchars]; exact List.mem_cons_of_mem _ List.mem_cons_self)
        rcases hword with hword | rfl
        · exact (ne_of_isWordChar hword).2.1
        · decide
  have hspelled : readSpelled ('\'' :: (name.toList ++ rest)) = none := by
    rw [readSpelled, hchar]
    rfl
  refine starts_of_readToken (by decide) (by decide) ?_
  rw [readToken, hspelled]
  exact readApostrophe_ident hname hrest

/-! ## Lists of tokens -/

/-- What a text is read as, in as many steps as it has characters. -/
def Reading (text : List Char) (result : Option (List Token)) : Prop :=
  ∀ fuel, text.length ≤ fuel → readSteps fuel text = result

theorem Reading.step {c : Char} {text rest : List Char} {first : List Token}
    {result : Option (List Token)} (hstep : readStep (c :: text) = some (first, rest))
    (hlength : rest.length ≤ text.length) (h : Reading rest result) :
    Reading (c :: text) (result.map (first ++ ·)) := by
  intro fuel hfuel
  cases fuel with
  | zero => cases hfuel
  | succ fuel =>
    rw [readSteps, hstep]
    show (readSteps fuel rest).map (first ++ ·) = _
    rw [h fuel (Nat.le_trans hlength (Nat.le_of_succ_le_succ hfuel))]

theorem Reading.refused {c : Char} {text : List Char} (hstep : readStep (c :: text) = none) :
    Reading (c :: text) none := by
  intro fuel hfuel
  cases fuel with
  | zero => cases hfuel
  | succ fuel => rw [readSteps, hstep]

theorem Reading.blank {c : Char} {text : List Char} {result : Option (List Token)}
    (hc : c ∈ [' ', '\n']) (h : Reading text result) : Reading (c :: text) result := by
  have hstep : readStep (c :: text) = some ([], text) := by
    simp only [List.mem_cons, List.not_mem_nil, or_false] at hc
    rcases hc with rfl | rfl <;> rfl
  have hread := Reading.step hstep (Nat.le_refl _) h
  simpa using hread

theorem Reading.token {chars rest : List Char} {t : Token} {result : Option (List Token)}
    (hstarts : Starts (chars ++ rest) t rest) (hchars : chars ≠ []) (h : Reading rest result) :
    Reading (chars ++ rest) (result.map (t :: ·)) := by
  cases chars with
  | nil => exact absurd rfl hchars
  | cons c chars =>
    refine Reading.step hstarts.2 ?_ h
    rw [List.append_eq, List.length_append]
    exact Nat.le_add_left _ _

/-- Whether a text is read as some tokens. -/
def Reads (text : List Char) (tokens : List Token) : Prop := Reading text (some tokens)

theorem reads_nil : Reads [] [] := fun fuel _ => by cases fuel <;> rfl

theorem Reads.blank {c : Char} {text : List Char} {tokens : List Token} (hc : c ∈ [' ', '\n'])
    (h : Reads text tokens) : Reads (c :: text) tokens := Reading.blank hc h

theorem Reads.token {chars rest : List Char} {t : Token} {tokens : List Token}
    (hstarts : Starts (chars ++ rest) t rest) (hchars : chars ≠ []) (h : Reads rest tokens) :
    Reads (chars ++ rest) (t :: tokens) := Reading.token hstarts hchars h

/-- Whether tokens are spelled in such a way that they can be read back. -/
inductive Legible : List Token → Prop
  | nil : Legible []
  | ident {name : String} {rest : List Token} (hname : isSpelled name = true)
      (hrest : Legible rest) : Legible (.ident name :: rest)
  | mark {c : Char} {rest : List Token} (hc : c ∈ plainMarks) (hrest : Legible rest) :
      Legible (.mark c false :: rest)
  | joint {c d : Char} {joint : Bool} {rest : List Token} (hc : c ∈ plainMarks)
      (hd : d ∈ plainMarks) (hrest : Legible (.mark d joint :: rest)) :
      Legible (.mark c true :: .mark d joint :: rest)
  | lifetime {name : String} {rest : List Token} (hname : isSpelled name = true)
      (hrest : Legible rest) : Legible (.mark '\'' true :: .ident name :: rest)
  | quote (text : String) {rest : List Token} (hrest : Legible rest) :
      Legible (.literal (Text.quote text) :: rest)
  | raw {text : String} {rest : List Token} (htext : ∀ c ∈ text.toList, c ≠ '"' ∧ c ≠ '\r')
      (hrest : Legible rest) : Legible (.literal ("r\"" ++ text ++ "\"") :: rest)
  | opening (d : Delimiter) {rest : List Token} (hrest : Legible rest) :
      Legible (.opening d :: rest)
  | closing (d : Delimiter) {rest : List Token} (hrest : Legible rest) :
      Legible (.closing d :: rest)

/-- The text behind a token, given the tokens behind it and what follows those. -/
def behind (t : Token) (tokens : List Token) (rest : List Char) : List Char :=
  match tokens with
  | [] => rest
  | u :: _ => (if Token.touches t u then [] else [' ']) ++ (Token.renderChars tokens ++ rest)

theorem renderChars_cons_append (t : Token) (tokens : List Token) (rest : List Char) :
    Token.renderChars (t :: tokens) ++ rest = t.chars ++ behind t tokens rest := by
  cases tokens with
  | nil => rfl
  | cons u tokens => simp [Token.renderChars, behind]

/-- Whether a token is neither a joined mark nor an opening delimiter that the next token touches. -/
def standsApart : Token → Bool
  | .mark _ joint => !joint
  | .opening d => d == .brace
  | _ => true

/-- What touches a token that stands apart does so by itself. -/
theorem touches_of_standsApart {t : Token} (ht : standsApart t = true) (u : Token) :
    Token.touches t u = Token.touches (.ident "") u := by
  rcases u with name | ⟨c, joint⟩ | text | d | (_ | _ | _) <;>
    rcases t with name | ⟨c, _ | _⟩ | text | (_ | _ | _) | d <;>
      first | rfl | cases ht

theorem closing_of_touches {t u : Token} (ht : standsApart t = true)
    (h : Token.touches t u = true) : u = .closing .paren ∨ u = .closing .bracket := by
  rw [touches_of_standsApart ht] at h
  cases u with
  | ident name => cases h
  | mark c joint => cases h
  | literal text => cases h
  | opening d => cases h
  | closing d =>
    cases d with
    | paren => exact .inl rfl
    | bracket => exact .inr rfl
    | brace => cases h

theorem separated_behind {t : Token} {tokens : List Token} {rest : List Char}
    (ht : standsApart t = true) (hrest : Separated rest) : Separated (behind t tokens rest) := by
  cases tokens with
  | nil => exact hrest
  | cons u tokens =>
    by_cases htouches : Token.touches t u = true
    · rw [behind, if_pos htouches, List.nil_append, renderChars_cons_append]
      rcases closing_of_touches ht htouches with rfl | rfl <;>
        exact separated_cons _ (by decide)
    · rw [behind, if_neg htouches]
      exact separated_cons _ (by decide)

theorem reads_behind {t : Token} {tokens more : List Token} {rest : List Char}
    (h : Reads (Token.renderChars tokens ++ rest) more) : Reads (behind t tokens rest) more := by
  cases tokens with
  | nil => exact h
  | cons u tokens =>
    rw [behind]
    by_cases htouches : Token.touches t u = true
    · rw [if_pos htouches]
      exact h
    · rw [if_neg htouches]
      exact Reads.blank (by decide) h

theorem head_quote (text : String) (rest : List Char) :
    ((Text.quote text).toList ++ rest).head? = some '"' := by
  rw [Text.quote, String.toList_ofList]
  rfl

theorem head_raw (text : String) (rest : List Char) :
    (("r\"" ++ text ++ "\"").toList ++ rest).head? = some 'r' := by
  simp

theorem Legible.head {tokens : List Token} (h : Legible tokens) {rest : List Char}
    (hrest : Separated rest) : ∀ c ∈ (Token.renderChars tokens ++ rest).head?,
      c ≠ '/' ∧ c ≠ '\ufeff' := by
  intro c hc
  cases h with
  | nil =>
    have hnone : ∀ d ∈ separators, d ≠ '/' ∧ d ≠ '\ufeff' := by decide
    exact hnone c (hrest c hc)
  | ident hname =>
    rw [renderChars_cons_append, Token.chars] at hc
    obtain ⟨d, chars, hchars⟩ := List.exists_cons_of_ne_nil (toList_ne_nil_of_isSpelled hname)
    rw [hchars] at hc
    obtain rfl : d = c := Option.some.inj hc
    have hstart := isIdentStart_of_isSpelled hname hchars
    constructor <;> rintro rfl <;> revert hstart <;> decide +kernel
  | mark hmark =>
    rw [renderChars_cons_append] at hc
    obtain rfl := Option.some.inj hc
    have hnone : ∀ d ∈ plainMarks, d ≠ '/' ∧ d ≠ '\ufeff' := by decide
    exact hnone _ hmark
  | joint hmark =>
    rw [renderChars_cons_append] at hc
    obtain rfl := Option.some.inj hc
    have hnone : ∀ d ∈ plainMarks, d ≠ '/' ∧ d ≠ '\ufeff' := by decide
    exact hnone _ hmark
  | lifetime =>
    rw [renderChars_cons_append] at hc
    obtain rfl := Option.some.inj hc
    decide
  | quote text =>
    rw [renderChars_cons_append, Token.chars, head_quote] at hc
    obtain rfl := Option.some.inj hc
    decide
  | raw =>
    rw [renderChars_cons_append, Token.chars, head_raw] at hc
    obtain rfl := Option.some.inj hc
    decide
  | opening d =>
    rw [renderChars_cons_append] at hc
    obtain rfl := Option.some.inj hc
    cases d <;> decide
  | closing d =>
    rw [renderChars_cons_append] at hc
    obtain rfl := Option.some.inj hc
    cases d <;> decide

theorem startsMark_of_not_mark {c : Char} {rest : List Char} (hslash : c ≠ '/')
    (hmark : isMark c = false) : startsMark (c :: rest) = false := by
  unfold startsMark
  split
  next heq => exact absurd (List.cons.inj heq).1 hslash
  next heq => exact absurd (List.cons.inj heq).1 hslash
  next heq =>
    obtain ⟨rfl, rfl⟩ := List.cons.inj heq
    exact hmark
  next => rfl

theorem startsMark_of_separated {rest : List Char} (hrest : Separated rest) :
    startsMark rest = false := by
  cases rest with
  | nil => rfl
  | cons c rest =>
    have hall : ∀ d ∈ separators, d ≠ '/' ∧ isMark d = false := by decide
    obtain ⟨hslash, hmark⟩ := hall c (hrest c rfl)
    exact startsMark_of_not_mark hslash hmark

theorem startsMark_cons {c : Char} (hc : c ∈ plainMarks) (rest : List Char) :
    startsMark (c :: rest) = true := by
  have hmarks : ∀ d ∈ plainMarks, d ≠ '/' ∧ isMark d = true := by decide
  obtain ⟨hslash, hmark⟩ := hmarks c hc
  unfold startsMark
  split
  next heq => exact absurd (List.cons.inj heq).1 hslash
  next heq => exact absurd (List.cons.inj heq).1 hslash
  next heq =>
    obtain ⟨rfl, rfl⟩ := List.cons.inj heq
    exact hmark
  next heq => cases heq

/-- **The text of legible tokens is read as the tokens**, whatever follows it that does not go on with
the last one. -/
theorem Legible.reads {tokens more : List Token} {rest : List Char} (h : Legible tokens)
    (hrest : Separated rest) (hmore : Reads rest more) :
    Reads (Token.renderChars tokens ++ rest) (tokens ++ more) := by
  induction h with
  | nil => exact hmore
  | @ident name tokens hname _ ih =>
    rw [renderChars_cons_append]
    exact Reads.token (starts_ident hname (separated_behind rfl hrest).parted)
      (toList_ne_nil_of_isSpelled hname) (reads_behind ih)
  | @mark c tokens hc _ ih =>
    rw [renderChars_cons_append]
    have hstarts := starts_mark hc (behind (.mark c false) tokens rest)
    rw [startsMark_of_separated (separated_behind rfl hrest)] at hstarts
    exact Reads.token hstarts (List.cons_ne_nil _ _) (reads_behind ih)
  | @joint c d joint tokens hc hd _ ih =>
    rw [renderChars_cons_append]
    have hstarts := starts_mark hc (behind (.mark c true) (.mark d joint :: tokens) rest)
    have hbehind : behind (.mark c true) (.mark d joint :: tokens) rest =
        d :: behind (.mark d joint) tokens rest :=
      renderChars_cons_append (.mark d joint) tokens rest
    rw [hbehind, startsMark_cons hd, ← hbehind] at hstarts
    exact Reads.token hstarts (List.cons_ne_nil _ _) (reads_behind ih)
  | @lifetime name tokens hname _ ih =>
    have hrest' : Parted (behind (.ident name) tokens rest) := (separated_behind rfl hrest).parted
    have hname' : Reads (name.toList ++ behind (.ident name) tokens rest)
        (.ident name :: (tokens ++ more)) :=
      Reads.token (starts_ident hname hrest') (toList_ne_nil_of_isSpelled hname) (reads_behind ih)
    rw [renderChars_cons_append]
    have hbehind : behind (.mark '\'' true) (.ident name :: tokens) rest =
        name.toList ++ behind (.ident name) tokens rest :=
      renderChars_cons_append (.ident name) tokens rest
    rw [hbehind]
    exact Reads.token (starts_apostrophe hname hrest') (List.cons_ne_nil _ _) hname'
  | quote text _ ih =>
    rw [renderChars_cons_append]
    refine Reads.token (starts_quote text (separated_behind rfl hrest).parted) ?_ (reads_behind ih)
    rw [Token.chars, Text.quote, String.toList_ofList]
    exact List.cons_ne_nil _ _
  | raw htext _ ih =>
    rw [renderChars_cons_append]
    refine Reads.token (starts_raw htext (separated_behind rfl hrest).parted) ?_ (reads_behind ih)
    simp [Token.chars]
  | @opening d tokens hlegible ih =>
    rw [renderChars_cons_append]
    have hslash : ∀ c ∈ (behind (.opening d) tokens rest).head?, c ≠ '/' := by
      cases tokens with
      | nil => exact fun c hc => (Legible.nil.head hrest c hc).1
      | cons u tokens =>
        rw [behind]
        split
        · exact fun c hc => (hlegible.head hrest c hc).1
        · intro c hc
          obtain rfl : ' ' = c := Option.some.inj hc
          decide
    exact Reads.token (starts_opening d fun _ => hslash) (List.cons_ne_nil _ _) (reads_behind ih)
  | closing d _ ih =>
    rw [renderChars_cons_append]
    exact Reads.token (starts_closing d _) (List.cons_ne_nil _ _) (reads_behind ih)

theorem Legible.append {a b : List Token} (ha : Legible a) (hb : Legible b) : Legible (a ++ b) := by
  induction ha with
  | nil => exact hb
  | ident hname _ ih => exact .ident hname ih
  | mark hc _ ih => exact .mark hc ih
  | joint hc hd _ ih => exact .joint hc hd ih
  | lifetime hname _ ih => exact .lifetime hname ih
  | quote text _ ih => exact .quote text ih
  | raw htext _ ih => exact .raw htext ih
  | opening d _ ih => exact .opening d ih
  | closing d _ ih => exact .closing d ih

/-! ## Delimiters -/

/-- Whether the delimiters of some tokens belong together. -/
def Balanced (tokens : List Token) : Prop :=
  ∀ stack rest, balanced stack (tokens ++ rest) = balanced stack rest

theorem balanced_append {stack : List Delimiter} {tokens : List Token}
    (h : balanced stack tokens = true) (outer : List Delimiter) (rest : List Token) :
    balanced (stack ++ outer) (tokens ++ rest) = balanced outer rest := by
  induction tokens generalizing stack with
  | nil =>
    obtain rfl := List.isEmpty_iff.mp h
    rfl
  | cons t tokens ih =>
    cases t with
    | opening d => exact ih h
    | closing e =>
      cases stack with
      | nil => cases h
      | cons d stack =>
        obtain ⟨hsame, h⟩ := Bool.and_eq_true_iff.mp h
        show (d == e && balanced (stack ++ outer) (tokens ++ rest)) = _
        rw [hsame, Bool.true_and, ih h]
    | ident | mark | literal =>
      cases stack <;> cases outer <;> exact ih h

theorem balanced_iff {tokens : List Token} : Balanced tokens ↔ balanced [] tokens = true := by
  refine ⟨fun h => ?_, fun h stack rest => balanced_append h stack rest⟩
  have hnil := h [] []
  rwa [List.append_nil] at hnil

theorem balanced_nil : Balanced [] := fun _ _ => rfl

theorem Balanced.append {a b : List Token} (ha : Balanced a) (hb : Balanced b) :
    Balanced (a ++ b) := by
  intro stack rest
  rw [List.append_assoc, ha, hb]

theorem Balanced.group {body : List Token} (d : Delimiter) (h : Balanced body) :
    Balanced (Token.group d body) := by
  intro stack rest
  show balanced (d :: stack) ((body ++ [.closing d]) ++ rest) = _
  rw [List.append_assoc, h]
  show (d == d && balanced stack rest) = _
  rw [beq_self_eq_true, Bool.true_and]

theorem balanced_ident (name : String) {rest : List Token} (h : Balanced rest) :
    Balanced (.ident name :: rest) := by
  intro stack more
  cases stack <;> exact h _ more

/-! ## Whole texts -/

theorem withoutByteOrderMark_of_ne {text : List Char} (h : ∀ c ∈ text.head?, c ≠ '\ufeff') :
    withoutByteOrderMark text = text := by
  unfold withoutByteOrderMark
  split
  next rest => exact absurd rfl (h _ rfl)
  next => rfl

theorem Reads.readChars_eq {text : List Char} {tokens : List Token} (h : Reads text tokens)
    (hhead : ∀ c ∈ text.head?, c ≠ '\ufeff') (hbalanced : Balanced tokens) :
    readChars text = some tokens := by
  unfold readChars
  simp only [withoutByteOrderMark_of_ne hhead, h text.length (Nat.le_refl _),
    balanced_iff.mp hbalanced, if_true]

theorem Reading.readChars_eq_none {text : List Char} (h : Reading text none)
    (hhead : ∀ c ∈ text.head?, c ≠ '\ufeff') : readChars text = none := by
  unfold readChars
  simp only [withoutByteOrderMark_of_ne hhead, h text.length (Nat.le_refl _)]

/-- Blocks of tokens with line breaks between them are read one after the other. -/
theorem reads_intercalate {parts : List (List Token)} (h : ∀ part ∈ parts, Legible part) :
    Reads (List.intercalate ['\n'] (parts.map Token.renderChars)) parts.flatten := by
  induction parts with
  | nil => exact reads_nil
  | cons part parts ih =>
    have hpart := h part List.mem_cons_self
    have hparts := ih fun other hother => h other (List.mem_cons_of_mem _ hother)
    cases parts with
    | nil =>
      have hreads := hpart.reads separated_nil reads_nil
      simpa [List.intercalate] using hreads
    | cons second parts =>
      have hrest := Reads.blank (List.mem_cons_of_mem ' ' (List.mem_singleton_self '\n')) hparts
      have hreads := hpart.reads (separated_cons _ (by decide)) hrest
      have hshape : List.intercalate ['\n'] ((part :: second :: parts).map Token.renderChars) =
          Token.renderChars part ++ '\n' ::
            List.intercalate ['\n'] ((second :: parts).map Token.renderChars) := by
        simp [List.intercalate]
      rw [hshape]
      exact hreads

end WireErrors.Source
