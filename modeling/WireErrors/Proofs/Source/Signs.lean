import WireErrors.Proofs.Source.Lexing

/-!
# Texts of signs

A text that is put together from known texts, names and literals is read sign by sign (`Part.signs`).
What a sign is read as depends on what stands behind it, of which not all is known: an `Outcome` is what
a text may be read as with what is known of its start, its `Edge`.
-/

namespace WireErrors.Source

/-! ## Edges -/

/-- What is known of the start of a text. -/
structure Edge where
  /-- No word or literal goes on with the text. -/
  parted : Bool
  /-- Whether the text starts with a mark, if that is known. -/
  joint : Option Bool
  /-- The text does not start with a comment. -/
  plain : Bool
deriving DecidableEq

namespace Edge

/-- A blank, a delimiter or the end of the text. -/
def apart : Edge := ⟨true, some false, true⟩

/-- A word or literal. -/
def word : Edge := ⟨false, some false, true⟩

/-- Something that is no comment. -/
def token : Edge := ⟨false, none, true⟩

def unknown : Edge := ⟨false, none, false⟩

/-- What is known where a line may end in front of the text. -/
def loose (edge : Edge) : Edge :=
  { edge with joint := if edge.joint = some false then some false else none }

/-- Whether an edge says no more than another one. -/
def isWithin (edge other : Edge) : Bool :=
  (!edge.parted || other.parted) && (edge.joint == none || edge.joint == other.joint) &&
    (!edge.plain || other.plain)

/-- Whether a text starts as an edge says. -/
structure Holds (edge : Edge) (text : List Char) : Prop where
  parted : edge.parted = true → Parted text
  joint : ∀ joint ∈ edge.joint, startsMark text = joint
  plain : edge.plain = true → ∀ c ∈ text.head?, c ≠ '/'

theorem Holds.of_isWithin {edge other : Edge} {text : List Char} (h : other.Holds text)
    (hwithin : edge.isWithin other = true) : edge.Holds text := by
  simp only [isWithin, Bool.and_eq_true, Bool.or_eq_true, Bool.not_eq_true', beq_iff_eq] at hwithin
  obtain ⟨⟨hparted, hjoint⟩, hplain⟩ := hwithin
  refine ⟨fun hedge => h.parted ?_, fun joint hmem => h.joint joint ?_, fun hedge => h.plain ?_⟩
  · rcases hparted with hnone | hother
    · rw [hnone] at hedge
      cases hedge
    · exact hother
  · rcases hjoint with hnone | hother
    · rw [hnone] at hmem
      cases hmem
    · exact hother ▸ hmem
  · rcases hplain with hnone | hother
    · rw [hnone] at hedge
      cases hedge
    · exact hother

theorem apart_cons {c : Char} (hc : c ∈ separators ++ ['(', '[', '{', '}']) (text : List Char) :
    apart.Holds (c :: text) := by
  have hall : ∀ c ∈ separators ++ ['(', '[', '{', '}'], c ∈ stops ∧ isMark c = false ∧ c ≠ '/' := by
    decide
  obtain ⟨hstop, hmark, hslash⟩ := hall c hc
  refine ⟨fun _ d hd => ?_, fun joint hjoint => ?_, fun _ d hd => ?_⟩
  · obtain rfl : c = d := Option.some.inj hd
    exact hstop
  · obtain rfl : false = joint := Option.some.inj hjoint
    exact startsMark_of_not_mark hslash hmark
  · obtain rfl : c = d := Option.some.inj hd
    exact hslash

theorem Holds.loose {edge : Edge} {text : List Char} (h : edge.Holds text) :
    edge.loose.Holds text := by
  refine ⟨h.parted, fun joint hjoint => ?_, h.plain⟩
  rw [Edge.loose] at hjoint
  split at hjoint
  next hfalse => exact h.joint joint (hfalse ▸ hjoint)
  next => cases hjoint

end Edge

/-! ## Signs -/

/-- A part of a text that is read as a token of its own, or a blank. -/
inductive Sign where
  | word (name : String)
  | lifetime (name : String)
  | quote (text : String)
  | mark (c : Char)
  | opening (d : Delimiter)
  | closing (d : Delimiter)
  | blank

/-- What a text may be read as, with what is known of its start. -/
abbrev Outcome := Edge × List Token

/-- Whether a text and a result behind it are read as one of some outcomes says. -/
def Said (outcomes : List Outcome) (text : List Char) (result : Option (List Token)) : Prop :=
  ∃ o ∈ outcomes, o.1.Holds text ∧ Reading text (result.map (o.2 ++ ·))

/-- The outcomes in front of each of some outcomes, if all have some. -/
def spread (extend : Outcome → Option (List Outcome)) : List Outcome → Option (List Outcome)
  | [] => some []
  | o :: rest =>
    match extend o, spread extend rest with
    | some first, some more => some (first ++ more)
    | _, _ => none

theorem of_spread {extend : Outcome → Option (List Outcome)} {outcomes all : List Outcome}
    (h : spread extend outcomes = some all) {o : Outcome} (ho : o ∈ outcomes) :
    ∃ few, extend o = some few ∧ ∀ other ∈ few, other ∈ all := by
  induction outcomes generalizing all with
  | nil => cases ho
  | cons first outcomes ih =>
    rw [spread] at h
    split at h
    next few more hfirst hmore =>
      obtain rfl := Option.some.inj h
      rcases List.mem_cons.mp ho with rfl | ho
      · exact ⟨few, hfirst, fun other hother => List.mem_append_left _ hother⟩
      · obtain ⟨few, hextend, hall⟩ := ih hmore ho
        exact ⟨few, hextend, fun other hother => List.mem_append_right _ (hall other hother)⟩
    next => cases h

theorem Reading.token_append {chars text : List Char} {t : Token} {tokens : List Token}
    {result : Option (List Token)} (hstarts : Starts (chars ++ text) t text) (hchars : chars ≠ [])
    (hread : Reading text (result.map (tokens ++ ·))) :
    Reading (chars ++ text) (result.map ((t :: tokens) ++ ·)) := by
  have htoken := Reading.token hstarts hchars hread
  rwa [Option.map_map] at htoken

namespace Sign

def chars : Sign → List Char
  | word name => name.toList
  | lifetime name => '\'' :: name.toList
  | quote text => (Text.quote text).toList
  | mark c => [c]
  | opening d => [Token.openingChar d]
  | closing d => [Token.closingChar d]
  | blank => [' ']

/-- Whether a sign can be read back. -/
def isLegal : Sign → Bool
  | word name | lifetime name => isSpelled name
  | mark c => plainMarks.contains c
  | _ => true

/-- The outcomes of a sign in front of something with an outcome of its own, if they stay apart. -/
def outcomes (sign : Sign) (rest : Outcome) : Option (List Outcome) :=
  match sign with
  | word name => if rest.1.parted then some [(.word, .ident name :: rest.2)] else none
  | lifetime name =>
    if rest.1.parted then
      some [(⟨false, some true, true⟩, .mark '\'' true :: .ident name :: rest.2)]
    else none
  | quote text => if rest.1.parted then some [(.word, .literal (Text.quote text) :: rest.2)] else none
  | mark c =>
    let edge : Edge := ⟨partingMarks.contains c, some true, true⟩
    match rest.1.joint with
    | some joint => some [(edge, .mark c joint :: rest.2)]
    | none => some [(edge, .mark c false :: rest.2), (edge, .mark c true :: rest.2)]
  | opening d =>
    if rest.1.plain || d != .paren then some [(.apart, .opening d :: rest.2)] else none
  | closing d => some [(.apart, .closing d :: rest.2)]
  | blank => some [(.apart, rest.2)]

theorem holds_word {c : Char} (hslash : c ≠ '/') (hmark : isMark c = false) (text : List Char) :
    Edge.word.Holds (c :: text) := by
  refine ⟨nofun, fun joint hjoint => ?_, fun _ d hd => ?_⟩
  · obtain rfl : false = joint := Option.some.inj hjoint
    exact startsMark_of_not_mark hslash hmark
  · obtain rfl : c = d := Option.some.inj hd
    exact hslash

theorem holds_mark {c : Char} (hc : c ∈ plainMarks) (text : List Char) :
    Edge.Holds ⟨partingMarks.contains c, some true, true⟩ (c :: text) := by
  refine ⟨fun hparted d hd => ?_, fun joint hjoint => ?_, fun _ d hd => ?_⟩
  · obtain rfl : c = d := Option.some.inj hd
    rw [List.contains_iff_mem] at hparted
    exact List.mem_append_right _ hparted
  · obtain rfl : true = joint := Option.some.inj hjoint
    exact startsMark_cons hc text
  · obtain rfl : c = d := Option.some.inj hd
    have hall : ∀ c ∈ plainMarks, c ≠ '/' := by decide
    exact hall c hc

/-- A sign is read as one of its outcomes says, in front of anything that its outcome holds of. -/
theorem said_of_outcomes {sign : Sign} {rest : Outcome} {all : List Outcome}
    (h : sign.outcomes rest = some all) (hlegal : sign.isLegal = true) {text : List Char}
    {result : Option (List Token)} (hedge : rest.1.Holds text)
    (hread : Reading text (result.map (rest.2 ++ ·))) : Said all (sign.chars ++ text) result := by
  obtain ⟨edge, tokens⟩ := rest
  cases sign with
  | word name =>
    rw [outcomes, Option.ite_none_right_eq_some] at h
    obtain ⟨hparted, h⟩ := h
    obtain rfl := Option.some.inj h
    have hne := toList_ne_nil_of_isSpelled hlegal
    obtain ⟨c, chars, hchars⟩ := List.exists_cons_of_ne_nil hne
    obtain ⟨-, hslash, -, -, hmark⟩ := name_start (isIdentStart_of_isSpelled hlegal hchars)
    refine ⟨_, List.mem_singleton_self _, ?_,
      .token_append (starts_ident hlegal (hedge.parted hparted)) hne hread⟩
    rw [Sign.chars, hchars]
    exact holds_word hslash hmark _
  | lifetime name =>
    rw [outcomes, Option.ite_none_right_eq_some] at h
    obtain ⟨hparted, h⟩ := h
    obtain rfl := Option.some.inj h
    have hne := toList_ne_nil_of_isSpelled hlegal
    have hname := Reading.token_append (starts_ident hlegal (hedge.parted hparted)) hne hread
    have hapostrophe : Starts (['\''] ++ (name.toList ++ text)) (.mark '\'' true)
        (name.toList ++ text) := starts_apostrophe hlegal (hedge.parted hparted)
    have hboth := Reading.token_append hapostrophe (List.cons_ne_nil _ _) hname
    refine ⟨_, List.mem_singleton_self _, ⟨nofun, ?_, ?_⟩, hboth⟩
    · rintro joint ⟨⟩
      rfl
    · rintro - d ⟨⟩
      decide
  | quote value =>
    rw [outcomes, Option.ite_none_right_eq_some] at h
    obtain ⟨hparted, h⟩ := h
    obtain rfl := Option.some.inj h
    obtain ⟨chars, hchars⟩ : ∃ chars, (Text.quote value).toList = '"' :: chars := by
      rw [Text.quote, String.toList_ofList]
      exact ⟨_, rfl⟩
    have hne : (Text.quote value).toList ≠ [] := hchars ▸ List.cons_ne_nil _ _
    refine ⟨_, List.mem_singleton_self _, ?_,
      .token_append (starts_quote value (hedge.parted hparted)) hne hread⟩
    rw [Sign.chars, hchars]
    exact holds_word (by decide) (by decide) _
  | mark c =>
    have hc : c ∈ plainMarks := List.contains_iff_mem.mp hlegal
    have hmark : Reading ([c] ++ text)
        (result.map ((.mark c (startsMark text) :: tokens) ++ ·)) :=
      .token_append (starts_mark hc text) (List.cons_ne_nil _ _) hread
    rw [outcomes] at h
    dsimp only at h
    split at h
    next joint hjoint =>
      obtain rfl := Option.some.inj h
      refine ⟨_, List.mem_singleton_self _, holds_mark hc _, ?_⟩
      rwa [hedge.joint joint hjoint] at hmark
    next =>
      obtain rfl := Option.some.inj h
      refine ⟨(_, .mark c (startsMark text) :: tokens), ?_, holds_mark hc _, hmark⟩
      cases startsMark text <;> simp
  | opening d =>
    rw [outcomes, Option.ite_none_right_eq_some, Bool.or_eq_true] at h
    obtain ⟨hplain, h⟩ := h
    obtain rfl := Option.some.inj h
    have hslash : d = .paren → ∀ c ∈ text.head?, c ≠ '/' := by
      rintro rfl
      exact hedge.plain (hplain.resolve_right (by decide))
    have hstarts : Starts ([Token.openingChar d] ++ text) (.opening d) text :=
      starts_opening d hslash
    exact ⟨_, List.mem_singleton_self _, Edge.apart_cons (by cases d <;> decide) _,
      .token_append hstarts (List.cons_ne_nil _ _) hread⟩
  | closing d =>
    obtain rfl := Option.some.inj h
    have hstarts : Starts ([Token.closingChar d] ++ text) (.closing d) text := starts_closing d text
    exact ⟨_, List.mem_singleton_self _, Edge.apart_cons (by cases d <;> decide) _,
      .token_append hstarts (List.cons_ne_nil _ _) hread⟩
  | blank =>
    obtain rfl := Option.some.inj h
    exact ⟨_, List.mem_singleton_self _, Edge.apart_cons (by decide) _,
      Reading.blank (by decide) hread⟩

/-- The outcomes of signs in front of something with an outcome of its own. -/
def allOutcomes : List Sign → Outcome → Option (List Outcome)
  | [], rest => some [rest]
  | sign :: signs, rest => (allOutcomes signs rest).bind (spread sign.outcomes)

theorem said_of_allOutcomes {signs : List Sign} {rest : Outcome} {all : List Outcome}
    (h : allOutcomes signs rest = some all) (hlegal : ∀ sign ∈ signs, sign.isLegal = true)
    {text : List Char} {result : Option (List Token)} (hedge : rest.1.Holds text)
    (hread : Reading text (result.map (rest.2 ++ ·))) :
    Said all (signs.flatMap chars ++ text) result := by
  induction signs generalizing all with
  | nil =>
    obtain rfl := Option.some.inj h
    exact ⟨rest, List.mem_singleton_self _, hedge, hread⟩
  | cons sign signs ih =>
    rw [List.forall_mem_cons] at hlegal
    obtain ⟨behind, hbehind, hspread⟩ := Option.bind_eq_some_iff.mp h
    obtain ⟨o, ho, hedge, hread⟩ := ih hbehind hlegal.2
    obtain ⟨first, hfirst, hall⟩ := of_spread hspread ho
    obtain ⟨other, hother, hsaid⟩ := said_of_outcomes hfirst hlegal.1 hedge hread
    rw [List.flatMap_cons, List.append_assoc]
    exact ⟨other, hall other hother, hsaid⟩

end Sign

/-! ## Parts of texts -/

/-- Whether a character of a known text belongs to a word. -/
def isOfWord (c : Char) : Bool := c.isAlphanum || c == '_'

/-- The word that was met, if there is one, behind an apostrophe or not. -/
def metWord (apostrophe : Bool) (word : List Char) : List Sign :=
  match apostrophe, word with
  | false, [] => []
  | false, word => [.word (String.ofList word)]
  | true, word => [.lifetime (String.ofList word)]

/-- The sign of a character that belongs to no word. -/
def singleSign (c : Char) : Sign :=
  if c = ' ' then .blank
  else if c = '(' then .opening .paren
  else if c = ')' then .closing .paren
  else if c = '[' then .opening .bracket
  else if c = ']' then .closing .bracket
  else if c = '\x7b' then .opening .brace
  else if c = '\x7d' then .closing .brace
  else .mark c

/-- The signs of a known text, behind the start of a word. -/
def scan (apostrophe : Bool) (word : List Char) : List Char → List Sign
  | [] => metWord apostrophe word
  | c :: rest =>
    if isOfWord c then scan apostrophe (word ++ [c]) rest
    else if c = '\'' then metWord apostrophe word ++ scan true [] rest
    else metWord apostrophe word ++ singleSign c :: scan false [] rest

theorem chars_metWord (apostrophe : Bool) (word : List Char) :
    (metWord apostrophe word).flatMap Sign.chars =
      (if apostrophe then ['\''] else []) ++ word := by
  cases apostrophe <;> cases word <;> simp [metWord, Sign.chars]

theorem chars_singleSign (c : Char) : (singleSign c).chars = [c] := by
  unfold singleSign
  repeat' split
  all_goals simp_all [Sign.chars, Token.openingChar, Token.closingChar]

theorem chars_scan (apostrophe : Bool) (word text : List Char) :
    (scan apostrophe word text).flatMap Sign.chars =
      (if apostrophe then ['\''] else []) ++ word ++ text := by
  induction text generalizing apostrophe word with
  | nil => rw [scan, chars_metWord, List.append_nil]
  | cons c text ih =>
    rw [scan]
    split
    · rw [ih]
      simp
    · split
      next hc =>
        rw [List.flatMap_append, chars_metWord, ih, hc]
        simp
      next =>
        rw [List.flatMap_append, List.flatMap_cons, chars_metWord, chars_singleSign, ih]
        simp

/-- A part of a text. -/
inductive Part where
  /-- A text that is known. -/
  | fixed (text : String)
  | word (name : String)
  /-- The literal of a text. -/
  | quote (value : String)

namespace Part

def text : Part → String
  | fixed text => text
  | word name => name
  | quote value => Text.quote value

def signs : Part → List Sign
  | fixed text => scan false [] text.toList
  | word name => [.word name]
  | quote value => [.quote value]

theorem chars_signs (part : Part) : part.signs.flatMap Sign.chars = part.text.toList := by
  cases part with
  | fixed text => exact chars_scan false [] text.toList
  | word name => exact List.append_nil _
  | quote value => exact List.append_nil _

/-- The text of some parts. -/
def joined : List Part → String
  | [] => ""
  | part :: parts => parts.foldl (fun text part => text ++ part.text) part.text

theorem toList_joined (parts : List Part) :
    (joined parts).toList = (parts.flatMap signs).flatMap Sign.chars := by
  have hfold : ∀ (parts : List Part) (text : String),
      (parts.foldl (fun text part => text ++ part.text) text).toList =
        text.toList ++ (parts.flatMap signs).flatMap Sign.chars := by
    intro parts
    induction parts with
    | nil => simp
    | cons part parts ih => simp [ih, chars_signs]
  cases parts with
  | nil => rfl
  | cons part parts =>
    rw [joined, hfold, List.flatMap_cons, List.flatMap_append, chars_signs]

end Part

end WireErrors.Source
