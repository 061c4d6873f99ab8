import WireErrors.Proofs.Source.Words

/-!
# What identifiers were read from

An identifier among the tokens of a text is spelled like one (`isSpelled_of_mem_read`). Around it may
stand what `readStep` passes over, so a text that reads as one identifier need not be that one; it is
if no character in it can start something passed over (`isSpelled_iff_isBare`).
-/

namespace WireErrors.Source

open Text

/-! ## Identifiers -/

/-- Whether some characters are those of an identifier that can be read. -/
def SpelledChars (name : List Char) : Prop := isSpelled (String.ofList name) = true

theorem of_readPlainIdent {text name rest : List Char} (h : readPlainIdent text = some (name, rest)) :
    isPlainSpelling name = true ∧ text = name ++ rest := by
  cases text with
  | nil => cases h
  | cons c text =>
    rw [readPlainIdent] at h
    split at h
    next hstart =>
      obtain ⟨rfl, rfl⟩ := Prod.mk.inj (Option.some.inj h)
      refine ⟨Bool.and_eq_true_iff.mpr ⟨hstart, List.all_takeWhile⟩, ?_⟩
      rw [List.cons_append, List.takeWhile_append_dropWhile]
    next => cases h

theorem spelledChars_plain {name : List Char} (h : isPlainSpelling name = true) :
    SpelledChars name := by
  rw [SpelledChars, isSpelled, String.toList_ofList]
  split
  next plain hraw =>
    have hhash : isIdentContinue '#' = false := by decide
    simp [isPlainSpelling, hhash] at h
  next => exact h

theorem spelledChars_raw {plain : List Char} (h : isPlainSpelling plain = true)
    (hraw : neverRaw.contains (String.ofList plain) = false) :
    SpelledChars ('r' :: '#' :: plain) := by
  rw [SpelledChars, isSpelled, String.toList_ofList]
  exact Bool.and_eq_true_iff.mpr ⟨h, by rw [hraw]; rfl⟩

theorem of_readIdent {text name rest : List Char} (h : readIdent text = some (name, rest)) :
    SpelledChars name ∧ text = name ++ rest := by
  unfold readIdent at h
  split at h
  next text =>
    split at h
    next plain after hplain =>
      obtain ⟨hspelling, rfl⟩ := of_readPlainIdent hplain
      split at h
      next => cases h
      next hraw =>
        obtain ⟨rfl, rfl⟩ := Prod.mk.inj (Option.some.inj h)
        exact ⟨spelledChars_raw hspelling (by simpa using hraw), rfl⟩
    next => cases h
  next =>
    obtain ⟨hspelling, rfl⟩ := of_readPlainIdent h
    exact ⟨spelledChars_plain hspelling, rfl⟩

/-! ## One step -/

/-- Whether a character can start something that leaves no token of its own: blank space, or a
comment. -/
def isSkipStart (c : Char) : Bool := isSpace c || c == '/'

/-- Whether a token that was read as the difference of two texts is spelled as that difference,
provided that it is an identifier. -/
def SpelledBetween (text rest : List Char) (t : Token) : Prop :=
  ∀ name, t = .ident name → isSpelled name = true ∧ text = name.toList ++ rest

theorem spelledBetween_of_readIdentToken {text rest : List Char} {tokens : List Token}
    (h : readIdentToken text = some (tokens, rest)) :
    ∃ t, tokens = [t] ∧ SpelledBetween text rest t := by
  unfold readIdentToken at h
  split at h
  next => cases h
  next =>
    obtain ⟨⟨name, after⟩, hread, hname⟩ := Option.map_eq_some_iff.mp h
    obtain ⟨rfl, rfl⟩ := Prod.mk.inj hname
    obtain ⟨hspelled, htext⟩ := of_readIdent hread
    refine ⟨_, rfl, ?_⟩
    rintro _ ⟨⟩
    exact ⟨hspelled, by rw [String.toList_ofList]; exact htext⟩

theorem readApostrophe_eq {rest after : List Char} {tokens : List Token}
    (h : readApostrophe rest = some (tokens, after)) : tokens = [.mark '\'' true] := by
  unfold readApostrophe at h
  split at h
  · cases h
  · cases h
  · split at h
    · exact (Prod.mk.inj (Option.some.inj h)).1.symm
    · cases h
  · exact (Prod.mk.inj (Option.some.inj h)).1.symm

/-- What is read at the start of something that is not passed over is one token. -/
theorem spelledBetween_of_readToken {c : Char} {text rest : List Char} {tokens : List Token}
    (h : readToken c text = some (tokens, rest)) :
    ∃ t, tokens = [t] ∧ SpelledBetween (c :: text) rest t := by
  unfold readToken at h
  split at h
  next =>
    obtain ⟨rfl, -⟩ := Prod.mk.inj (Option.some.inj h)
    exact ⟨_, rfl, nofun⟩
  next =>
    split at h
    next t hdelimiter =>
      obtain ⟨rfl, -⟩ := Prod.mk.inj (Option.some.inj h)
      refine ⟨t, rfl, ?_⟩
      rintro name rfl
      unfold delimiterToken? at hdelimiter
      repeat' split at hdelimiter
      all_goals cases hdelimiter
    next =>
      split at h
      next => exact ⟨_, readApostrophe_eq h, nofun⟩
      next =>
        split at h
        next =>
          obtain ⟨rfl, -⟩ := Prod.mk.inj (Option.some.inj h)
          exact ⟨_, rfl, nofun⟩
        next => exact spelledBetween_of_readIdentToken h

theorem of_docComment {inner : Bool} {r : List Char × List Char} {tokens : List Token}
    {rest : List Char} (h : docComment inner r = some (tokens, rest)) :
    ∃ text, tokens = docTokens inner text := by
  obtain ⟨text, after⟩ := r
  rw [docComment] at h
  split at h
  · exact ⟨_, (Prod.mk.inj (Option.some.inj h)).1.symm⟩
  · cases h

theorem of_readComment {c : Char} {text rest : List Char} {tokens : List Token}
    (h : readComment c text = some (tokens, rest)) :
    tokens = [] ∨ ∃ inner doc, tokens = docTokens inner doc := by
  unfold readComment at h
  split at h
  · exact .inl (Prod.mk.inj (Option.some.inj h)).1.symm
  · exact .inr ⟨_, of_docComment h⟩
  · exact .inr ⟨_, of_docComment h⟩
  · exact .inl (Prod.mk.inj (Option.some.inj h)).1.symm
  · exact .inl (Prod.mk.inj (Option.some.inj h)).1.symm
  · obtain ⟨r, -, hr⟩ := Option.map_eq_some_iff.mp h
    exact .inl (Prod.mk.inj hr).1.symm
  · obtain ⟨r, -, hr⟩ := Option.bind_eq_some_iff.mp h
    exact .inr ⟨_, of_docComment hr⟩
  · obtain ⟨r, -, hr⟩ := Option.bind_eq_some_iff.mp h
    exact .inr ⟨_, of_docComment hr⟩
  · obtain ⟨r, -, hr⟩ := Option.map_eq_some_iff.mp h
    exact .inl (Prod.mk.inj hr).1.symm

theorem of_readStep {c : Char} {text rest : List Char} {tokens : List Token}
    (h : readStep (c :: text) = some (tokens, rest)) :
    (isSkipStart c = true ∧ (tokens = [] ∨ ∃ inner doc, tokens = docTokens inner doc)) ∨
      ∃ t, tokens = [t] ∧ SpelledBetween (c :: text) rest t := by
  unfold readStep at h
  split at h
  next heq => cases heq
  next heq =>
    obtain ⟨rfl, -⟩ := List.cons.inj heq
    exact .inl ⟨by decide, of_readComment h⟩
  next heq =>
    obtain ⟨rfl, -⟩ := List.cons.inj heq
    exact .inl ⟨by decide, of_readComment h⟩
  next heq =>
    obtain ⟨rfl, rfl⟩ := List.cons.inj heq
    split at h
    next hspace =>
      exact .inl ⟨by simp [isSkipStart, hspace], .inl (Prod.mk.inj (Option.some.inj h)).1.symm⟩
    next => exact .inr (spelledBetween_of_readToken h)

/-! ## Whole texts -/

theorem isSpelled_of_mem_docTokens {inner : Bool} {doc : List Char} {name : String}
    (h : .ident name ∈ docTokens inner doc) : isSpelled name = true := by
  have hdoc : name = "doc" := by
    cases inner <;> simpa [docTokens, Token.group] using h
  rw [hdoc]
  decide

theorem isSpelled_of_mem_readSteps {fuel : Nat} {text : List Char} {tokens : List Token}
    {name : String} (h : readSteps fuel text = some tokens) (hname : .ident name ∈ tokens) :
    isSpelled name = true := by
  induction fuel generalizing text tokens with
  | zero =>
    cases text with
    | nil =>
      cases h
      cases hname
    | cons c text => cases h
  | succ fuel ih =>
    cases text with
    | nil =>
      cases h
      cases hname
    | cons c text =>
      rw [readSteps] at h
      split at h
      next first rest hstep =>
        obtain ⟨later, hlater, rfl⟩ := Option.map_eq_some_iff.mp h
        rcases List.mem_append.mp hname with hfirst | hrest
        · rcases of_readStep hstep with ⟨-, rfl | ⟨inner, doc, rfl⟩⟩ | ⟨t, rfl, hspelled⟩
          · cases hfirst
          · exact isSpelled_of_mem_docTokens hfirst
          · exact (hspelled name (List.mem_singleton.mp hfirst).symm).1
        · exact ih hlater hrest
      next => cases h

theorem eq_nil_of_readSteps {fuel : Nat} {text : List Char}
    (hskip : ∀ c ∈ text, isSkipStart c = false) (h : readSteps fuel text = some []) : text = [] := by
  cases text with
  | nil => rfl
  | cons c text =>
    cases fuel with
    | zero => cases h
    | succ fuel =>
      rw [readSteps] at h
      split at h
      next first rest hstep =>
        obtain ⟨later, -, hnil⟩ := Option.map_eq_some_iff.mp h
        rcases of_readStep hstep with ⟨hstart, -⟩ | ⟨t, rfl, -⟩
        · rw [hskip c List.mem_cons_self] at hstart
          cases hstart
        · cases hnil
      next => cases h

theorem eq_of_readSteps_ident {fuel : Nat} {text : List Char} {name : String}
    (hskip : ∀ c ∈ text, isSkipStart c = false) (h : readSteps fuel text = some [.ident name]) :
    text = name.toList := by
  cases text with
  | nil => cases fuel <;> cases h
  | cons c text =>
    cases fuel with
    | zero => cases h
    | succ fuel =>
      rw [readSteps] at h
      split at h
      next first rest hstep =>
        obtain ⟨later, hlater, hname⟩ := Option.map_eq_some_iff.mp h
        rcases of_readStep hstep with ⟨hstart, -⟩ | ⟨t, rfl, hspelled⟩
        · rw [hskip c List.mem_cons_self] at hstart
          cases hstart
        · obtain ⟨rfl, rfl⟩ := List.cons.inj hname
          obtain ⟨-, htext⟩ := hspelled name rfl
          have hrest : rest = [] := eq_nil_of_readSteps
            (fun d hd => hskip d (htext ▸ List.mem_append_right _ hd)) hlater
          rw [htext, hrest, List.append_nil]
      next => cases h

theorem readSteps_of_read {text : String} {tokens : List Token} (h : read text = some tokens) :
    ∃ fuel, readSteps fuel (withoutByteOrderMark text.toList) = some tokens := by
  unfold read readChars at h
  dsimp only at h
  split at h
  next steps hsteps =>
    split at h
    · cases h
      exact ⟨_, hsteps⟩
    · cases h
  next => cases h

/-- **Identifiers that are read can be spelled.** -/
theorem isSpelled_of_mem_read {text name : String} {tokens : List Token}
    (h : read text = some tokens) (hname : .ident name ∈ tokens) : isSpelled name = true := by
  obtain ⟨fuel, hsteps⟩ := readSteps_of_read h
  exact isSpelled_of_mem_readSteps hsteps hname

/-! ## Bare texts -/

/-- Whether a text holds no blank space, no start of a comment and no byte order mark. -/
def IsBare (text : String) : Prop := ∀ c ∈ text.toList, isSkipStart c = false ∧ c ≠ '\ufeff'

instance (text : String) : Decidable (IsBare text) :=
  inferInstanceAs (Decidable (∀ c ∈ text.toList, isSkipStart c = false ∧ c ≠ '\ufeff'))

theorem eq_of_read_ident {text name : String} (h : read text = some [.ident name])
    (hbare : IsBare text) : name = text := by
  obtain ⟨fuel, hsteps⟩ := readSteps_of_read h
  have hwhole : withoutByteOrderMark text.toList = text.toList := by
    unfold withoutByteOrderMark
    split
    next rest heq => exact absurd rfl (hbare '\ufeff' (heq ▸ List.mem_cons_self)).2
    next => rfl
  rw [hwhole] at hsteps
  have htext := eq_of_readSteps_ident (fun c hc => (hbare c hc).1) hsteps
  exact (String.toList_inj.mp htext).symm

theorem isBare_of_isSpelled {text : String} (h : isSpelled text = true) : IsBare text := by
  intro c hc
  rcases isWordChar_of_isSpelled h hc with hword | rfl
  · have hnone : ∀ d ∈ ['\u200e', '\u200f', '/', '\ufeff'], isWordChar d = false := by
      decide +kernel
    have hother : ∀ d ∈ ['\u200e', '\u200f', '/', '\ufeff'], c ≠ d := by
      rintro d hd rfl
      rw [hnone c hd] at hword
      cases hword
    simp only [List.forall_mem_cons] at hother
    obtain ⟨hleft, hright, hslash, hmark, -⟩ := hother
    simp [isSkipStart, isSpace, isBlank_of_isWordChar hword, hleft, hright, hslash, hmark]
  · decide

theorem exists_of_isIdentifier {text : String} (h : isIdentifier text = true) :
    ∃ name, read text = some [.ident name] ∧ isKeyword name = false := by
  unfold isIdentifier at h
  split at h
  next name hread => exact ⟨name, hread, by simpa using h⟩
  next => cases h

/-- **An accepted text is the identifier that it reads as exactly if it is bare.** -/
theorem isSpelled_iff_isBare {text : String} (h : isIdentifier text = true) :
    isSpelled text = true ↔ IsBare text := by
  refine ⟨isBare_of_isSpelled, fun hbare => ?_⟩
  obtain ⟨name, hread, -⟩ := exists_of_isIdentifier h
  rw [← eq_of_read_ident hread hbare]
  exact isSpelled_of_mem_read hread (List.mem_singleton.mpr rfl)

end WireErrors.Source
