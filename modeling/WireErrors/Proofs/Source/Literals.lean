import WireErrors.Source.Literal

/-!
# String literals read back

A text that is quoted is read back as it was, whatever characters it holds (`readString_escape`), and
the spelling of its literal ends where it should (`readText_quoted`). Both go character by character:
an escape takes exactly the characters that were written for it, so that what follows does not
matter.
-/

namespace WireErrors.Source

open Text

/-! ## Digits of code points -/

theorem hexDigit?_digitChar {d : Nat} (h : d < 16) : hexDigit? (Nat.digitChar d) = some d := by
  revert d
  decide

theorem digitChar_ne {d : Nat} (h : d < 16) :
    Nat.digitChar d ≠ '}' ∧ Nat.digitChar d ≠ '_' ∧ Nat.digitChar d ≠ '\\' ∧ Nat.digitChar d ≠ '"' := by
  revert d
  decide

theorem exists_digitChar_of_mem_toDigits {n : Nat} {c : Char} (h : c ∈ Nat.toDigits 16 n) :
    ∃ d < 16, c = Nat.digitChar d := by
  induction n using Nat.strongRecOn with
  | ind n ih =>
    by_cases hn : n < 16
    · rw [Nat.toDigits_of_lt_base hn, List.mem_singleton] at h
      exact ⟨n, hn, h⟩
    · rw [Nat.toDigits_of_base_le (by decide) (by omega), List.mem_append, List.mem_singleton] at h
      rcases h with h | h
      · exact ih (n / 16) (by omega) h
      · exact ⟨n % 16, by omega, h⟩

theorem length_toDigits_scalar (c : Char) : (Nat.toDigits 16 c.toNat).length ≤ 6 := by
  rw [Nat.length_toDigits_le_iff (by decide) (by decide)]
  have h : c.toNat < 1114112 := by
    have := c.valid
    rcases this with h | ⟨-, h⟩
    · exact Nat.lt_trans h (by decide)
    · exact h
  exact Nat.lt_trans h (by decide)

theorem readString_digit {value digits d : Nat} (rest : List Char) (hd : d < 16) (hdigits : digits < 6) :
    readString (.scalar value digits) (Nat.digitChar d :: rest) =
      readString (.scalar (16 * value + d) (digits + 1)) rest := by
  obtain ⟨hbrace, hscore, -⟩ := digitChar_ne hd
  rw [readString, if_neg (by simp [hbrace]), if_neg (by simp [hscore]), hexDigit?_digitChar hd]
  exact if_pos hdigits

theorem readString_digits (n : Nat) : ∀ (value digits : Nat) (rest : List Char),
    digits + (Nat.toDigits 16 n).length ≤ 6 →
    readString (.scalar value digits) (Nat.toDigits 16 n ++ rest) =
      readString (.scalar (Nat.pow 16 (Nat.toDigits 16 n).length * value + n)
        (digits + (Nat.toDigits 16 n).length)) rest := by
  induction n using Nat.strongRecOn with
  | ind n ih =>
    intro value digits rest hlength
    by_cases hn : n < 16
    · have hdigits : Nat.toDigits 16 n = [Nat.digitChar n] := Nat.toDigits_of_lt_base hn
      rw [hdigits] at hlength ⊢
      exact readString_digit rest hn hlength
    · have hdigits : Nat.toDigits 16 n = Nat.toDigits 16 (n / 16) ++ [Nat.digitChar (n % 16)] :=
        Nat.toDigits_of_base_le (by decide) (by omega)
      rw [hdigits, List.length_append, List.length_singleton] at hlength ⊢
      rw [List.append_assoc, ih (n / 16) (by omega) value digits _ (by omega)]
      rw [List.singleton_append, readString_digit rest (by omega) (by omega)]
      have hvalue : 16 * (Nat.pow 16 (Nat.toDigits 16 (n / 16)).length * value + n / 16) + n % 16 =
          Nat.pow 16 ((Nat.toDigits 16 (n / 16)).length + 1) * value + n := by
        show _ = Nat.pow 16 (Nat.toDigits 16 (n / 16)).length * 16 * value + n
        rw [Nat.mul_add, Nat.add_assoc, Nat.div_add_mod, ← Nat.mul_assoc,
          Nat.mul_comm 16 (Nat.pow 16 _)]
      rw [hvalue, Nat.add_assoc]

theorem readString_scalar_end {value digits : Nat} (rest : List Char) (h : 0 < digits) :
    readString (.scalar value digits) ('}' :: rest) =
      (scalar? value).bind fun c => (readString (.plain false) rest).map (withChar c) :=
  if_pos (by simp [h])

theorem readString_scalarEscape (c : Char) (rest : List Char) :
    readString (.plain false) (scalarEscape c ++ rest) =
      (readString (.plain false) rest).map (withChar c) := by
  have hpos : 0 < (Nat.toDigits 16 c.toNat).length := Nat.length_toDigits_pos
  have hscalar : scalar? c.toNat = some c := by
    have hvalid : c.toNat.isValidChar := c.valid
    rw [scalar?, if_pos hvalid, Char.ofNat_toNat]
  have hshape : scalarEscape c ++ rest =
      '\\' :: 'u' :: '{' :: (Nat.toDigits 16 c.toNat ++ ('}' :: rest)) := by
    simp [scalarEscape]
  rw [hshape]
  show readString (.scalar 0 0) (Nat.toDigits 16 c.toNat ++ ('}' :: rest)) = _
  rw [readString_digits _ 0 0 _ (by have := length_toDigits_scalar c; omega),
    readString_scalar_end rest (by omega)]
  simp only [Nat.mul_zero, Nat.zero_add, hscalar, Option.bind_some]

/-! ## Single characters -/

theorem readString_plain {c : Char} (rest : List Char) (hquote : c ≠ '"') (hslash : c ≠ '\\')
    (hreturn : c ≠ '\r') :
    readString (.plain false) (c :: rest) = (readString (.plain false) rest).map (withChar c) := by
  rw [readString.eq_15 false c rest hquote] <;> try (intros; exact absurd ‹c = _› (by assumption))
  rw [if_neg (by simp [hslash, hreturn])]
  rfl

theorem readString_nul (rest : List Char) :
    readString (.plain false) ('\\' :: 'x' :: '0' :: '0' :: rest) =
      (readString (.plain false) rest).map (withChar '\x00') :=
  rfl

theorem readString_escapeChar (c : Char) (rest : List Char) :
    readString (.plain false) (escapeChar c ++ rest) =
      (readString (.plain false) rest).map (withChar c) := by
  unfold escapeChar
  by_cases hnul : c = '\x00'
  · rw [if_pos hnul, hnul]
    rfl
  rw [if_neg hnul]
  by_cases htab : c = '\t'
  · rw [if_pos htab, htab]
    rfl
  rw [if_neg htab]
  by_cases hreturn : c = '\r'
  · rw [if_pos hreturn, hreturn]
    rfl
  rw [if_neg hreturn]
  by_cases hfeed : c = '\n'
  · rw [if_pos hfeed, hfeed]
    rfl
  rw [if_neg hfeed]
  by_cases hslash : c = '\\'
  · rw [if_pos hslash, hslash]
    rfl
  rw [if_neg hslash]
  by_cases hquote : c = '"'
  · rw [if_pos hquote, hquote]
    rfl
  rw [if_neg hquote]
  split
  · exact readString_scalarEscape c rest
  · exact readString_plain rest hquote hslash hreturn

/-! ## Values of quoted texts -/

/-- The inside of a literal is read up to the quote behind it. -/
theorem readString_escape (text rest : List Char) :
    readString (.plain false) (escape text ++ '"' :: rest) = some (text, rest) := by
  induction text with
  | nil => rfl
  | cons c text ih =>
    rw [escape, List.append_assoc]
    by_cases hnul : (c = '\x00' && startsOctal text) = true
    · rw [if_pos hnul]
      have hc : c = '\x00' := by simpa using (Bool.and_eq_true_iff.mp hnul).1
      show readString (.plain false) ('\\' :: 'x' :: '0' :: '0' :: (escape text ++ '"' :: rest)) = _
      rw [readString_nul, ih, hc]
      rfl
    · rw [if_neg hnul, readString_escapeChar, ih]
      rfl

theorem readLiteral_quoted (text rest : List Char) :
    readLiteral (quoted text ++ rest) = some (text, rest) := by
  have hshape : quoted text ++ rest = '"' :: (escape text ++ '"' :: rest) := by simp [quoted]
  rw [hshape]
  exact readString_escape text rest

/-- **A quoted text has itself as its value.** -/
@[simp] theorem literalValue?_quote (text : String) : literalValue? (quote text) = some text := by
  have h := readLiteral_quoted text.toList []
  rw [List.append_nil] at h
  rw [literalValue?, quote, String.toList_ofList, h]
  exact congrArg some (String.ofList_toList)

/-! ## Spellings of quoted texts -/

theorem throughQuote_plain {c : Char} (rest : List Char) (hquote : c ≠ '"') (hslash : c ≠ '\\') :
    throughQuote (c :: rest) = withChar c (throughQuote rest) :=
  throughQuote.eq_4 c rest hquote fun _ _ h => absurd h hslash

theorem throughQuote_slash (c : Char) (rest : List Char) :
    throughQuote ('\\' :: c :: rest) = withChars ['\\', c] (throughQuote rest) :=
  rfl

theorem withChars_append (front more : List Char) (r : List Char × List Char) :
    withChars front (withChars more r) = withChars (front ++ more) r := by
  simp [withChars]

theorem throughQuote_plains (front rest : List Char) (h : ∀ c ∈ front, c ≠ '"' ∧ c ≠ '\\') :
    throughQuote (front ++ rest) = withChars front (throughQuote rest) := by
  induction front with
  | nil => rfl
  | cons c front ih =>
    obtain ⟨hquote, hslash⟩ := h c List.mem_cons_self
    rw [List.cons_append, throughQuote_plain _ hquote hslash,
      ih fun d hd => h d (List.mem_cons_of_mem _ hd)]
    rfl

theorem throughQuote_scalarEscape (c : Char) (rest : List Char) :
    throughQuote (scalarEscape c ++ rest) = withChars (scalarEscape c) (throughQuote rest) := by
  have hshape : scalarEscape c = '\\' :: 'u' :: (['{'] ++ Nat.toDigits 16 c.toNat ++ ['}']) := rfl
  have hplain : ∀ d ∈ ['{'] ++ Nat.toDigits 16 c.toNat ++ ['}'], d ≠ '"' ∧ d ≠ '\\' := by
    intro d hd
    simp only [List.mem_append, List.mem_singleton] at hd
    rcases hd with (rfl | hd) | rfl
    · decide
    · obtain ⟨k, hk, rfl⟩ := exists_digitChar_of_mem_toDigits hd
      exact ⟨(digitChar_ne hk).2.2.2, (digitChar_ne hk).2.2.1⟩
    · decide
  rw [hshape]
  show throughQuote ('\\' :: 'u' :: ((['{'] ++ Nat.toDigits 16 c.toNat ++ ['}']) ++ rest)) = _
  rw [throughQuote_slash, throughQuote_plains _ _ hplain, withChars_append]
  rfl

theorem throughQuote_escapeChar (c : Char) (rest : List Char) :
    throughQuote (escapeChar c ++ rest) = withChars (escapeChar c) (throughQuote rest) := by
  have hshort : ∀ d : Char, throughQuote (['\\', d] ++ rest) =
      withChars ['\\', d] (throughQuote rest) := fun d => throughQuote_slash d rest
  unfold escapeChar
  repeat' split
  all_goals first | exact hshort _ | exact throughQuote_scalarEscape c rest | skip
  next hslash hquote _ => exact throughQuote_plain rest hquote hslash

theorem throughQuote_escape (text rest : List Char) :
    throughQuote (escape text ++ '"' :: rest) = (escape text ++ ['"'], rest) := by
  induction text with
  | nil => rfl
  | cons c text ih =>
    rw [escape, List.append_assoc]
    by_cases hnul : (c = '\x00' && startsOctal text) = true
    · rw [if_pos hnul]
      show throughQuote ('\\' :: 'x' :: ('0' :: '0' :: (escape text ++ '"' :: rest))) = _
      rw [throughQuote_slash, throughQuote_plain _ (by decide) (by decide),
        throughQuote_plain _ (by decide) (by decide), ih]
      rfl
    · rw [if_neg hnul, throughQuote_escapeChar, ih, withChars, List.append_assoc]

/-- **The spelling of a quoted text is read as a whole.** -/
theorem readText_quoted (text rest : List Char) :
    readText (fun _ => true) (quoted text ++ rest) = some (quoted text, rest) := by
  have hshape : quoted text ++ rest = '"' :: (escape text ++ '"' :: rest) := by simp [quoted]
  have hvalue := readLiteral_quoted text rest
  rw [hshape] at hvalue ⊢
  unfold readText
  rw [hvalue]
  show some (withChar '"' (throughQuote (escape text ++ '"' :: rest))) = _
  rw [throughQuote_escape]
  rfl

/-! ## Raw texts -/

theorem readRaw_plain (text rest : List Char) (h : ∀ c ∈ text, c ≠ '"' ∧ c ≠ '\r') :
    readRaw 0 (text ++ '"' :: rest) = some (text, rest) := by
  induction text with
  | nil =>
    rw [List.nil_append, readRaw, if_neg (by decide)]
    · rfl
    · intro _ h
      cases h
  | cons c text ih =>
    obtain ⟨hquote, hreturn⟩ := h c List.mem_cons_self
    rw [List.cons_append, readRaw, if_neg hreturn, if_neg (by simp [hquote]),
      ih fun d hd => h d (List.mem_cons_of_mem _ hd)]
    · rfl
    · intro _ h
      exact absurd h hreturn

theorem readLiteral_raw (text rest : List Char) (h : ∀ c ∈ text, c ≠ '"' ∧ c ≠ '\r') :
    readLiteral ('r' :: '"' :: (text ++ '"' :: rest)) = some (text, rest) := by
  show (if maximalHashes < 0 then none else readRaw 0 (text ++ '"' :: rest)) = _
  rw [if_neg (by decide), readRaw_plain text rest h]

theorem readText_raw (text rest : List Char) (h : ∀ c ∈ text, c ≠ '"' ∧ c ≠ '\r') :
    readText (fun _ => true) ('r' :: '"' :: (text ++ '"' :: rest)) =
      some ('r' :: '"' :: (text ++ ['"']), rest) := by
  unfold readText
  rw [readLiteral_raw text rest h]
  rfl

end WireErrors.Source
