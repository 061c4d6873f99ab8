import WireErrors.Source.Identifier

/-!
# Characters of identifiers

A spelled identifier consists of letters that a name starts or goes on with and, in its raw form, of
a number sign. No other character that source text gives a meaning occurs in it.
-/

namespace WireErrors.Source

open Text

/-- Whether a character can stand in an identifier. -/
def isWordChar (c : Char) : Bool := isIdentStart c || isIdentContinue c

theorem isWordChar_of_isPlainSpelling {chars : List Char} (h : isPlainSpelling chars = true)
    {c : Char} (hc : c ∈ chars) : isWordChar c = true := by
  cases chars with
  | nil => cases hc
  | cons first rest =>
    obtain ⟨hstart, hcontinue⟩ := Bool.and_eq_true_iff.mp h
    rcases List.mem_cons.mp hc with rfl | hmem
    · exact Bool.or_eq_true_iff.mpr (.inl hstart)
    · exact Bool.or_eq_true_iff.mpr (.inr (List.all_eq_true.mp hcontinue c hmem))

/-- A spelled identifier is plain, or it is one with `r#` in front that has a raw form. -/
theorem isSpelled_cases {name : String} (h : isSpelled name = true) :
    isPlainSpelling name.toList = true ∨
      ∃ plain, name.toList = 'r' :: '#' :: plain ∧ isPlainSpelling plain = true ∧
        neverRaw.contains (String.ofList plain) = false := by
  unfold isSpelled at h
  split at h
  next plain hname =>
    obtain ⟨hplain, hraw⟩ := Bool.and_eq_true_iff.mp h
    exact .inr ⟨plain, hname, hplain, by simpa using hraw⟩
  next => exact .inl h

theorem isWordChar_of_isSpelled {name : String} (h : isSpelled name = true) {c : Char}
    (hc : c ∈ name.toList) : isWordChar c = true ∨ c = '#' := by
  rcases isSpelled_cases h with hplain | ⟨plain, hname, hplain, -⟩
  · exact .inl (isWordChar_of_isPlainSpelling hplain hc)
  · rw [hname, List.mem_cons, List.mem_cons] at hc
    rcases hc with rfl | rfl | hmem
    · exact .inl (by decide)
    · exact .inr rfl
    · exact .inl (isWordChar_of_isPlainSpelling hplain hmem)

theorem isIdentStart_of_isSpelled {name : String} {c : Char} {rest : List Char}
    (h : isSpelled name = true) (hname : name.toList = c :: rest) : isIdentStart c = true := by
  rcases isSpelled_cases h with hplain | ⟨plain, hraw, -, -⟩
  · rw [hname] at hplain
    exact (Bool.and_eq_true_iff.mp hplain).1
  · rw [hraw] at hname
    rw [← (List.cons.inj hname).1]
    decide

theorem toList_ne_nil_of_isSpelled {name : String} (h : isSpelled name = true) :
    name.toList ≠ [] := by
  intro hnil
  rw [isSpelled, hnil] at h
  cases h

/-- A text that stands for an identifier and is no keyword. -/
structure IsName (text : String) : Prop where
  spelled : isSpelled text = true
  word : isKeyword text = false

/-! ## Blank space -/

theorem exists_range_of_has {ranges : Ranges} {n : Nat} (h : ranges.has n = true) :
    ∃ range ∈ ranges, range.1 ≤ n ∧ n ≤ range.2 := by
  induction ranges with
  | nil => cases h
  | cons range ranges ih =>
    obtain ⟨lo, hi⟩ := range
    rw [Ranges.has, Bool.and_eq_true, Bool.or_eq_true] at h
    obtain ⟨hlo, hhi | hrest⟩ := h
    · exact ⟨(lo, hi), List.mem_cons_self, Nat.le_of_ble_eq_true hlo, Nat.le_of_ble_eq_true hhi⟩
    · obtain ⟨range, hmem, hrange⟩ := ih hrest
      exact ⟨range, List.mem_cons_of_mem _ hmem, hrange⟩

theorem holds_between {P : Nat → Prop} {first last n : Nat}
    (h : ∀ k < last + 1 - first, P (first + k)) (hlo : first ≤ n) (hhi : n ≤ last) : P n := by
  have hn := h (n - first) (by omega)
  rwa [Nat.add_sub_of_le hlo] at hn

theorem holds_of_char_between {P : Char → Prop} {first last : Nat} {c : Char}
    (h : ∀ k < last + 1 - first, P (Char.ofNat (first + k))) (hlo : first ≤ c.toNat)
    (hhi : c.toNat ≤ last) : P c := by
  have hc := holds_between (P := fun n => P (Char.ofNat n)) h hlo hhi
  rwa [Char.ofNat_toNat] at hc

theorem isBlank_of_isWordChar {c : Char} (h : isWordChar c = true) : isBlank c = false := by
  rw [Bool.eq_false_iff]
  intro hblank
  obtain ⟨range, hmem, hlo, hhi⟩ := exists_range_of_has hblank
  have hnone : ∀ range ∈ Table.whiteSpace, ∀ k < range.2 + 1 - range.1,
      isWordChar (Char.ofNat (range.1 + k)) = false := by decide +kernel
  have hc := holds_of_char_between (P := fun c => isWordChar c = false) (hnone range hmem) hlo hhi
  rw [h] at hc
  cases hc

end WireErrors.Source
