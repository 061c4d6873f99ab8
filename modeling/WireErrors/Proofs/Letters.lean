import WireErrors.Proofs.Casing
import WireErrors.Proofs.Source.Inversion

/-!
# Letters of derived names

Words of a name are not empty and consist of letters and numbers, and neither case mapping makes a
sign of source text out of one (`IsLetter`). Upper case leaves the letters of identifiers less often
than lower case does: a constant is spelled like an identifier whenever the variant is
(`isPlainSpelling_shoutySnake`).
-/

namespace WireErrors

namespace Text

/-! ## Words -/

theorem forall_mem_splitWhere {separates : Char → Bool} {P : Char → Prop} {piece text : List Char}
    (hpiece : ∀ c ∈ piece, P c) (htext : ∀ c ∈ text, separates c = false → P c) :
    ∀ part ∈ splitWhere separates piece text, ∀ c ∈ part, P c := by
  induction text generalizing piece with
  | nil =>
    intro part hpart
    rw [List.mem_singleton.mp hpart]
    exact hpiece
  | cons d text ih =>
    have hrest : ∀ c ∈ text, separates c = false → P c := fun c hc =>
      htext c (List.mem_cons_of_mem d hc)
    intro part hpart
    rw [splitWhere] at hpart
    split at hpart
    next =>
      rcases List.mem_cons.mp hpart with rfl | hpart
      · exact hpiece
      · exact ih (by simp) hrest part hpart
    next hd =>
      refine ih ?_ hrest part hpart
      intro c hc
      rcases List.mem_append.mp hc with hc | hc
      · exact hpiece c hc
      · rw [List.mem_singleton.mp hc]
        exact htext d List.mem_cons_self (by simpa using hd)

/-- No word is empty, as a capital that starts a new one leaves another capital behind. -/
theorem ne_nil_of_mem_humps {row : Row} {word text : List Char}
    (hrow : row = .capital → word ≠ []) : ∀ part ∈ humps row word text, part ≠ [] := by
  fun_induction humps row word text with
  | case1 => nofun
  | case2 row word c =>
    intro part hpart
    rw [List.mem_singleton.mp hpart]
    exact List.append_ne_nil_of_right_ne_nil _ (List.cons_ne_nil _ _)
  | case3 row word c d rest hcut ih =>
    intro part hpart
    rcases List.mem_cons.mp hpart with rfl | hpart
    · exact List.append_ne_nil_of_right_ne_nil _ (List.cons_ne_nil _ _)
    · exact ih nofun part hpart
  | case4 row word c d rest _ hcut ih =>
    intro part hpart
    rcases List.mem_cons.mp hpart with rfl | hpart
    · refine hrow ?_
      simp only [Bool.and_eq_true, decide_eq_true_eq] at hcut
      exact hcut.1.1
    · exact ih nofun part hpart
  | case5 row word c d rest _ _ ih =>
    exact ih fun _ => List.append_ne_nil_of_right_ne_nil _ (List.cons_ne_nil _ _)

theorem forall_mem_humps {P : Char → Prop} {row : Row} {word text : List Char}
    (hword : ∀ c ∈ word, P c) (htext : ∀ c ∈ text, P c) :
    ∀ part ∈ humps row word text, ∀ c ∈ part, P c := by
  fun_induction humps row word text with
  | case1 => nofun
  | case2 row word c =>
    intro part hpart
    rw [List.mem_singleton.mp hpart]
    exact List.forall_mem_append.mpr ⟨hword, htext⟩
  | case3 row word c d rest hcut ih =>
    rw [List.forall_mem_cons] at htext
    intro part hpart
    rcases List.mem_cons.mp hpart with rfl | hpart
    · exact List.forall_mem_append.mpr ⟨hword, by simpa using htext.1⟩
    · exact ih (by simp) htext.2 part hpart
  | case4 row word c d rest _ hcut ih =>
    rw [List.forall_mem_cons] at htext
    intro part hpart
    rcases List.mem_cons.mp hpart with rfl | hpart
    · exact hword
    · exact ih (by simpa using htext.1) htext.2 part hpart
  | case5 row word c d rest _ _ ih =>
    rw [List.forall_mem_cons] at htext
    exact ih (List.forall_mem_append.mpr ⟨hword, by simpa using htext.1⟩) htext.2

theorem forall_mem_words {P : Char → Prop} {text : List Char}
    (h : ∀ c ∈ text, isAlphanumeric c = true → P c) : ∀ word ∈ words text, ∀ c ∈ word, P c := by
  intro word hword
  obtain ⟨piece, hpiece, hword⟩ := List.mem_flatMap.mp hword
  refine forall_mem_humps (by simp) ?_ word hword
  exact forall_mem_splitWhere (by simp) (fun c hc halpha => h c hc (by simpa using halpha)) piece hpiece

theorem ne_nil_of_mem_words {text word : List Char} (h : word ∈ words text) : word ≠ [] := by
  obtain ⟨piece, -, hword⟩ := List.mem_flatMap.mp h
  have hstart : Row.start = .capital → ([] : List Char) ≠ [] := nofun
  exact ne_nil_of_mem_humps hstart word hword

theorem isAlphanumeric_of_mem_words {text word : List Char} {c : Char} (h : word ∈ words text)
    (hc : c ∈ word) : isAlphanumeric c = true :=
  forall_mem_words (P := fun c => isAlphanumeric c = true) (fun _ _ halpha => halpha) word h c hc

/-! ## Letters -/

/-- Code points of blank space and of the signs that come with identifiers, apart from those that no
case mapping comes near to. -/
def signs : Ranges :=
  [(0x21, 0x2F), (0x5F, 0x5F), (0x200E, 0x200F), (0xFEFF, 0xFEFF)] ++ Table.whiteSpace

/-- Whether a range of code points lies beside all signs. -/
def BesideSigns (first last : Nat) : Prop :=
  ∀ range ∈ signs, last < range.1 ∨ range.2 < first

instance (first last : Nat) : Decidable (BesideSigns first last) :=
  inferInstanceAs (Decidable (∀ range ∈ signs, last < range.1 ∨ range.2 < first))

/-- Whether a character is no sign. -/
def IsLetter (c : Char) : Prop := BesideSigns c.toNat c.toNat

instance (c : Char) : Decidable (IsLetter c) :=
  inferInstanceAs (Decidable (BesideSigns c.toNat c.toNat))

theorem isLetter_of_isAlphanumeric {c : Char} (h : isAlphanumeric c = true) : IsLetter c := by
  have hnone : ∀ range ∈ signs, ∀ k < range.2 + 1 - range.1,
      Table.alphanumeric.has (range.1 + k) = false := by decide +kernel
  intro range hrange
  refine Decidable.byContradiction fun hbetween => ?_
  have hc := Source.holds_between (P := fun n => Table.alphanumeric.has n = false)
    (hnone range hrange) (n := c.toNat) (by omega) (by omega)
  exact absurd (hc.symm.trans h) nofun

theorem IsLetter.ne {c d : Char} (h : IsLetter c) (hd : ¬IsLetter d) : c ≠ d := by
  rintro rfl
  exact hd h

theorem IsLetter.not_blank {c : Char} (h : IsLetter c) : isBlank c = false := by
  rw [Bool.eq_false_iff]
  intro hblank
  obtain ⟨range, hrange, hlo, hhi⟩ := Source.exists_range_of_has hblank
  have hc := h range (List.mem_append_right _ hrange)
  omega

theorem IsLetter.not_skipped {c : Char} (h : IsLetter c) :
    Source.isSkipStart c = false ∧ c ≠ '\ufeff' := by
  have hleft : c ≠ '\u200e' := h.ne (by decide)
  have hright : c ≠ '\u200f' := h.ne (by decide)
  have hslash : c ≠ '/' := h.ne (by decide)
  refine ⟨?_, h.ne (by decide)⟩
  simp [Source.isSkipStart, Source.isSpace, h.not_blank, hleft, hright, hslash]

theorem isLetter_ofNat {n first last : Nat} (h : BesideSigns first last) (hlo : first ≤ n)
    (hhi : n ≤ last) : IsLetter (Char.ofNat n) := by
  have hpositive : ∀ range ∈ signs, 0 < range.1 := by decide
  intro range hrange
  have hn := toNat_ofNat_le n
  have hrange' := h range hrange
  have hfirst := hpositive range hrange
  omega

theorem isLetter_of_mem_mapCase {runs : List CaseRun} {entries : List (Nat × List Nat)}
    (hruns : ∀ run ∈ runs, BesideSigns run.image (run.image + (run.last - run.first)))
    (hentries : ∀ entry ∈ entries, ∀ n ∈ entry.2, BesideSigns n n) {c d : Char} (hc : IsLetter c)
    (h : d ∈ mapCase runs entries c) : IsLetter d := by
  unfold mapCase at h
  split at h
  next n hn =>
    obtain ⟨run, hrun, hlo, hhi, rfl⟩ := exists_run_of_image? hn
    rw [List.mem_singleton.mp h]
    exact isLetter_ofNat (hruns run hrun) (by omega) (by omega)
  next =>
    split at h
    next image himage =>
      obtain ⟨n, hn, rfl⟩ := List.mem_map.mp h
      exact isLetter_ofNat (hentries _ (mem_of_expansion? himage) n hn) (Nat.le_refl n) (Nat.le_refl n)
    next =>
      rw [List.mem_singleton.mp h]
      exact hc

theorem isLetter_of_mem_upper {c d : Char} (hc : IsLetter c) (h : d ∈ upper c) : IsLetter d :=
  isLetter_of_mem_mapCase (by decide +kernel) (by decide +kernel) hc h

theorem isLetter_of_mem_lower {c d : Char} (hc : IsLetter c) (h : d ∈ lower c) : IsLetter d :=
  isLetter_of_mem_mapCase (by decide +kernel) (by decide +kernel) hc h

/-! ## Letters of the joined forms -/

theorem isLetter_of_mem_lowerTail {text : List Char} (htext : ∀ c ∈ text, IsLetter c) :
    ∀ d ∈ lowerTail text, IsLetter d := by
  fun_induction lowerTail text with
  | case1 => nofun
  | case2 =>
    intro d hd
    rw [List.mem_singleton.mp hd]
    decide
  | case3 c hc => exact fun d hd => isLetter_of_mem_lower (htext c List.mem_cons_self) hd
  | case4 c rest _ ih =>
    intro d hd
    rcases List.mem_append.mp hd with hd | hd
    · exact isLetter_of_mem_lower (htext c List.mem_cons_self) hd
    · exact ih (fun e he => htext e (List.mem_cons_of_mem c he)) d hd

theorem isLetter_of_mem_words {text word : List Char} (h : word ∈ words text) :
    ∀ c ∈ word, IsLetter c :=
  fun _ hc => isLetter_of_isAlphanumeric (isAlphanumeric_of_mem_words h hc)

theorem isLetter_of_mem_upperCamel {text : List Char} {d : Char} (h : d ∈ upperCamel text) :
    IsLetter d := by
  obtain ⟨word, hword, hd⟩ := List.mem_flatMap.mp h
  have hletters := isLetter_of_mem_words hword
  cases word with
  | nil => cases hd
  | cons c tail =>
    rcases List.mem_append.mp hd with hd | hd
    · exact isLetter_of_mem_upper (hletters c List.mem_cons_self) hd
    · exact isLetter_of_mem_lowerTail (fun e he => hletters e (List.mem_cons_of_mem c he)) d hd

/-! ## Letters of identifiers -/

/-- Whether one of the ranges holds all code points between two. -/
def Ranges.hasAll : Ranges → Nat → Nat → Bool
  | [], _, _ => false
  | (lo, hi) :: rest, first, last =>
    Nat.ble lo first && (Nat.ble last hi || Ranges.hasAll rest first last)

theorem has_of_hasAll {ranges : Ranges} {first last n : Nat}
    (h : ranges.hasAll first last = true) (hlo : first ≤ n) (hhi : n ≤ last) :
    ranges.has n = true := by
  induction ranges with
  | nil => cases h
  | cons range ranges ih =>
    obtain ⟨lo, hi⟩ := range
    rw [Ranges.hasAll, Bool.and_eq_true, Bool.or_eq_true] at h
    rw [Ranges.has, Bool.and_eq_true, Bool.or_eq_true]
    refine ⟨Nat.ble_eq_true_of_le (Nat.le_trans (Nat.le_of_ble_eq_true h.1) hlo), ?_⟩
    refine h.2.imp ?_ ih
    exact fun hlast => Nat.ble_eq_true_of_le (Nat.le_trans hhi (Nat.le_of_ble_eq_true hlast))

/-- Whether the lower-case form of a character consists of letters that identifiers go on with. -/
def StaysLower (c : Char) : Prop := ∀ d ∈ lower c, isIdentContinue d = true

instance (c : Char) : Decidable (StaysLower c) :=
  inferInstanceAs (Decidable (∀ d ∈ lower c, isIdentContinue d = true))

theorem isIdentContinue_ofNat {n : Nat} (h : Table.identContinue.has n = true) :
    isIdentContinue (Char.ofNat n) = true := by
  have hvalid : ∀ range ∈ Table.identContinue,
      range.2 < 0xD800 ∨ 0xDFFF < range.1 ∧ range.2 < 0x110000 := by decide +kernel
  obtain ⟨range, hrange, hlo, hhi⟩ := Source.exists_range_of_has h
  have hn : n.isValidChar := by
    have hbounds := hvalid range hrange
    unfold Nat.isValidChar
    omega
  have hnat : (Char.ofNat n).toNat = n := by
    rw [Char.ofNat, dif_pos hn]
    rfl
  rw [isIdentContinue, hnat]
  exact h

theorem isIdentContinue_of_staysLower {c : Char} (hc : StaysLower c) : isIdentContinue c = true := by
  have hruns : ∀ run ∈ Table.lowerRuns, Table.identContinue.hasAll run.first run.last = true ∨
      ∀ k < run.last + 1 - run.first, StaysLower (Char.ofNat (run.first + k)) →
        isIdentContinue (Char.ofNat (run.first + k)) = true := by decide +kernel
  have hentries : ∀ entry ∈ Table.lowerExpansions, Table.identContinue.has entry.1 = true := by
    decide +kernel
  have hlower := hc
  unfold StaysLower lower mapCase at hlower
  split at hlower
  next n hn =>
    obtain ⟨run, hrun, hlo, hhi, rfl⟩ := exists_run_of_image? hn
    rcases hruns run hrun with hall | hgaps
    · exact has_of_hasAll hall hlo hhi
    · exact Source.holds_of_char_between (P := fun c => StaysLower c → isIdentContinue c = true)
        hgaps hlo hhi hc
  next =>
    split at hlower
    next image himage => exact hentries _ (mem_of_expansion? himage)
    next => exact hlower c List.mem_cons_self

/-- **Upper case leaves the letters of identifiers only where lower case does.** -/
theorem isIdentContinue_of_mem_upper {c d : Char} (hc : StaysLower c) (h : d ∈ upper c) :
    isIdentContinue d = true := by
  have hruns : ∀ run ∈ Table.upperRuns,
      Table.identContinue.hasAll run.image (run.image + (run.last - run.first)) = true ∨
        ∀ k < run.last + 1 - run.first, StaysLower (Char.ofNat (run.first + k)) →
          ∀ d ∈ upper (Char.ofNat (run.first + k)), isIdentContinue d = true := by decide +kernel
  have hentries : ∀ entry ∈ Table.upperExpansions, ∀ n ∈ entry.2,
      Table.identContinue.has n = true := by decide +kernel
  have hupper := h
  unfold upper mapCase at hupper
  split at hupper
  next n hn =>
    obtain ⟨run, hrun, hlo, hhi, rfl⟩ := exists_run_of_image? hn
    rcases hruns run hrun with hall | hgaps
    · rw [List.mem_singleton.mp hupper]
      exact isIdentContinue_ofNat (has_of_hasAll hall (by omega) (by omega))
    · exact Source.holds_of_char_between
        (P := fun c => StaysLower c → ∀ d ∈ upper c, isIdentContinue d = true) hgaps hlo hhi hc d h
  next =>
    split at hupper
    next image himage =>
      obtain ⟨n, hn, rfl⟩ := List.mem_map.mp hupper
      exact isIdentContinue_ofNat (hentries _ (mem_of_expansion? himage) n hn)
    next =>
      rw [List.mem_singleton.mp hupper]
      exact isIdentContinue_of_staysLower hc

/-! ## Identifiers -/

theorem mem_lowerTail {c : Char} {text : List Char} (h : c ∈ text) :
    c = 'Σ' ∨ ∀ d ∈ lower c, d ∈ lowerTail text := by
  fun_induction lowerTail text with
  | case1 => cases h
  | case2 => exact .inl (List.mem_singleton.mp h)
  | case3 =>
    rw [List.mem_singleton.mp h]
    exact .inr fun _ hd => hd
  | case4 e rest _ ih =>
    rcases List.mem_cons.mp h with rfl | h
    · exact .inr fun d hd => List.mem_append_left _ hd
    · exact (ih h).imp_right fun hlower d hd => List.mem_append_right _ (hlower d hd)

/-- Behind the first letter of a word, upper case goes on with an identifier if lower case does. -/
theorem isIdentContinue_of_mem_tail {text : List Char}
    (h : ∀ d ∈ lowerTail text, isIdentContinue d = true) :
    ∀ d ∈ text.flatMap upper, isIdentContinue d = true := by
  intro d hd
  obtain ⟨c, hc, hd⟩ := List.mem_flatMap.mp hd
  rcases mem_lowerTail hc with rfl | hlower
  · rw [List.mem_singleton.mp hd]
    decide
  · exact isIdentContinue_of_mem_upper (fun e he => h e (hlower e he)) hd

theorem isIdentContinue_of_mem_word {word : List Char}
    (h : ∀ d ∈ capitalized word, isIdentContinue d = true) :
    ∀ d ∈ word.flatMap upper, isIdentContinue d = true := by
  cases word with
  | nil => nofun
  | cons c tail =>
    rw [capitalized, List.forall_mem_append] at h
    rw [List.flatMap_cons, List.forall_mem_append]
    exact ⟨h.1, isIdentContinue_of_mem_tail h.2⟩

theorem isIdentContinue_of_mem_intercalate {list : List (List Char)}
    (h : ∀ d ∈ list.flatMap capitalized, isIdentContinue d = true) :
    ∀ d ∈ List.intercalate ['_'] (list.map (List.flatMap upper)), isIdentContinue d = true := by
  intro d hd
  rcases mem_intercalate hd with rfl | ⟨part, hpart, hd⟩
  · decide
  · obtain ⟨word, hword, rfl⟩ := List.mem_map.mp hpart
    refine isIdentContinue_of_mem_word (fun e he => h e ?_) d hd
    exact List.mem_flatMap.mpr ⟨word, hword, he⟩

/-- **A constant is spelled like an identifier if the variant is.** -/
theorem isPlainSpelling_shoutySnake {text : List Char}
    (h : Source.isPlainSpelling (upperCamel text) = true) :
    Source.isPlainSpelling (shoutySnake text) = true := by
  have hnonempty : ∀ word ∈ words text, word ≠ [] := fun word hword => ne_nil_of_mem_words hword
  unfold upperCamel at h
  unfold shoutySnake
  cases hwords : words text with
  | nil =>
    rw [hwords] at h
    cases h
  | cons first rest =>
    rw [hwords] at h hnonempty
    obtain ⟨c, tail, rfl⟩ := List.exists_cons_of_ne_nil (hnonempty first List.mem_cons_self)
    obtain ⟨d, image, himage⟩ := List.exists_cons_of_ne_nil (upper_ne_nil c)
    rw [List.flatMap_cons, capitalized, himage, List.cons_append, List.cons_append,
      Source.isPlainSpelling, Bool.and_eq_true, List.all_eq_true, List.forall_mem_append,
      List.forall_mem_append] at h
    obtain ⟨hstart, ⟨hhead, htail⟩, hrest⟩ := h
    have hword : ∀ e ∈ image ++ tail.flatMap upper, isIdentContinue e = true :=
      List.forall_mem_append.mpr ⟨hhead, isIdentContinue_of_mem_tail htail⟩
    rw [List.map_cons, List.flatMap_cons, himage, List.cons_append]
    cases rest with
    | nil =>
      have hsingle : List.intercalate ['_'] [d :: (image ++ tail.flatMap upper)] =
          d :: (image ++ tail.flatMap upper) := by simp [List.intercalate]
      rw [List.map_nil, hsingle, Source.isPlainSpelling, Bool.and_eq_true, List.all_eq_true]
      exact ⟨hstart, hword⟩
    | cons second rest =>
      have hlater := isIdentContinue_of_mem_intercalate hrest
      rw [List.map_cons] at hlater ⊢
      rw [intercalate_cons, List.cons_append, Source.isPlainSpelling, Bool.and_eq_true,
        List.all_eq_true]
      refine ⟨hstart, List.forall_mem_append.mpr ⟨hword, ?_⟩⟩
      exact List.forall_mem_cons.mpr ⟨by decide, hlater⟩

end Text

end WireErrors
