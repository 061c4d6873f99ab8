import WireErrors.Text.Normalization
import WireErrors.Proofs.Casing
import Mathlib.Data.List.Perm.Basic

/-!
# Normal forms of plain texts

Texts of characters below U+00C0 are their own normal forms (`normalForm_of_lt`). A text whose normal
form has only characters that no other ones are decomposed to is that form (`eq_of_normalForm`), so
that no other text is taken for a word of small letters.
-/

namespace WireErrors.Text

/-- An ASCII character that no other character is decomposed to. -/
def IsOwn (c : Char) : Prop := c.toNat < 0x80 ∧ c ≠ ';' ∧ c ≠ 'K' ∧ c.toNat ≠ 0x60

instance (c : Char) : Decidable (IsOwn c) := inferInstanceAs (Decidable (_ ∧ _))

variable {c d : Char} {text : List Char}

/-! ## Decomposition -/

theorem decompose_of_lt (h : c.toNat < 0xC0) : decompose c = [c] := by
  have htables : ∀ table ∈ decompositionTables, ∀ entry ∈ table, 0xC0 ≤ entry.1 := by decide +kernel
  have hsyllable : syllableLetters? c = none := if_neg (by omega)
  have hentry : decompositionTables.findSome? (expansion? · c.toNat) = none := by
    refine List.findSome?_eq_none_iff.mpr fun table htable => ?_
    cases himage : expansion? table c.toNat with
    | none => rfl
    | some image => exact absurd (htables table htable _ (mem_of_expansion? himage)) (by omega)
  rw [decompose, hsyllable, hentry]

theorem decompose_eq_of_own (h : ∀ d ∈ decompose c, IsOwn d) : decompose c = [c] := by
  have htables : ∀ table ∈ decompositionTables, ∀ entry ∈ table,
      ∃ n ∈ entry.2, ¬IsOwn (Char.ofNat n) := by decide +kernel
  unfold decompose at h ⊢
  cases hsyllable : syllableLetters? c with
  | some letters =>
    rw [hsyllable] at h
    unfold syllableLetters? at hsyllable
    split at hsyllable
    next hrange =>
      obtain rfl := Option.some.inj hsyllable
      have hfirst : IsOwn (Char.ofNat (0x1100 + (c.toNat - 0xAC00) / 588)) := by
        refine h _ ?_
        dsimp only
        split <;> exact List.mem_cons_self
      have hvalid : (0x1100 + (c.toNat - 0xAC00) / 588).isValidChar := by
        unfold Nat.isValidChar
        omega
      have hsmall := hfirst.1
      rw [Char.ofNat, dif_pos hvalid] at hsmall
      have hlarge : 0x1100 + (c.toNat - 0xAC00) / 588 < 0x80 := hsmall
      omega
    next => cases hsyllable
  | none =>
    rw [hsyllable] at h
    dsimp only at h ⊢
    cases hentry : decompositionTables.findSome? (expansion? · c.toNat) with
    | none => rfl
    | some image =>
      rw [hentry] at h
      obtain ⟨table, htable, himage⟩ := List.exists_of_findSome?_eq_some hentry
      obtain ⟨n, hn, hother⟩ := htables table htable _ (mem_of_expansion? himage)
      exact absurd (h _ (List.mem_map_of_mem hn)) hother

theorem flatMap_decompose (h : ∀ c ∈ text, decompose c = [c]) : text.flatMap decompose = text := by
  rw [List.flatMap_congr h, List.flatMap_singleton']

/-! ## Order of marks -/

theorem combiningClass_of_lt (h : c.toNat < 0x300) : combiningClass c = 0 := if_pos h

theorem place_perm (c : Char) (text : List Char) : (place c text).Perm (c :: text) := by
  induction text with
  | nil => exact .refl _
  | cons first rest ih =>
    rw [place]
    split
    · exact (ih.cons first).trans (.swap c first rest)
    · exact .refl _

theorem reorder_perm (text : List Char) : (reorder text).Perm text := by
  induction text with
  | nil => exact .refl _
  | cons c rest ih => exact (place_perm c _).trans (ih.cons c)

theorem reorder_of_lt (h : ∀ c ∈ text, c.toNat < 0x300) : reorder text = text := by
  induction text with
  | nil => rfl
  | cons c rest ih =>
    rw [List.forall_mem_cons] at h
    rw [reorder, ih h.2]
    cases rest with
    | nil => rfl
    | cons first rest =>
      have hclass := combiningClass_of_lt (h.2 first List.mem_cons_self)
      rw [place, if_neg fun hmark => hmark.1 hclass]

/-! ## Composition -/

theorem composite?_of_lt (c : Char) (h : d.toNat < 0x300) : composite? c d = none := by
  have htable : ∀ entry ∈ Table.compositions, 0x300 ≤ entry.1 := by decide +kernel
  have hsyllable : syllable? c d = none := by
    rw [syllable?, if_neg (by omega), if_neg (by omega)]
  have hlookup : Table.compositions.lookup d.toNat = none := by
    refine List.lookup_eq_none_iff.mpr fun entry hentry => ?_
    have hkey := htable entry hentry
    rw [bne_iff_ne]
    omega
  rw [composite?, hsyllable, hlookup]

theorem le_of_composite? {composite : Char} (h : composite? c d = some composite) :
    0xC0 ≤ composite.toNat := by
  have htable : ∀ entry ∈ Table.compositions, ∀ pair ∈ entry.2,
      0xC0 ≤ (Char.ofNat pair.2).toNat := by decide +kernel
  have hsyllable : ∀ n, 0xAC00 ≤ n → n < 0xD7A4 → 0xC0 ≤ (Char.ofNat n).toNat := by
    intro n hfirst hlast
    rw [Char.ofNat, dif_pos (by unfold Nat.isValidChar; omega)]
    exact Nat.le_trans (by decide) hfirst
  unfold composite? at h
  cases hfound : syllable? c d with
  | some found =>
    rw [hfound] at h
    obtain rfl := Option.some.inj h
    unfold syllable? at hfound
    dsimp only at hfound
    split at hfound
    · obtain rfl := Option.some.inj hfound
      exact hsyllable _ (by omega) (by omega)
    · split at hfound
      · obtain rfl := Option.some.inj hfound
        exact hsyllable _ (by omega) (by omega)
      · cases hfound
  | none =>
    rw [hfound] at h
    dsimp only at h
    split at h
    next pairs hpairs =>
      obtain ⟨n, hn, rfl⟩ := Option.map_eq_some_iff.mp h
      obtain ⟨before, after, hentries, -⟩ := List.lookup_eq_some_iff.mp hpairs
      obtain ⟨first, last, hlist, -⟩ := List.lookup_eq_some_iff.mp hn
      refine htable (d.toNat, pairs) (by rw [hentries]; simp) (c.toNat, n) ?_
      rw [hlist]
      simp
    next => cases h

theorem exists_mem_composeWith {start : Char} (hstart : 0xC0 ≤ start.toNat) (marks : List Char) :
    ∃ c ∈ composeWith start marks text, 0xC0 ≤ c.toNat := by
  induction text generalizing start marks with
  | nil => exact ⟨start, List.mem_cons_self, hstart⟩
  | cons d rest ih =>
    rw [composeWith]
    split
    next composite hcomposite =>
      split at hcomposite
      · cases hcomposite
      · exact ih (le_of_composite? hcomposite) marks
    next =>
      split
      · exact ⟨start, List.mem_append_left _ List.mem_cons_self, hstart⟩
      · exact ih hstart _

theorem composeWith_eq {start : Char} {marks : List Char}
    (h : ∀ c ∈ composeWith start marks text, c.toNat < 0xC0) :
    composeWith start marks text = start :: marks ++ text := by
  induction text generalizing start marks with
  | nil => rw [composeWith, List.append_nil]
  | cons d rest ih =>
    rw [composeWith] at h ⊢
    split at h
    next composite hcomposite =>
      split at hcomposite
      · cases hcomposite
      · obtain ⟨c, hc, hlarge⟩ := exists_mem_composeWith (le_of_composite? hcomposite) marks
        exact absurd (h c hc) (by omega)
    next hnone =>
      split at h
      next hclass =>
        rw [if_pos hclass, ih fun c hc => h c (List.mem_append_right _ hc)]
        rfl
      next hclass =>
        rw [if_neg hclass, ih h]
        simp

theorem compose_eq (h : ∀ c ∈ compose text, c.toNat < 0xC0) : compose text = text := by
  induction text with
  | nil => rfl
  | cons c rest ih =>
    rw [compose] at h ⊢
    split at h
    next hclass => rw [if_pos hclass, composeWith_eq h, List.cons_append, List.nil_append]
    next hclass => rw [if_neg hclass, ih (List.forall_mem_cons.mp h).2]

theorem composeWith_of_lt {start : Char} (h : ∀ c ∈ text, c.toNat < 0x300) :
    composeWith start [] text = start :: text := by
  induction text generalizing start with
  | nil => rfl
  | cons d rest ih =>
    rw [List.forall_mem_cons] at h
    rw [composeWith, List.any_nil, if_neg Bool.false_ne_true, composite?_of_lt start h.1]
    dsimp only
    rw [if_pos (combiningClass_of_lt h.1), ih h.2]
    rfl

theorem compose_of_lt (h : ∀ c ∈ text, c.toNat < 0x300) : compose text = text := by
  cases text with
  | nil => rfl
  | cons c rest =>
    rw [List.forall_mem_cons] at h
    rw [compose, if_pos (combiningClass_of_lt h.1), composeWith_of_lt h.2]

/-! ## Normal forms -/

theorem normalForm_of_lt {text : String} (h : ∀ c ∈ text.toList, c.toNat < 0xC0) :
    normalForm text = text := by
  have hmarks : ∀ c ∈ text.toList, c.toNat < 0x300 := fun c hc => by
    have hlow := h c hc
    omega
  rw [normalForm, flatMap_decompose fun c hc => decompose_of_lt (h c hc), reorder_of_lt hmarks,
    compose_of_lt hmarks, String.ofList_toList]

/-- **Some texts are the normal form of themselves alone**: nothing can have been composed to it, so
nothing was decomposed, either. -/
theorem eq_of_normalForm {text : String} (h : ∀ c ∈ (normalForm text).toList, IsOwn c) :
    normalForm text = text := by
  rw [normalForm, String.toList_ofList] at h
  have hcomposed : compose (reorder (text.toList.flatMap decompose)) =
      reorder (text.toList.flatMap decompose) := by
    refine compose_eq fun c hc => ?_
    have hsmall := (h c hc).1
    omega
  have hown : ∀ c ∈ text.toList.flatMap decompose, IsOwn c := fun c hc =>
    h c (by rw [hcomposed]; exact (reorder_perm _).mem_iff.mpr hc)
  have hletters : text.toList.flatMap decompose = text.toList :=
    flatMap_decompose fun c hc => decompose_eq_of_own fun d hd =>
      hown d (List.mem_flatMap.mpr ⟨c, hc, hd⟩)
  have hmarks : ∀ c ∈ text.toList, c.toNat < 0x300 := fun c hc => by
    have hsmall := (hown c (by rw [hletters]; exact hc)).1
    omega
  rw [normalForm, hcomposed, hletters, reorder_of_lt hmarks, String.ofList_toList]

end WireErrors.Text
