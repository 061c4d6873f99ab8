import WireErrors.Proofs.Naming
import WireErrors.Proofs.Source.Words
import WireErrors.Proofs.Splitting

/-!
# Constants are no keywords

Upper-case forms have no small letters, which every keyword has but the blank pattern. That one comes
from names only whose variant is no identifier either (`isKeyword_constantName`).
-/

namespace WireErrors

namespace Text

/-! ## Look-ups -/

theorem exists_run_of_image? {runs : List CaseRun} {n m : Nat} (h : CaseRun.image? runs n = some m) :
    ∃ run ∈ runs, run.first ≤ n ∧ n ≤ run.last ∧ m = run.image + (n - run.first) := by
  induction runs with
  | nil => cases h
  | cons run runs ih =>
    rw [CaseRun.image?] at h
    split at h
    · cases h
    · split at h
      next hfirst hin =>
        rw [Bool.and_eq_true, decide_eq_true_eq] at hin
        exact ⟨run, List.mem_cons_self, Nat.le_of_not_lt hfirst, hin.1, (Option.some.inj h).symm⟩
      next =>
        obtain ⟨other, hmem, hother⟩ := ih h
        exact ⟨other, List.mem_cons_of_mem _ hmem, hother⟩

theorem mem_of_expansion? {entries : List (Nat × List Nat)} {n : Nat} {image : List Nat}
    (h : expansion? entries n = some image) : (n, image) ∈ entries := by
  induction entries with
  | nil => cases h
  | cons entry entries ih =>
    obtain ⟨m, other⟩ := entry
    rw [expansion?] at h
    split at h
    · cases h
    · split at h
      next hequal =>
        rw [hequal, Option.some.inj h]
        exact List.mem_cons_self
      next => exact List.mem_cons_of_mem _ (ih h)

/-! ## Upper case -/

theorem toNat_ofNat_le (n : Nat) : (Char.ofNat n).toNat = n ∨ (Char.ofNat n).toNat = 0 := by
  by_cases hn : n.isValidChar
  · have hof : Char.ofNat n = Char.ofNatAux n hn := dif_pos hn
    rw [hof]
    exact .inl rfl
  · have hof : Char.ofNat n = '\x00' := dif_neg hn
    rw [hof]
    exact .inr rfl

/-- Neither small letters nor `_` are the upper-case form of another character. -/
theorem eq_of_mem_upper {c d : Char} (h : d ∈ upper c) (hfirst : 95 ≤ d.toNat)
    (hlast : d.toNat ≤ 122) : d = c ∧ d.toNat < 97 := by
  have hruns : ∀ run ∈ Table.upperRuns,
      run.image + (run.last - run.first) < 95 ∨ 122 < run.image := by decide +kernel
  have hentries : ∀ entry ∈ Table.upperExpansions, ∀ n ∈ entry.2, n < 95 ∨ 122 < n := by
    decide +kernel
  have hsmall : ∀ k < 122 + 1 - 97, (CaseRun.image? Table.upperRuns (97 + k)).isSome = true := by
    decide +kernel
  unfold upper mapCase at h
  split at h
  next n hn =>
    obtain ⟨run, hrun, hlo, hhi, rfl⟩ := exists_run_of_image? hn
    rw [List.mem_singleton] at h
    have hd := toNat_ofNat_le (run.image + (c.toNat - run.first))
    rw [← h] at hd
    have himage := hruns run hrun
    omega
  next hnone =>
    split at h
    next image himage =>
      obtain ⟨n, hn, rfl⟩ := List.mem_map.mp h
      have hd := toNat_ofNat_le n
      have hentry := hentries _ (mem_of_expansion? himage) n hn
      omega
    next =>
      obtain rfl := List.mem_singleton.mp h
      refine ⟨rfl, Nat.lt_of_not_le fun hle => ?_⟩
      have hsome := Source.holds_between
        (P := fun n => (CaseRun.image? Table.upperRuns n).isSome = true) hsmall hle hlast
      rw [hnone] at hsome
      cases hsome

theorem upper_ne_nil (c : Char) : upper c ≠ [] := by
  have hentries : ∀ entry ∈ Table.upperExpansions, entry.2 ≠ [] := by decide +kernel
  unfold upper mapCase
  split
  · exact List.cons_ne_nil _ _
  · split
    next image himage =>
      intro hnil
      exact hentries _ (mem_of_expansion? himage) (List.map_eq_nil_iff.mp hnil)
    next => exact List.cons_ne_nil _ _

/-! ## Constants -/

theorem flatMap_upper_eq_nil {word : List Char} (h : word.flatMap upper = []) : word = [] := by
  cases word with
  | nil => rfl
  | cons c word => exact absurd (List.append_eq_nil_iff.mp h).1 (upper_ne_nil c)

theorem not_small_of_mem_shoutySnake {text : List Char} {d : Char} (h : d ∈ shoutySnake text) :
    ¬(97 ≤ d.toNat ∧ d.toNat ≤ 122) := by
  rintro ⟨hfirst, hlast⟩
  rcases mem_intercalate h with rfl | ⟨part, hpart, hd⟩
  · revert hfirst
    decide
  · obtain ⟨word, -, rfl⟩ := List.mem_map.mp hpart
    obtain ⟨c, -, hd⟩ := List.mem_flatMap.mp hd
    have hequal := eq_of_mem_upper hd (Nat.le_trans (by decide) hfirst) hlast
    omega

theorem upperCamel_of_shoutySnake {text : List Char} (h : shoutySnake text = ['_']) :
    upperCamel text = [] ∨ upperCamel text = ['_'] := by
  unfold shoutySnake at h
  unfold upperCamel
  generalize words text = list at h ⊢
  match list with
  | [] => cases h
  | [word] =>
    rw [List.map_singleton] at h
    have hword : word.flatMap upper = ['_'] := by simpa [List.intercalate] using h
    cases word with
    | nil => exact .inl rfl
    | cons c word =>
      obtain ⟨d, image, himage⟩ := List.exists_cons_of_ne_nil (upper_ne_nil c)
      rw [List.flatMap_cons, himage, List.cons_append, List.cons.injEq,
        List.append_eq_nil_iff] at hword
      obtain ⟨rfl, rfl, hrest⟩ := hword
      rw [flatMap_upper_eq_nil hrest]
      refine .inr ?_
      rw [List.flatMap_singleton, capitalized, himage]
      rfl
  | first :: second :: rest =>
    rw [List.map_cons, List.map_cons, intercalate_cons] at h
    cases hfirst : first.flatMap upper with
    | cons c tail =>
      rw [hfirst, List.cons_append, List.cons.injEq] at h
      exact absurd (List.append_eq_nil_iff.mp h.2).2 (List.cons_ne_nil _ _)
    | nil =>
      rw [hfirst, List.nil_append, List.cons.injEq] at h
      cases rest with
      | cons third rest =>
        rw [List.map_cons, intercalate_cons] at h
        exact absurd (List.append_eq_nil_iff.mp h.2).2 (List.cons_ne_nil _ _)
      | nil =>
        have hsecond : second.flatMap upper = [] := by simpa [List.intercalate] using h.2
        rw [flatMap_upper_eq_nil hfirst, flatMap_upper_eq_nil hsecond]
        exact .inl rfl

end Text

open Source Text

/-- **The constant of an accepted name is no keyword.** -/
theorem isKeyword_constantName {name : String} (h : isIdentifier (variantName name) = true) :
    isKeyword (constantName name) = false := by
  have hkeywords : ∀ keyword ∈ keywords,
      keyword = "_" ∨ ∃ c ∈ keyword.toList, 97 ≤ c.toNat ∧ c.toNat ≤ 122 := by decide
  rw [Bool.eq_false_iff]
  intro hkeyword
  rcases hkeywords _ (List.contains_iff_mem.mp hkeyword) with hblank | ⟨c, hc, hsmall⟩
  · have hsnake : shoutySnake name.toList = ['_'] := by
      rw [← String.toList_ofList (l := shoutySnake name.toList)]
      exact congrArg String.toList hblank
    rcases upperCamel_of_shoutySnake hsnake with hcamel | hcamel
    · rw [variantName, hcamel] at h
      exact absurd h (by decide)
    · rw [variantName, hcamel] at h
      exact absurd h (by decide)
  · rw [constantName, String.toList_ofList] at hc
    exact not_small_of_mem_shoutySnake hc hsmall

end WireErrors
