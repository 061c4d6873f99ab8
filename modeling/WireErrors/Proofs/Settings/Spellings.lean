import WireErrors.Proofs.Casing
import WireErrors.Proofs.Settings.Assignments

/-!
# Names in any case

Targets, strategies and truth values are looked up by the lower case of what is written. Other letters
than those of ASCII have ASCII letters in their lower case too: the Kelvin sign a `k`, the capital
dotted I an `i` in front of a mark. None of them gets into a text that is found
(`find_iff_ascii_spelled`): no spelling has a `k` (`IsUnmixed`), and the mark stays.
-/

namespace WireErrors

namespace Text

/-! ## Lower case within ASCII -/

/-- Whether a character is ASCII and not the `k`, which is also the lower case of another letter. -/
def IsUnmixed (c : Char) : Prop := c.toNat < 128 ∧ c ≠ 'k'

instance (c : Char) : Decidable (IsUnmixed c) :=
  inferInstanceAs (Decidable (c.toNat < 128 ∧ c ≠ 'k'))

theorem lower_of_ascii {c : Char} (hc : c.toNat < 128) : lower c = [c.toLower] := by
  have hall : ∀ k < 127 + 1 - 0, lower (Char.ofNat (0 + k)) = [(Char.ofNat (0 + k)).toLower] := by
    decide +kernel
  exact Source.holds_of_char_between (P := fun c => lower c = [c.toLower]) hall (Nat.zero_le _)
    (Nat.le_of_lt_succ hc)

theorem ascii_of_toLower {c : Char} (h : c.toLower.toNat < 128) : c.toNat < 128 := by
  unfold Char.toLower at h
  split at h
  next hcapital =>
    have hlast : c.toNat ≤ 'Z'.toNat := hcapital.2
    exact Nat.lt_of_le_of_lt hlast (by decide)
  next => exact h

theorem ascii_of_lower {c : Char} (h : ∀ d ∈ lower c, IsUnmixed d) : c.toNat < 128 := by
  have hruns : ∀ run ∈ Table.lowerRuns, run.last < 128 ∨ run.first = run.last ∧ run.image = 'k'.toNat ∨
      128 ≤ run.image ∧ (run.image + (run.last - run.first) < 0xD800 ∨
        0xDFFF < run.image ∧ run.image + (run.last - run.first) < 0x110000) := by decide +kernel
  have hentries : ∀ entry ∈ Table.lowerExpansions, ∃ n ∈ entry.2, ¬IsUnmixed (Char.ofNat n) := by
    decide +kernel
  unfold lower mapCase at h
  split at h
  next n hn =>
    obtain ⟨run, hrun, hlo, hhi, rfl⟩ := exists_run_of_image? hn
    have himage := h _ List.mem_cons_self
    rcases hruns run hrun with hascii | ⟨hsingle, hk⟩ | ⟨hfirst, hvalid⟩
    · exact Nat.lt_of_le_of_lt hhi hascii
    · rw [hk, show c.toNat - run.first = 0 by omega] at himage
      exact absurd rfl himage.2
    · have hnat : (Char.ofNat (run.image + (c.toNat - run.first))).toNat =
          run.image + (c.toNat - run.first) := by
        rw [Char.ofNat, dif_pos (by unfold Nat.isValidChar; omega)]
        rfl
      have hbound := himage.1
      omega
  next =>
    split at h
    next image himage =>
      obtain ⟨n, hn, hmixed⟩ := hentries _ (mem_of_expansion? himage)
      exact absurd (h _ (List.mem_map_of_mem hn)) hmixed
    next => exact (h c List.mem_cons_self).1

/-! ## Lower case of texts -/

theorem lowercaseAfter_of_ascii {before text : List Char} (h : ∀ c ∈ text, c.toNat < 128) :
    lowercaseAfter before text = text.map Char.toLower := by
  induction text generalizing before with
  | nil => rfl
  | cons c text ih =>
    rw [List.forall_mem_cons] at h
    have hsigma : c ≠ 'Σ' := by
      rintro rfl
      exact absurd h.1 (by decide)
    rw [lowercaseAfter, if_neg hsigma, lower_of_ascii h.1, ih h.2, List.map_cons,
      List.singleton_append]

theorem ascii_of_lowercaseAfter {before text : List Char}
    (h : ∀ d ∈ lowercaseAfter before text, IsUnmixed d) : ∀ c ∈ text, c.toNat < 128 := by
  induction text generalizing before with
  | nil => nofun
  | cons c text ih =>
    rw [lowercaseAfter, List.forall_mem_append] at h
    obtain ⟨himage, hrest⟩ := h
    refine List.forall_mem_cons.mpr ⟨?_, ih hrest⟩
    by_cases hsigma : c = 'Σ'
    · -- Neither of the small sigmas is ASCII.
      rw [if_pos hsigma] at himage
      have hsmall := himage _ List.mem_cons_self
      split at hsmall
      · exact absurd hsmall (by decide)
      · exact absurd hsmall (by decide)
    · rw [if_neg hsigma] at himage
      exact ascii_of_lower himage

theorem toList_toLower (text : String) : text.toLower.toList = text.toList.map Char.toLower :=
  String.toList_map

theorem lowercase_of_ascii {text : String} (h : ∀ c ∈ text.toList, c.toNat < 128) :
    lowercase text = text.toLower := by
  rw [← String.toList_inj, toList_toLower, lowercase, String.toList_ofList,
    lowercaseAfter_of_ascii h]

theorem ascii_of_toLower_unmixed {text : String} (h : ∀ d ∈ text.toLower.toList, IsUnmixed d) :
    ∀ c ∈ text.toList, c.toNat < 128 := by
  rw [toList_toLower] at h
  exact fun c hc => ascii_of_toLower (h _ (List.mem_map_of_mem hc)).1

/-- Where the lower case is unmixed, it is that of ASCII; and the other way around. -/
theorem lowercase_eq_iff {text form : String} (hform : ∀ d ∈ form.toList, IsUnmixed d) :
    lowercase text = form ↔ text.toLower = form := by
  constructor
  · rintro rfl
    rw [lowercase, String.toList_ofList] at hform
    exact (lowercase_of_ascii (ascii_of_lowercaseAfter hform)).symm
  · rintro rfl
    exact lowercase_of_ascii (ascii_of_toLower_unmixed hform)

/-- Whether all texts that are spelled in a table are unmixed. -/
def UnmixedKeys {α : Type} (entries : List (String × α)) : Prop :=
  ∀ entry ∈ entries, ∀ d ∈ entry.1.toList, IsUnmixed d

theorem lookup_lowercase_iff {α : Type} {entries : List (String × α)}
    (hnodup : (entries.map Prod.fst).Nodup) (hkeys : UnmixedKeys entries) {text : String}
    {value : α} :
    entries.lookup (lowercase text) = some value ↔ (text.toLower, value) ∈ entries := by
  rw [lookup_eq_some_iff_mem hnodup]
  constructor
  · intro hmem
    rwa [(lowercase_eq_iff (hkeys _ hmem)).mp rfl]
  · intro hmem
    rwa [(lowercase_eq_iff (hkeys _ hmem)).mpr rfl]

end Text

open Text

theorem isOk_eq_false {ε α : Type} {result : Except ε α} (h : ∀ value, result ≠ .ok value) :
    result.isOk = false := by
  cases result with
  | error => rfl
  | ok value => exact absurd rfl (h value)

/-! ## Targets -/

namespace Target

/-- `-` for `_`. -/
def dashed (c : Char) : Char := if c = '_' then '-' else c

theorem isUnmixed_of_dashed {c : Char} (h : IsUnmixed (dashed c)) : IsUnmixed c := by
  unfold dashed at h
  split at h
  next hline =>
    subst hline
    decide
  next => exact h

theorem normalName_eq (name : String) : normalName name = (lowercase name).map dashed := by
  rw [← String.toList_inj, String.toList_map, normalName, String.toList_ofList]
  rfl

theorem unmixed_of_map_dashed {text : String} (h : ∀ d ∈ (text.map dashed).toList, IsUnmixed d) :
    ∀ c ∈ text.toList, IsUnmixed c := by
  rw [String.toList_map, List.forall_mem_map] at h
  exact fun c hc => isUnmixed_of_dashed (h c hc)

theorem normalName_eq_iff {name form : String} (hform : ∀ d ∈ form.toList, IsUnmixed d) :
    normalName name = form ↔ name.toLower.map dashed = form := by
  rw [normalName_eq]
  constructor
  · rintro rfl
    rw [(lowercase_eq_iff (unmixed_of_map_dashed hform)).mp rfl]
  · rintro rfl
    rw [(lowercase_eq_iff (unmixed_of_map_dashed hform)).mpr rfl]

theorem nodup_spellings : (spellings.map Prod.fst).Nodup := by decide

theorem unmixedKeys_spellings : UnmixedKeys spellings := by
  unfold UnmixedKeys
  decide

theorem find_eq_ok_iff {name : String} {target : Target} :
    find name = .ok target ↔ (name.toLower.map dashed, target) ∈ spellings := by
  have hfind : find name = .ok target ↔ spellings.lookup (normalName name) = some target := by
    unfold find
    cases spellings.lookup (normalName name) <;> simp
  rw [hfind, lookup_eq_some_iff_mem nodup_spellings]
  constructor
  · intro hmem
    rwa [(normalName_eq_iff (unmixedKeys_spellings _ hmem)).mp rfl]
  · intro hmem
    rwa [(normalName_eq_iff (unmixedKeys_spellings _ hmem)).mpr rfl]

end Target

/-! ## Strategies and truth values -/

theorem Strategy.unmixedKeys_spellings : UnmixedKeys spellings := by
  unfold UnmixedKeys
  decide

theorem Settings.unmixedKeys_booleans : UnmixedKeys booleans := by
  unfold UnmixedKeys
  decide

theorem Strategy.find_eq_ok_iff {name : String} {strategy : Strategy} :
    find name = .ok strategy ↔ (name.toLower, strategy) ∈ spellings := by
  rw [← lookup_lowercase_iff (by decide) unmixedKeys_spellings, find]
  cases spellings.lookup (lowercase name) <;> simp

theorem Settings.readBool_eq_ok_iff {key value : String} {truth : Bool} :
    readBool key value = .ok truth ↔ (value.toLower, truth) ∈ booleans := by
  rw [← lookup_lowercase_iff (by decide) unmixedKeys_booleans, readBool]
  cases booleans.lookup (lowercase value) <;> simp [refuse]

/-! ## What is found -/

/-- **Only spellings in ASCII letters of any case are found.** A target is found exactly under what
maps to one of the spellings when A–Z become a–z and `_` becomes `-`, a strategy or a truth value under
what maps to one of theirs when A–Z become a–z; what is found is the entry of the spelling. Nothing is
found under a text with a character that is not ASCII. -/
theorem find_iff_ascii_spelled (text key : String) :
    (∀ target, Target.find text = .ok target ↔
      (text.toLower.map Target.dashed, target) ∈ Target.spellings) ∧
    (∀ strategy, Strategy.find text = .ok strategy ↔
      (text.toLower, strategy) ∈ Strategy.spellings) ∧
    (∀ truth, Settings.readBool key text = .ok truth ↔
      (text.toLower, truth) ∈ Settings.booleans) ∧
    ((∃ c ∈ text.toList, 128 ≤ c.toNat) → (Target.find text).isOk = false ∧
      (Strategy.find text).isOk = false ∧ (Settings.readBool key text).isOk = false) := by
  refine ⟨fun _ => Target.find_eq_ok_iff, fun _ => Strategy.find_eq_ok_iff,
    fun _ => Settings.readBool_eq_ok_iff, ?_⟩
  rintro ⟨c, hc, hforeign⟩
  have hnot : ¬∀ d ∈ text.toLower.toList, IsUnmixed d := fun h =>
    absurd (ascii_of_toLower_unmixed h c hc) (Nat.not_lt.mpr hforeign)
  refine ⟨isOk_eq_false fun target htarget => ?_, isOk_eq_false fun strategy hstrategy => ?_,
    isOk_eq_false fun truth htruth => ?_⟩
  · have hmem := Target.find_eq_ok_iff.mp htarget
    exact hnot (Target.unmixed_of_map_dashed (Target.unmixedKeys_spellings _ hmem))
  · exact hnot (Strategy.unmixedKeys_spellings _ (Strategy.find_eq_ok_iff.mp hstrategy))
  · exact hnot (Settings.unmixedKeys_booleans _ (Settings.readBool_eq_ok_iff.mp htruth))

/-- The capital dotted I of `VALİDATING` is no `I`, although its lower case starts with an `i`. -/
theorem find_iff_ascii_spelled_dotted :
    (∃ c ∈ "VALİDATING".toList, 128 ≤ c.toNat) ∧ (Target.find "VALİDATING").isOk = false :=
  have hdotted : ∃ c ∈ "VALİDATING".toList, 128 ≤ c.toNat := by decide
  ⟨hdotted, ((find_iff_ascii_spelled "VALİDATING" "").2.2.2 hdotted).1⟩

end WireErrors
