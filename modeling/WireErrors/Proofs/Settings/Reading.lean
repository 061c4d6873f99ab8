import Mathlib.Data.List.Pairwise
import Mathlib.Data.List.Perm.Basic
import WireErrors.Proofs.Emission.Sequencing
import WireErrors.Proofs.Settings.Assignments

/-!
# Reading settings

The parameters of a text are read in order. The first one that is refused decides the error, and
otherwise each field holds what the last parameter for it assigns (`read_lastWins`). Two texts that are
joined by a comma are read one after the other, and parameters for different fields can change places.
-/

namespace WireErrors.Settings

open Text

/-! ## Assignments in a row -/

/-- What a field holds after some assignments: what the last one for it assigns, or else what the
field held before. -/
inductive LastWins (assignments : List Assignment) (field : Field) (initial : field.Content) :
    field.Content → Prop
  | assigned {earlier later : List Assignment} {content : field.Content}
      (h : assignments = earlier ++ ⟨field, content⟩ :: later)
      (hlater : ∀ a ∈ later, a.field ≠ field) : LastWins assignments field initial content
  | untouched (h : ∀ a ∈ assignments, a.field ≠ field) : LastWins assignments field initial initial

theorem content_foldl_of_ne (settings : Settings) {assignments : List Assignment} {field : Field}
    (h : ∀ a ∈ assignments, a.field ≠ field) :
    (assignments.foldl put settings).content field = settings.content field := by
  induction assignments generalizing settings with
  | nil => rfl
  | cons a rest ih =>
    rw [List.forall_mem_cons] at h
    rw [List.foldl_cons, ih _ h.2, content_put_of_ne settings h.1]

theorem exists_lastWins (assignments : List Assignment) (field : Field) (initial : field.Content) :
    ∃ content, LastWins assignments field initial content := by
  induction assignments with
  | nil => exact ⟨initial, .untouched nofun⟩
  | cons a rest ih =>
    obtain ⟨content, hcontent⟩ := ih
    -- the first assignment counts only if no later one is for the field
    cases hcontent with
    | assigned h hlater => exact ⟨content, .assigned (by rw [h, ← List.cons_append]) hlater⟩
    | untouched hrest =>
      by_cases ha : a.field = field
      · obtain ⟨changed, assigned⟩ := a
        obtain rfl := ha
        exact ⟨assigned, .assigned (List.nil_append _).symm hrest⟩
      · exact ⟨initial, .untouched (List.forall_mem_cons.mpr ⟨ha, hrest⟩)⟩

theorem LastWins.content_foldl {assignments : List Assignment} {field : Field}
    {initial content : field.Content} (h : LastWins assignments field initial content)
    {settings : Settings} (hinitial : settings.content field = initial) :
    (assignments.foldl put settings).content field = content := by
  cases h with
  | assigned h hlater =>
    rw [h, List.foldl_append, List.foldl_cons, content_foldl_of_ne _ hlater, content_put_self]
  | untouched h => rw [content_foldl_of_ne _ h, hinitial]

theorem lastWins_iff (settings : Settings) {assignments : List Assignment} {field : Field}
    {content : field.Content} :
    LastWins assignments field (settings.content field) content ↔
      (assignments.foldl put settings).content field = content := by
  refine ⟨fun h => h.content_foldl rfl, fun h => ?_⟩
  obtain ⟨other, hother⟩ := exists_lastWins assignments field (settings.content field)
  rwa [← h, hother.content_foldl rfl]

/-- What is assigned hides what a field held before. -/
theorem content_foldl_of_mem (first second : Settings) {assignments : List Assignment}
    {a : Assignment} (ha : a ∈ assignments) :
    (assignments.foldl put first).content a.field =
      (assignments.foldl put second).content a.field := by
  obtain ⟨content, hcontent⟩ := exists_lastWins assignments a.field (first.content a.field)
  rw [hcontent.content_foldl rfl]
  cases hcontent with
  | assigned h hlater => exact ((LastWins.assigned h hlater).content_foldl rfl).symm
  | untouched h => exact absurd rfl (h a ha)

theorem put_comm (settings : Settings) {first second : Assignment}
    (h : first.field ≠ second.field) :
    (settings.put first).put second = (settings.put second).put first := by
  refine ext_content fun field => ?_
  by_cases hsecond : second.field = field
  · obtain ⟨changed, content⟩ := second
    obtain rfl := hsecond
    rw [content_put_self, content_put_of_ne _ h, content_put_self]
  · rw [content_put_of_ne _ hsecond]
    by_cases hfirst : first.field = field
    · obtain ⟨changed, content⟩ := first
      obtain rfl := hfirst
      rw [content_put_self, content_put_self]
    · rw [content_put_of_ne _ hfirst, content_put_of_ne _ hfirst, content_put_of_ne _ hsecond]

theorem foldl_put_of_perm (settings : Settings) {assignments others : List Assignment}
    (hperm : assignments.Perm others)
    (hfields : assignments.Pairwise fun a b => a.field ≠ b.field) :
    assignments.foldl put settings = others.foldl put settings := by
  have hsymm : Std.Symm fun a b : Assignment => a.field ≠ b.field := ⟨fun _ _ => Ne.symm⟩
  -- two assignments of the row are one and the same, or for different fields
  refine hperm.foldl_eq' (fun a ha b hb other => ?_) settings
  by_cases hsame : a = b
  · rw [hsame]
  · exact put_comm other (hfields.forall ha hb hsame)

/-! ## Parts in a row -/

/-- The first part that is refused, behind parts that are not. -/
def FirstRefused (parts : List (List Char)) (error : GenerationError) : Prop :=
  ∃ earlier part later, parts = earlier ++ part :: later ∧
    (∀ p ∈ earlier, ∃ a, Assigns p a) ∧ Refused part error

theorem forall₂_or_firstRefused (parts : List (List Char)) :
    (∃ assignments, List.Forall₂ Assigns parts assignments) ∨ ∃ error, FirstRefused parts error := by
  induction parts with
  | nil => exact .inl ⟨[], .nil⟩
  | cons part rest ih =>
    rcases assigns_or_refused part with ⟨a, ha⟩ | ⟨error, hpart⟩
    · rcases ih with ⟨assignments, hrest⟩ | ⟨error, earlier, other, later, rfl, hearlier, hother⟩
      · exact .inl ⟨a :: assignments, .cons ha hrest⟩
      · exact .inr ⟨error, part :: earlier, other, later, rfl,
          List.forall_mem_cons.mpr ⟨⟨a, ha⟩, hearlier⟩, hother⟩
    · exact .inr ⟨error, [], part, rest, rfl, nofun, hpart⟩

theorem foldlM_of_forall₂ (settings : Settings) {parts : List (List Char)}
    {assignments : List Assignment} (h : List.Forall₂ Assigns parts assignments) :
    parts.foldlM readPart settings = .ok (assignments.foldl put settings) := by
  induction h generalizing settings with
  | nil => rfl
  | cons hpart _ ih =>
    rw [List.foldlM_cons, readPart_of_assigns settings hpart, except_ok_bind, ih]
    rfl

theorem foldlM_of_firstRefused (settings : Settings) {parts : List (List Char)}
    {error : GenerationError} (h : FirstRefused parts error) :
    parts.foldlM readPart settings = .error error := by
  obtain ⟨earlier, part, later, rfl, hearlier, hpart⟩ := h
  obtain ⟨assignments, hassigned⟩ := exists_forall₂ hearlier
  rw [List.foldlM_append, foldlM_of_forall₂ settings hassigned, except_ok_bind,
    List.foldlM_cons, readPart_of_refused _ hpart, except_error_bind]

theorem foldlM_eq_error_iff {settings : Settings} {parts : List (List Char)}
    {error : GenerationError} :
    parts.foldlM readPart settings = .error error ↔ FirstRefused parts error := by
  refine ⟨fun h => ?_, foldlM_of_firstRefused settings⟩
  rcases forall₂_or_firstRefused parts with ⟨assignments, hassigned⟩ | ⟨other, hother⟩
  · rw [foldlM_of_forall₂ settings hassigned] at h
    cases h
  · rw [foldlM_of_firstRefused settings hother] at h
    exact Except.error.inj h ▸ hother

theorem foldlM_eq_ok_iff {settings result : Settings} {parts : List (List Char)} :
    parts.foldlM readPart settings = .ok result ↔
      ∃ assignments, List.Forall₂ Assigns parts assignments ∧
        assignments.foldl put settings = result := by
  constructor
  · intro h
    rcases forall₂_or_firstRefused parts with ⟨assignments, hassigned⟩ | ⟨error, hrefused⟩
    · rw [foldlM_of_forall₂ settings hassigned] at h
      exact ⟨assignments, hassigned, Except.ok.inj h⟩
    · rw [foldlM_of_firstRefused settings hrefused] at h
      cases h
  · rintro ⟨assignments, hassigned, rfl⟩
    exact foldlM_of_forall₂ settings hassigned

theorem Assigns.field_unique {part : List Char} {first second : Assignment}
    (hfirst : Assigns part first) (hsecond : Assigns part second) : first.field = second.field := by
  obtain ⟨hpart, hmark, hkey, -⟩ := hfirst
  obtain ⟨hother, hotherMark, hotherKey, -⟩ := hsecond
  have hsplit := splitFirst?_eq_some_iff.mpr ⟨hpart, hmark⟩
  rw [splitFirst?_eq_some_iff.mpr ⟨hother, hotherMark⟩] at hsplit
  cases hsplit
  have hlookup := (lookup_eq_some_iff_mem nodup_keys).mpr hkey
  rw [(lookup_eq_some_iff_mem nodup_keys).mpr hotherKey] at hlookup
  exact (Option.some.inj hlookup).symm

theorem exists_part_of_mem {parts : List (List Char)} {assignments : List Assignment}
    (h : List.Forall₂ Assigns parts assignments) {a : Assignment} (ha : a ∈ assignments) :
    ∃ part ∈ parts, Assigns part a := by
  induction h with
  | nil => cases ha
  | cons hpart _ ih =>
    rcases List.mem_cons.mp ha with rfl | ha
    · exact ⟨_, List.mem_cons_self, hpart⟩
    · obtain ⟨part, hmem, hassigns⟩ := ih ha
      exact ⟨part, List.mem_cons_of_mem _ hmem, hassigns⟩

theorem exists_mem_iff {parts : List (List Char)} {assignments : List Assignment}
    (h : List.Forall₂ Assigns parts assignments) {field : Field} :
    (∃ a ∈ assignments, a.field = field) ↔ ∃ part ∈ parts, ∃ content, Assigns part ⟨field, content⟩ := by
  constructor
  · rintro ⟨a, ha, rfl⟩
    obtain ⟨part, hpart, hassigns⟩ := exists_part_of_mem h ha
    exact ⟨part, hpart, a.content, hassigns⟩
  · rintro ⟨part, hpart, content, hassigns⟩
    induction h with
    | nil => cases hpart
    | cons hfirst _ ih =>
      rcases List.mem_cons.mp hpart with rfl | hpart
      · exact ⟨_, List.mem_cons_self, hfirst.field_unique hassigns⟩
      · obtain ⟨a, ha, hfield⟩ := ih hpart
        exact ⟨a, List.mem_cons_of_mem _ ha, hfield⟩

/-- Parts of which no two are for the same field. -/
def DistinctFields (parts : List (List Char)) : Prop :=
  parts.Pairwise fun p q => ∀ a b, Assigns p a → Assigns q b → a.field ≠ b.field

theorem DistinctFields.pairwise {parts : List (List Char)} {assignments : List Assignment}
    (hparts : DistinctFields parts) (h : List.Forall₂ Assigns parts assignments) :
    assignments.Pairwise fun a b => a.field ≠ b.field := by
  induction h with
  | nil => exact .nil
  | cons hpart hrest ih =>
    obtain ⟨hfirst, hothers⟩ := List.pairwise_cons.mp hparts
    refine .cons (fun b hb => ?_) (ih hothers)
    obtain ⟨other, hother, hassigns⟩ := exists_part_of_mem hrest hb
    exact hfirst other hother _ _ hpart hassigns

/-- Parts that are accepted and for different fields can change places. -/
theorem foldlM_of_perm (settings : Settings) {parts others : List (List Char)}
    (hperm : parts.Perm others) (haccepted : ∀ part ∈ parts, ∃ a, Assigns part a)
    (hfields : DistinctFields parts) :
    parts.foldlM readPart settings = others.foldlM readPart settings := by
  obtain ⟨assignments, hassigned⟩ := exists_forall₂ haccepted
  obtain ⟨reordered, hreordered, hperm'⟩ := List.perm_comp_forall₂ hperm.symm hassigned
  rw [foldlM_of_forall₂ settings hassigned, foldlM_of_forall₂ settings hreordered,
    foldl_put_of_perm settings hperm'.symm (hfields.pairwise hassigned)]

/-! ## Texts -/

theorem parts_append (first second : String) :
    parts (first ++ "," ++ second) = parts first ++ parts second := by
  have hlist : (first ++ "," ++ second).toList = first.toList ++ ',' :: second.toList := by simp
  rw [parts, hlist, splitAt_append, List.map_append, List.filter_append]
  rfl

theorem exists_pieces (text : String) :
    ∃ pieces, pieces ≠ [] ∧ (∀ piece ∈ pieces, ',' ∉ piece) ∧
      text.toList = List.intercalate [','] pieces ∧
      parts text = (pieces.map trim).filter (!·.isEmpty) := by
  obtain ⟨hne, hpieces, hjoined⟩ := splitAt_eq_iff.mp (rfl : splitAt ',' text.toList = _)
  exact ⟨_, hne, hpieces, hjoined.symm, rfl⟩

theorem read_append (first second : String) :
    read (first ++ "," ++ second) =
      read first >>= fun settings => (parts second).foldlM readPart settings := by
  rw [read, parts_append, List.foldlM_append]
  rfl

theorem read_eq_ok_iff {text : String} {settings : Settings} :
    read text = .ok settings ↔ ∃ assignments, List.Forall₂ Assigns (parts text) assignments ∧
      ∀ field, LastWins assignments field (standard.content field) (settings.content field) := by
  rw [read, foldlM_eq_ok_iff]
  refine exists_congr fun assignments => and_congr_right fun _ => ?_
  simp only [lastWins_iff]
  exact ⟨fun h _ => h ▸ rfl, ext_content⟩

/-- **Reading settings: the first error decides, and else the last value of each field.** The parts of
a text are what stands between its commas, trimmed, unless nothing is left. If one of them is refused,
the first such part gives the error. Otherwise each field holds what the last part for it assigns, or
its standard content. So texts joined by a comma are read one after the other, and accepted parts for
different fields can change places wherever they stand. -/
theorem read_lastWins :
    (∀ text : String, ∃ pieces, pieces ≠ [] ∧ (∀ piece ∈ pieces, ',' ∉ piece) ∧
      text.toList = List.intercalate [','] pieces ∧
      parts text = (pieces.map trim).filter (!·.isEmpty)) ∧
    (∀ text error, read text = .error error ↔ FirstRefused (parts text) error) ∧
    (∀ text settings, read text = .ok settings ↔
      ∃ assignments, List.Forall₂ Assigns (parts text) assignments ∧
        ∀ field, LastWins assignments field (standard.content field) (settings.content field)) ∧
    (∀ first second : String,
      (∀ error, read first = .error error → read (first ++ "," ++ second) = .error error) ∧
      ∀ settings, read first = .ok settings →
        (∀ error, read second = .error error → read (first ++ "," ++ second) = .error error) ∧
        ∀ others, read second = .ok others → ∃ joined, read (first ++ "," ++ second) = .ok joined ∧
          ∀ field,
            ((∃ part ∈ parts second, ∃ content, Assigns part ⟨field, content⟩) →
              joined.content field = others.content field) ∧
            ((¬∃ part ∈ parts second, ∃ content, Assigns part ⟨field, content⟩) →
              joined.content field = settings.content field)) ∧
    ∀ (text other : String) (before moved reordered after : List (List Char)),
      parts text = before ++ moved ++ after → parts other = before ++ reordered ++ after →
      moved.Perm reordered → (∀ part ∈ moved, ∃ a, Assigns part a) → DistinctFields moved →
      read text = read other := by
  refine ⟨exists_pieces, fun text error => foldlM_eq_error_iff, fun text settings => read_eq_ok_iff,
    fun first second => ⟨fun error h => ?_, fun settings h => ⟨fun error h' => ?_, fun others h' => ?_⟩⟩,
    fun text other before moved reordered after htext hother hperm haccepted hfields => ?_⟩
  · rw [read_append, h, except_error_bind]
  · rw [read_append, h, except_ok_bind, foldlM_eq_error_iff]
    exact foldlM_eq_error_iff.mp h'
  · obtain ⟨assignments, hassigned, rfl⟩ := foldlM_eq_ok_iff.mp h'
    refine ⟨_, by rw [read_append, h, except_ok_bind, foldlM_of_forall₂ settings hassigned],
      fun field => ?_⟩
    rw [← exists_mem_iff hassigned]
    constructor
    · rintro ⟨a, ha, rfl⟩
      exact content_foldl_of_mem settings standard ha
    · intro hnone
      exact content_foldl_of_ne settings fun a ha hfield => hnone ⟨a, ha, hfield⟩
  · rw [read, read, htext, hother]
    simp only [List.foldlM_append, foldlM_of_perm _ hperm haccepted hfields]

/-- A later target under the other key replaces the first one; what stands between commas only is no
part, and a switch and a target can change places. -/
theorem read_lastWins_backend :
    (∃ joined, read ("target=rust,, validation=Yes" ++ "," ++ " backend = min=1 ") = .ok joined ∧
      joined.target = "min=1" ∧ joined.validation = some true) ∧
    ["validation=Yes".toList, "target=rust".toList].Perm
        ["target=rust".toList, "validation=Yes".toList] ∧
      read "validation=Yes,target=rust" = read "target=rust,, validation=Yes" := by
  have htarget : Assigns "target=rust".toList ⟨.target, "rust"⟩ :=
    .mk (show _ = "target".toList ++ '=' :: "rust".toList from rfl) (by decide) (by decide) .target
  have hvalidation : Assigns "validation=Yes".toList ⟨.flag .validation, some true⟩ :=
    .mk (show _ = "validation".toList ++ '=' :: "Yes".toList from rfl) (by decide) (by decide)
      (.flag (by decide +kernel))
  have hbackend : Assigns "backend = min=1".toList ⟨.target, "min=1"⟩ :=
    .mk (show _ = "backend ".toList ++ '=' :: " min=1".toList from rfl) (by decide) (by decide)
      .target
  have hpart : parts " backend = min=1 " = ["backend = min=1".toList] := rfl
  have hperm : ["validation=Yes".toList, "target=rust".toList].Perm
      ["target=rust".toList, "validation=Yes".toList] := .swap ..
  refine ⟨?_, hperm, ?_⟩
  · obtain ⟨joined, hjoined, hfields⟩ := ((read_lastWins.2.2.2.1 "target=rust,, validation=Yes"
      " backend = min=1 ").2 { standard with validation := some true } rfl).2 _ rfl
    refine ⟨joined, hjoined, (hfields .target).1 ?_, (hfields (.flag .validation)).2 ?_⟩
    · exact ⟨_, hpart ▸ List.mem_singleton_self _, _, hbackend⟩
    · rintro ⟨part, hmem, content, hassigns⟩
      rw [hpart, List.mem_singleton] at hmem
      subst hmem
      cases hassigns.field_unique hbackend
  · refine read_lastWins.2.2.2.2 _ _ [] ["validation=Yes".toList, "target=rust".toList]
      ["target=rust".toList, "validation=Yes".toList] [] rfl rfl hperm ?_ ?_
    · simpa using ⟨⟨_, hvalidation⟩, ⟨_, htarget⟩⟩
    · refine .cons (fun q hq a b ha hb => ?_) (List.pairwise_singleton _ _)
      rw [List.mem_singleton] at hq
      subst hq
      rw [ha.field_unique hvalidation, hb.field_unique htarget]
      decide

end WireErrors.Settings
