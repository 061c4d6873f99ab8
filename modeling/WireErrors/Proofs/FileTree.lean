import WireErrors.FileTree
import WireErrors.Proofs.Emission.Sequencing
import Mathlib.Data.List.Infix

/-!
# Writing to a file tree

A text is written to the file that a path leads to, or to the vacant place, and nothing else changes:
all other files keep their bytes, and every path that does not lead to the written file has the text
that it had (`written_of_write`). Paths are followed through directories alone, so that only a path
that comes to the written place is led elsewhere than before (`follow_put`).
-/

namespace WireErrors

namespace FileTree

variable {tree : FileTree} {here place other : List String} {bytes : ByteArray}

/-! ## The changed tree -/

theorem hasFile_iff : tree.hasFile place = true ↔ ∃ file ∈ tree.files, file.1 = place := by
  simp [hasFile]

theorem hasDirectory_iff : tree.hasDirectory place = true ↔
    place <+: tree.work ∨ place ∈ tree.directories ∨
      ∃ file ∈ tree.files, place.length < file.1.length ∧ place <+: file.1 := by
  simp [hasDirectory, or_assoc]

theorem mem_files_put {file : List String × ByteArray} : file ∈ (tree.put place bytes).files ↔
    file = (place, bytes) ∨ file ∈ tree.files ∧ file.1 ≠ place := by
  simp [put]

theorem hasFile_put :
    (tree.put place bytes).hasFile other = true ↔ other = place ∨ tree.hasFile other = true := by
  simp only [hasFile_iff, mem_files_put]
  constructor
  · rintro ⟨file, rfl | ⟨hmem, -⟩, rfl⟩
    · exact .inl rfl
    · exact .inr ⟨file, hmem, rfl⟩
  · rintro (rfl | ⟨file, hmem, rfl⟩)
    · exact ⟨_, .inl rfl, rfl⟩
    · by_cases hplace : file.1 = place
      · exact ⟨_, .inl rfl, hplace.symm⟩
      · exact ⟨file, .inr ⟨hmem, hplace⟩, rfl⟩

theorem bytes?_put_self : (tree.put place bytes).bytes? place = some bytes :=
  List.lookup_cons_self

theorem bytes?_put_of_ne (h : other ≠ place) :
    (tree.put place bytes).bytes? other = tree.bytes? other := by
  simp only [bytes?, put, List.lookup_cons, beq_eq_false_iff_ne.mpr h]
  induction tree.files with
  | nil => rfl
  | cons file files ih =>
    obtain ⟨first, held⟩ := file
    by_cases hfirst : first = place
    · rw [List.filter_cons_of_neg (by simp [hfirst]), ih, List.lookup_cons, hfirst,
        beq_eq_false_iff_ne.mpr h]
    · rw [List.filter_cons_of_pos (by simp [hfirst]), List.lookup_cons, List.lookup_cons, ih]

/-! ## Directories on the way -/

/-- Whether all that lies on the way to a place are directories. -/
def Reached (tree : FileTree) (here : List String) : Prop :=
  ∀ above, above <+: here → tree.hasDirectory above = true

theorem reached_start (tree : FileTree) (components : List String) :
    Reached tree (tree.start components) := by
  intro above habove
  refine hasDirectory_iff.mpr (.inl ?_)
  rw [start] at habove
  split at habove
  · exact habove.trans List.nil_prefix
  · exact habove

theorem Reached.dropLast (h : Reached tree here) : Reached tree here.dropLast :=
  fun above habove => h above (habove.trans (List.dropLast_prefix here))

theorem Reached.child {name : String} (h : Reached tree here)
    (hdirectory : tree.hasDirectory (here ++ [name]) = true) : Reached tree (here ++ [name]) := by
  intro above habove
  rcases List.prefix_concat_iff.mp habove with rfl | habove
  · exact hdirectory
  · exact h above habove

/-- A file in a directory that was reached makes no new directories. -/
theorem hasDirectory_put {name : String} (h : Reached tree here) (other : List String) :
    (tree.put (here ++ [name]) bytes).hasDirectory other = tree.hasDirectory other := by
  rw [Bool.eq_iff_iff, hasDirectory_iff]
  constructor
  · rintro (hwork | hdirectory | ⟨file, hfile, hlength, hother⟩)
    · exact hasDirectory_iff.mpr (.inl hwork)
    · exact hasDirectory_iff.mpr (.inr (.inl hdirectory))
    · rcases mem_files_put.mp hfile with rfl | ⟨hfile, -⟩
      · rcases List.prefix_concat_iff.mp hother with hequal | hother
        · exact absurd hlength (by simp [hequal])
        · exact h other hother
      · exact hasDirectory_iff.mpr (.inr (.inr ⟨file, hfile, hlength, hother⟩))
  · intro hdirectory
    rcases hasDirectory_iff.mp hdirectory with hwork | hdirectory | ⟨file, hfile, hlength, hother⟩
    · exact .inl hwork
    · exact .inr (.inl hdirectory)
    · refine .inr (.inr ?_)
      by_cases hplace : file.1 = here ++ [name]
      · exact ⟨_, mem_files_put.mpr (.inl rfl), hplace ▸ hlength, hplace ▸ hother⟩
      · exact ⟨file, mem_files_put.mpr (.inr ⟨hfile, hplace⟩), hlength, hother⟩

/-! ## Following a path -/

/-- A place in a directory where a file is or nothing at all. -/
structure Writable (tree : FileTree) (here : List String) (name : String) : Prop where
  reached : Reached tree here
  free : tree.hasFile (here ++ [name]) = true ∨ tree.hasDirectory (here ++ [name]) = false

theorem writable_of_follow {start components : List String} (hstart : Reached tree start)
    (h : tree.follow start components = .ok (.file place) ∨
      tree.follow start components = .ok (.vacant place)) :
    ∃ here name, place = here ++ [name] ∧ Writable tree here name := by
  fun_induction follow tree start components with
  | case1 | case4 | case6 | case9 => rcases h with h | h <;> cases h
  | case2 start name rest hblank ih => exact ih hstart h
  | case3 start name rest hblank hup ih => exact ih hstart.dropLast h
  | case5 start name rest hblank hup hlong here hfile hrest =>
    rcases h with h | h
    · exact ⟨start, name, (Place.file.inj (Except.ok.inj h)).symm, hstart, .inl hfile⟩
    · cases h
  | case7 start name rest hblank hup hlong place hfile hdirectory ih =>
    exact ih (hstart.child hdirectory) h
  | case8 start name rest hblank hup hlong place hfile hdirectory hrest =>
    rcases h with h | h
    · cases h
    · exact ⟨start, name, (Place.vacant.inj (Except.ok.inj h)).symm, hstart,
        .inr (Bool.eq_false_iff.mpr hdirectory)⟩

theorem hasFile_of_follow_vacant {start components : List String}
    (h : tree.follow start components = .ok (.vacant place)) : tree.hasFile place = false := by
  fun_induction follow tree start components with
  | case1 | case4 | case5 | case6 | case9 => cases h
  | case2 start name rest hblank ih => exact ih h
  | case3 start name rest hblank hup ih => exact ih h
  | case7 start name rest hblank hup hlong place hfile hdirectory ih => exact ih h
  | case8 start name rest hblank hup hlong place hfile hdirectory hrest =>
    rw [← Place.vacant.inj (Except.ok.inj h)]
    exact Bool.eq_false_iff.mpr hfile

/-- Where a path leads before and after a file is put at a place: to the same, unless the place was
vacant and the path comes to it, with some components left. -/
def Alike (place components : List String) (before after : Except FileFailure Place) : Prop :=
  after = before ∨ ∃ rest, rest <:+ components ∧
    before = (if rest.all String.isEmpty then .ok (.vacant place) else .error .notFound) ∧
    after = if rest.isEmpty then .ok (.file place) else .error .notDirectory

theorem follow_put {name : String} (h : Writable tree here name) (bytes : ByteArray)
    (start components : List String) :
    Alike (here ++ [name]) components (tree.follow start components)
      ((tree.put (here ++ [name]) bytes).follow start components) := by
  induction components generalizing start with
  | nil => exact .inl rfl
  | cons component rest ih =>
    have hlater (start : List String) : Alike (here ++ [name]) (component :: rest)
        (tree.follow start rest) ((tree.put (here ++ [name]) bytes).follow start rest) :=
      (ih start).imp_right fun ⟨left, hsuffix, hleft⟩ =>
        ⟨left, hsuffix.trans (List.suffix_cons component rest), hleft⟩
    rw [follow, follow]
    by_cases hblank : (component.isEmpty || component == ".") = true
    · rw [if_pos hblank, if_pos hblank]
      exact hlater _
    rw [if_neg hblank, if_neg hblank]
    by_cases hup : (component == "..") = true
    · rw [if_pos hup, if_pos hup]
      exact hlater _
    rw [if_neg hup, if_neg hup]
    by_cases hlong : 255 < component.utf8ByteSize
    · rw [if_pos hlong, if_pos hlong]
      exact .inl rfl
    rw [if_neg hlong, if_neg hlong]
    have hdirectory : (tree.put (here ++ [name]) bytes).hasDirectory (start ++ [component]) =
        tree.hasDirectory (start ++ [component]) := hasDirectory_put h.reached _
    dsimp only
    by_cases hplace : start ++ [component] = here ++ [name]
    · rw [hplace, if_pos (hasFile_put.mpr (.inl rfl))]
      by_cases hfile : tree.hasFile (here ++ [name]) = true
      · rw [if_pos hfile]
        exact .inl rfl
      · have hnone : tree.hasDirectory (here ++ [name]) = false := h.free.resolve_left hfile
        rw [if_neg hfile, hnone, if_neg Bool.false_ne_true]
        exact .inr ⟨rest, List.suffix_cons component rest, rfl, rfl⟩
    · have hfile : (tree.put (here ++ [name]) bytes).hasFile (start ++ [component]) =
          tree.hasFile (start ++ [component]) := by
        rw [Bool.eq_iff_iff, hasFile_put, or_iff_right hplace]
      rw [hfile, hdirectory]
      split
      · exact .inl rfl
      · split
        · exact hlater _
        · exact .inl rfl

/-! ## Paths to a place -/

theorem find_put {name : String} (h : Writable tree here name) (bytes : ByteArray)
    (components : List String) :
    Alike (here ++ [name]) components (tree.find components)
      ((tree.put (here ++ [name]) bytes).find components) :=
  follow_put h bytes (tree.start components) components

theorem writable_of_find {components : List String}
    (h : tree.find components = .ok (.file place) ∨ tree.find components = .ok (.vacant place)) :
    ∃ here name, place = here ++ [name] ∧ Writable tree here name :=
  writable_of_follow (reached_start tree components) h

theorem hasFile_of_find_vacant {components : List String}
    (h : tree.find components = .ok (.vacant place)) : tree.hasFile place = false :=
  hasFile_of_follow_vacant h

/-! ## The components of a path -/

theorem splitWhere_concat (separates : Char → Bool) {c : Char} (hc : separates c = false)
    (piece text : List Char) : ∃ pieces last,
      Text.splitWhere separates piece (text ++ [c]) = pieces ++ [last] ∧ last ≠ [] := by
  induction text generalizing piece with
  | nil =>
    refine ⟨[], piece ++ [c], ?_, List.concat_ne_nil c piece⟩
    rw [List.nil_append, Text.splitWhere, hc]
    rfl
  | cons first rest ih =>
    rw [List.cons_append, Text.splitWhere]
    split
    · obtain ⟨pieces, last, hsplit, hlast⟩ := ih []
      exact ⟨piece :: pieces, last, by rw [hsplit, List.cons_append], hlast⟩
    · exact ih _

theorem endsWith_slash_eq_false_iff {path : String} :
    path.endsWith "/" = false ↔ ¬['/'] <:+ path.toList := by
  rw [← String.endsWith_toSlice, String.Slice.endsWith_string_eq_false_iff, String.copy_toSlice]
  rfl

theorem components_eq_concat {path : String} (hpath : path.isEmpty = false)
    (hend : path.endsWith "/" = false) :
    ∃ earlier last, components path = earlier ++ [last] ∧ last.isEmpty = false := by
  rw [String.isEmpty_eq_false_iff, ne_eq, ← String.toList_eq_nil_iff] at hpath
  rw [endsWith_slash_eq_false_iff] at hend
  obtain ⟨text, c, htext⟩ : ∃ text c, path.toList = text ++ [c] :=
    (List.eq_nil_or_concat' _).resolve_left hpath
  have hc : (c == '/') = false := by
    rw [beq_eq_false_iff_ne]
    rintro rfl
    exact hend (htext ▸ List.suffix_append text _)
  obtain ⟨pieces, last, hsplit, hlast⟩ := splitWhere_concat (· == '/') hc [] text
  refine ⟨pieces.map String.ofList, String.ofList last, ?_, ?_⟩
  · rw [components, Text.splitAt, htext, hsplit, List.map_append, List.map_singleton]
  · simpa using hlast

/-! ## Reading and writing -/

variable {path text : String}

theorem not_isEmpty_of_checkPath (h : checkPath path = .ok ()) : path.isEmpty = false := by
  cases hempty : path.isEmpty with
  | false => rfl
  | true =>
    rw [checkPath, hempty] at h
    split at h <;> cases h

theorem fromUTF8?_toUTF8 (text : String) : String.fromUTF8? text.toUTF8 = some text := by
  rw [String.fromUTF8?, String.toUTF8_eq_toByteArray, dif_pos text.isValidUTF8]
  rfl

theorem read_eq_ok_iff : tree.read path = .ok text ↔
    checkPath path = .ok () ∧ ∃ place, tree.find (components path) = .ok (.file place) ∧
      (tree.bytes? place).bind String.fromUTF8? = some text := by
  rw [read]
  cases checkPath path with
  | error failure => simp [except_error_bind]
  | ok =>
    rw [and_iff_right rfl, except_ok_bind]
    cases tree.find (components path) with
    | error failure => simp [except_error_bind]
    | ok found =>
      rw [except_ok_bind]
      cases found with
      | directory | vacant place => simp
      | file place =>
        dsimp only
        cases hbytes : (tree.bytes? place).bind String.fromUTF8? with
        | none => simp [hbytes]
        | some found => simp [hbytes]

theorem of_write_eq_ok {tree' : FileTree} (h : tree.write path text = .ok tree') :
    checkPath path = .ok () ∧ path.endsWith "/" = false ∧
      ∃ place, (tree.find (components path) = .ok (.file place) ∨
        tree.find (components path) = .ok (.vacant place)) ∧ tree' = tree.put place text.toUTF8 := by
  rw [write] at h
  obtain ⟨_, hcheck, h⟩ := of_except_bind_eq_ok h
  refine ⟨hcheck, ?_⟩
  split at h
  · obtain ⟨found, -, h⟩ := of_except_bind_eq_ok h
    cases found <;> cases h
  next hend =>
    obtain ⟨found, hfound, h⟩ := of_except_bind_eq_ok h
    refine ⟨Bool.eq_false_iff.mpr hend, ?_⟩
    cases found with
    | directory => cases h
    | file place => exact ⟨place, .inl hfound, (Except.ok.inj h).symm⟩
    | vacant place => exact ⟨place, .inr hfound, (Except.ok.inj h).symm⟩

/-- One tree is another one with a text in the file at a place, and otherwise the same. -/
structure Written (tree : FileTree) (path : String) (place : List String) (text : String)
    (tree' : FileTree) : Prop where
  led : tree.find (components path) = .ok (.file place) ∨
    tree.find (components path) = .ok (.vacant place)
  leads : tree'.find (components path) = .ok (.file place)
  bytes_written : tree'.bytes? place = some text.toUTF8
  bytes_kept : ∀ other, other ≠ place → tree'.bytes? other = tree.bytes? other
  directories_kept : tree'.directories = tree.directories
  work_kept : tree'.work = tree.work
  reads_written : tree'.read path = .ok text
  reads_kept : ∀ other, tree'.find (components other) ≠ .ok (.file place) →
    ∀ found, tree'.read other = .ok found ↔ tree.read other = .ok found

theorem find_put_self {name : String} (h : Writable tree here name) (bytes : ByteArray)
    (hpath : path.isEmpty = false) (hend : path.endsWith "/" = false)
    (hled : tree.find (components path) = .ok (.file (here ++ [name])) ∨
      tree.find (components path) = .ok (.vacant (here ++ [name]))) :
    (tree.put (here ++ [name]) bytes).find (components path) = .ok (.file (here ++ [name])) := by
  rcases find_put h bytes (components path) with hsame | ⟨rest, hsuffix, hbefore, hafter⟩
  · rcases hled with hfile | hvacant
    · exact hsame.trans hfile
    · have hnone := hasFile_of_find_vacant (hsame.trans hvacant)
      exact absurd (hasFile_put.mpr (.inl rfl)) (Bool.eq_false_iff.mp hnone)
  · have hblank : rest.all String.isEmpty = true := by
      by_contra hnot
      rw [hbefore, if_neg hnot] at hled
      rcases hled with h | h <;> cases h
    -- nothing blank is left at the end of a path that ends with a name
    obtain ⟨earlier, last, hcomponents, hlast⟩ := components_eq_concat hpath hend
    rw [hcomponents] at hsuffix
    rcases List.suffix_concat_iff.mp hsuffix with rfl | ⟨init, rfl, -⟩
    · exact hafter
    · simp [hlast] at hblank

theorem read_put {name : String} (h : Writable tree here name)
    (hpath : (tree.put (here ++ [name]) bytes).find (components path) ≠ .ok (.file (here ++ [name]))) :
    (tree.put (here ++ [name]) bytes).read path = .ok text ↔ tree.read path = .ok text := by
  rw [read_eq_ok_iff, read_eq_ok_iff]
  refine and_congr_right fun _ => exists_congr fun place => ?_
  rcases find_put h bytes (components path) with hsame | ⟨rest, -, hbefore, hafter⟩
  · rw [hsame] at hpath ⊢
    refine and_congr_right fun hplace => ?_
    rw [bytes?_put_of_ne fun heq : place = here ++ [name] => hpath (heq ▸ hplace)]
  · rw [hafter] at hpath ⊢
    rw [hbefore]
    refine iff_of_false (fun h => ?_) fun h => ?_
    · split at h
      · exact hpath (if_pos ‹_›)
      · cases h.1
    · split at h <;> cases h.1

theorem written_of_write {tree' : FileTree} (h : tree.write path text = .ok tree') :
    ∃ place, Written tree path place text tree' := by
  obtain ⟨hcheck, hend, place, hled, rfl⟩ := of_write_eq_ok h
  obtain ⟨here, name, rfl, hwritable⟩ := writable_of_find hled
  have hleads := find_put_self hwritable text.toUTF8 (not_isEmpty_of_checkPath hcheck) hend hled
  have hread : (tree.put (here ++ [name]) text.toUTF8).read path = .ok text := by
    refine read_eq_ok_iff.mpr ⟨hcheck, _, hleads, ?_⟩
    rw [bytes?_put_self, Option.bind_some, fromUTF8?_toUTF8]
  exact ⟨_, hled, hleads, bytes?_put_self, fun _ hne => bytes?_put_of_ne hne, rfl, rfl, hread,
    fun _ hother _ => read_put hwritable hother⟩

end FileTree

end WireErrors
