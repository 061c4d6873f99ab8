import WireErrors.ModelFile
import WireErrors.Proofs.Splitting

/-!
# The lines of model files

Reading a model file passes over its well-formed lines and collects the names that they declare
(`namesIn_append_of_wellFormed`); it stops at the first line that is not well-formed. What comes out is
so given by the lines alone (`errorNames_eq_ok_iff`, `errorNames_eq_error_iff`). Only the trimmed lines
matter (`namesIn_congr`), which is why a carriage return before a line feed changes nothing, and lines
that are skipped move the count of those behind them (`namesIn_insert`). A line that is not skipped is
well-formed exactly if it holds one word (`wellFormed_iff_blankSeparated`).
-/

namespace WireErrors.ModelFile

open Text

/-! ## Lines -/

def linesOf (contents : String) : List (List Char) := splitAt '\n' contents.toList

/-- Lines with line feeds between them. -/
def joinLines (lines : List (List Char)) : String := String.ofList (List.intercalate ['\n'] lines)

/-- Whether a line is blank or a comment. -/
def Skipped (line : List Char) : Prop := trim line = [] ∨ (trim line).head? = some '#'

instance (line : List Char) : Decidable (Skipped line) := inferInstanceAs (Decidable (_ ∨ _))

/-- Whether a line is skipped or holds a single name. -/
def WellFormed (line : List Char) : Prop := Skipped line ∨ ∀ c ∈ trim line, isBlank c = false

instance (line : List Char) : Decidable (WellFormed line) :=
  @instDecidableOr _ _ _ (List.decidableBAll _ _)

/-- What the lines that are not skipped declare. -/
def declared (lines : List (List Char)) : List String :=
  (lines.filter fun line => ¬Skipped line).map fun line => String.ofList (trim line)

theorem linesOf_joinLines {lines : List (List Char)} (hne : lines ≠ [])
    (h : ∀ line ∈ lines, '\n' ∉ line) : linesOf (joinLines lines) = lines := by
  rw [linesOf, joinLines, String.toList_ofList, splitAt_intercalate hne h]

theorem joinLines_linesOf (contents : String) : joinLines (linesOf contents) = contents := by
  rw [joinLines, linesOf, (splitAt_eq_iff.mp rfl).2.2, String.ofList_toList]

theorem not_mem_of_mem_linesOf {contents : String} :
    ∀ line ∈ linesOf contents, '\n' ∉ line :=
  (splitAt_eq_iff.mp rfl).2.1

theorem declared_cons_of_skipped {line : List Char} (h : Skipped line) (rest : List (List Char)) :
    declared (line :: rest) = declared rest := by
  rw [declared, List.filter_cons_of_neg (by simpa using h)]
  rfl

theorem declared_cons_of_not_skipped {line : List Char} (h : ¬Skipped line)
    (rest : List (List Char)) :
    declared (line :: rest) = String.ofList (trim line) :: declared rest := by
  rw [declared, List.filter_cons_of_pos (by simpa using h)]
  rfl

theorem declared_of_skipped {lines : List (List Char)} (h : ∀ line ∈ lines, Skipped line) :
    declared lines = [] := by
  rw [declared, List.filter_eq_nil_iff.mpr fun line hline => by simpa using h line hline]
  rfl

/-! ### Words -/

/-- The words of a text, which any number of blanks separates. -/
def blankSeparated (text : List Char) : List (List Char) :=
  (splitWhere isBlank [] text).filter (!·.isEmpty)

theorem flatten_splitWhere (separates : Char → Bool) (piece text : List Char) :
    (splitWhere separates piece text).flatten = piece ++ text.filter (!separates ·) := by
  induction text generalizing piece with
  | nil => simp [splitWhere]
  | cons c text ih =>
    rw [splitWhere]
    split
    next hc => simp [ih, hc]
    next hc => simp [ih, hc]

theorem flatten_blankSeparated (text : List Char) :
    (blankSeparated text).flatten = text.filter (!isBlank ·) := by
  rw [blankSeparated, List.flatten_filter_not_isEmpty, flatten_splitWhere, List.nil_append]

theorem blankSeparated_append {word : List Char} (hne : word ≠ [])
    (hword : ∀ d ∈ word, isBlank d = false) {c : Char} (hc : isBlank c = true) (rest : List Char) :
    blankSeparated (word ++ c :: rest) = word :: blankSeparated rest := by
  rw [blankSeparated, splitWhere_append hword, List.nil_append, splitWhere, if_pos hc,
    List.filter_cons_of_pos (by simpa using hne)]
  rfl

theorem length_blankSeparated_le_one {text : List Char} (h : ∀ c ∈ text, isBlank c = false) :
    (blankSeparated text).length ≤ 1 := by
  have hsplit : splitWhere isBlank [] (text ++ []) = [text] := splitWhere_append h
  rw [List.append_nil] at hsplit
  exact (List.length_filter_le _ _).trans_eq (congrArg List.length hsplit)

theorem one_lt_length_blankSeparated_iff {text : List Char} (htight : Tight text) :
    1 < (blankSeparated text).length ↔ ∃ c ∈ text, isBlank c = true := by
  constructor
  · intro h
    by_contra hnone
    have hblank : ∀ c ∈ text, isBlank c = false := by simpa using hnone
    exact absurd (length_blankSeparated_le_one hblank) (Nat.not_le.mpr h)
  · intro h
    obtain ⟨c, hfind⟩ := Option.isSome_iff_exists.mp (List.find?_isSome.mpr h)
    obtain ⟨hc, word, rest, rfl, hword⟩ := List.find?_eq_some_iff_append.mp hfind
    have hword : ∀ d ∈ word, isBlank d = false := by simpa using hword
    -- the first and the last character are not blank, so there are words on both sides
    have hne : word ≠ [] := by
      rintro rfl
      exact absurd hc (by simp [htight.1 c rfl])
    have hrest : blankSeparated rest ≠ [] := by
      intro hnil
      have hflat := flatten_blankSeparated rest
      rw [hnil, List.flatten_nil, eq_comm, List.filter_eq_nil_iff] at hflat
      have hlast := htight.2 ((c :: rest).getLast (List.cons_ne_nil c rest))
        (by rw [List.getLast?_append_of_ne_nil _ (List.cons_ne_nil c rest)]
            exact List.getLast?_eq_some_getLast _)
      rcases List.mem_cons.mp (List.getLast_mem (List.cons_ne_nil c rest)) with hfirst | hmem
      · rw [hfirst, hc] at hlast
        cases hlast
      · exact hflat _ hmem (by simp [hlast])
    rw [blankSeparated_append hne hword hc, List.length_cons]
    exact Nat.succ_lt_succ (List.length_pos_of_ne_nil hrest)

theorem wellFormed_iff_blankSeparated {line : List Char} :
    WellFormed line ↔ Skipped line ∨ (blankSeparated (trim line)).length ≤ 1 := by
  refine or_congr_right' fun _ => ?_
  rw [← Nat.not_lt, one_lt_length_blankSeparated_iff (tight_trim line)]
  simp

/-! ## Steps -/

theorem namesIn_of_skipped {line : List Char} (h : Skipped line) (number : Nat)
    (rest : List (List Char)) : namesIn number (line :: rest) = namesIn (number + 1) rest := by
  rw [namesIn]
  split
  · rfl
  · rfl
  next hnil hhash =>
    rcases h with hempty | hcomment
    · exact absurd hempty hnil
    · obtain ⟨rest, hrest⟩ := List.head?_eq_some_iff.mp hcomment
      exact absurd hrest (hhash rest)

theorem namesIn_of_not_skipped {line : List Char} (h : ¬Skipped line) (number : Nat)
    (rest : List (List Char)) :
    namesIn number (line :: rest) =
      if WellFormed line then
        (namesIn (number + 1) rest).map (String.ofList (trim line) :: ·)
      else .error (number, String.ofList (trim line)) := by
  have hblank : WellFormed line ↔ ¬(trim line).any isBlank = true := by
    simp [WellFormed, h]
  rw [namesIn]
  split
  next hempty => exact absurd (.inl hempty) h
  next hcomment => exact absurd (.inr (by rw [hcomment]; rfl)) h
  next => simp only [hblank, ite_not]

theorem namesIn_congr {lines others : List (List Char)} (h : lines.map trim = others.map trim)
    (number : Nat) : namesIn number lines = namesIn number others := by
  induction lines generalizing number others with
  | nil => rw [List.map_eq_nil_iff.mp h.symm]
  | cons line rest ih =>
    cases others with
    | nil => cases h
    | cons other others =>
      obtain ⟨htrim, hrest⟩ := List.cons.inj h
      simp only [namesIn, htrim, ih hrest]

/-! ## Runs -/

theorem namesIn_append_of_wellFormed {earlier : List (List Char)}
    (h : ∀ line ∈ earlier, WellFormed line) (number : Nat) (rest : List (List Char)) :
    namesIn number (earlier ++ rest) =
      (namesIn (number + earlier.length) rest).map (declared earlier ++ ·) := by
  induction earlier generalizing number with
  | nil => cases hrest : namesIn number rest <;> simp [hrest, Except.map, declared]
  | cons line earlier ih =>
    rw [List.forall_mem_cons] at h
    have hlength : number + (line :: earlier).length = number + 1 + earlier.length := by
      rw [List.length_cons]
      omega
    rw [List.cons_append, hlength]
    by_cases hskipped : Skipped line
    · rw [namesIn_of_skipped hskipped, ih h.2, declared_cons_of_skipped hskipped]
    · rw [namesIn_of_not_skipped hskipped, if_pos h.1, ih h.2, declared_cons_of_not_skipped hskipped]
      cases namesIn (number + 1 + earlier.length) rest <;> rfl

/-- Lines are well-formed throughout or up to a first one that is not. -/
theorem wellFormed_or_exists_first (lines : List (List Char)) :
    (∀ line ∈ lines, WellFormed line) ∨ ∃ earlier line later, lines = earlier ++ line :: later ∧
      (∀ line ∈ earlier, WellFormed line) ∧ ¬WellFormed line := by
  cases hfind : lines.find? fun line => ¬WellFormed line with
  | none => exact .inl (by simpa using List.find?_eq_none.mp hfind)
  | some line =>
    obtain ⟨hline, earlier, later, hlines, hearlier⟩ := List.find?_eq_some_iff_append.mp hfind
    exact .inr ⟨earlier, line, later, hlines, by simpa using hearlier, by simpa using hline⟩

theorem namesIn_of_wellFormed {lines : List (List Char)} (h : ∀ line ∈ lines, WellFormed line)
    (number : Nat) : namesIn number lines = .ok (declared lines) := by
  have happend := namesIn_append_of_wellFormed h number []
  rw [List.append_nil] at happend
  rw [happend]
  simp [namesIn, Except.map]

theorem namesIn_of_first {earlier : List (List Char)} (h : ∀ line ∈ earlier, WellFormed line)
    {line : List Char} (hline : ¬WellFormed line) (number : Nat) (later : List (List Char)) :
    namesIn number (earlier ++ line :: later) =
      .error (number + earlier.length, String.ofList (trim line)) := by
  have hskipped : ¬Skipped line := fun hskipped => hline (.inl hskipped)
  rw [namesIn_append_of_wellFormed h, namesIn_of_not_skipped hskipped, if_neg hline]
  rfl

theorem errorNames_eq_ok_iff {contents : String} {names : List String} :
    errorNames contents = .ok names ↔
      (∀ line ∈ linesOf contents, WellFormed line) ∧ names = declared (linesOf contents) := by
  rw [errorNames, ← linesOf]
  rcases wellFormed_or_exists_first (linesOf contents) with h | ⟨earlier, line, later, hlines, h, hline⟩
  · rw [namesIn_of_wellFormed h, Except.ok.injEq, and_iff_right h, eq_comm]
  · rw [hlines, namesIn_of_first h hline]
    refine iff_of_false nofun fun hall => hline (hall.1 line ?_)
    exact List.mem_append_right _ List.mem_cons_self

theorem errorNames_eq_error_iff {contents : String} {number : Nat} {content : String} :
    errorNames contents = .error (number, content) ↔
      ∃ earlier line later, linesOf contents = earlier ++ line :: later ∧
        (∀ line ∈ earlier, WellFormed line) ∧ ¬WellFormed line ∧
        number = earlier.length + 1 ∧ content = String.ofList (trim line) := by
  rw [errorNames, ← linesOf]
  constructor
  · intro herror
    rcases wellFormed_or_exists_first (linesOf contents) with h | ⟨earlier, line, later, hlines, h, hline⟩
    · rw [namesIn_of_wellFormed h] at herror
      cases herror
    · rw [hlines, namesIn_of_first h hline] at herror
      cases herror
      exact ⟨earlier, line, later, hlines, h, hline, Nat.add_comm _ _, rfl⟩
  · rintro ⟨earlier, line, later, hlines, h, hline, rfl, rfl⟩
    rw [hlines, namesIn_of_first h hline, Nat.add_comm]

/-! ## Names -/

/-- Whether a text stands for itself on a line of its own. -/
structure IsEntry (name : String) : Prop where
  ne_empty : name ≠ ""
  not_blank : ∀ c ∈ name.toList, isBlank c = false
  not_comment : name.toList.head? ≠ some '#'

theorem isEntry_of_mem_declared {lines : List (List Char)} (h : ∀ line ∈ lines, WellFormed line) :
    ∀ name ∈ declared lines, IsEntry name := by
  intro name hname
  obtain ⟨line, hline, rfl⟩ := List.mem_map.mp hname
  obtain ⟨hmem, hskipped⟩ := List.mem_filter.mp hline
  have hskipped : ¬Skipped line := by simpa using hskipped
  obtain ⟨hempty, hcomment⟩ := not_or.mp hskipped
  refine ⟨?_, ?_, ?_⟩
  · rwa [ne_eq, ← String.toList_eq_nil_iff, String.toList_ofList]
  · rw [String.toList_ofList]
    exact (h line hmem).resolve_left hskipped
  · rwa [String.toList_ofList]

theorem IsEntry.trim_eq {name : String} (h : IsEntry name) : trim name.toList = name.toList :=
  Tight.trim_eq ⟨fun c hc => h.not_blank c (List.mem_of_mem_head? hc),
    fun c hc => h.not_blank c (List.mem_of_mem_getLast? hc)⟩

theorem IsEntry.not_skipped {name : String} (h : IsEntry name) : ¬Skipped name.toList := by
  rw [Skipped, h.trim_eq, String.toList_eq_nil_iff]
  exact not_or.mpr ⟨h.ne_empty, h.not_comment⟩

theorem IsEntry.not_mem {name : String} (h : IsEntry name) : '\n' ∉ name.toList := by
  intro hmem
  have hblank := h.not_blank _ hmem
  revert hblank
  decide

theorem declared_map_toList {names : List String} (h : ∀ name ∈ names, IsEntry name) :
    declared (names.map String.toList) = names := by
  induction names with
  | nil => rfl
  | cons name names ih =>
    rw [List.forall_mem_cons] at h
    rw [List.map_cons, declared_cons_of_not_skipped h.1.not_skipped, h.1.trim_eq,
      String.ofList_toList, ih h.2]

theorem wellFormed_map_toList {names : List String} (h : ∀ name ∈ names, IsEntry name) :
    ∀ line ∈ names.map String.toList, WellFormed line := by
  refine List.forall_mem_map.mpr fun name hname => .inr ?_
  rw [(h name hname).trim_eq]
  exact (h name hname).not_blank

theorem errorNames_of_linesOf {contents : String} {lines : List (List Char)}
    (hlines : linesOf contents = lines) (h : ∀ line ∈ lines, WellFormed line) :
    errorNames contents = .ok (declared lines) :=
  errorNames_eq_ok_iff.mpr ⟨hlines ▸ h, by rw [hlines]⟩

theorem errorNames_intercalate {names : List String} (h : ∀ name ∈ names, IsEntry name) :
    errorNames ("\n".intercalate names) = .ok names := by
  by_cases hne : names = []
  · subst hne
    rfl
  · have hlines : linesOf ("\n".intercalate names) = names.map String.toList := by
      rw [linesOf, String.toList_intercalate]
      exact splitAt_intercalate (by simpa using hne)
        (List.forall_mem_map.mpr fun name hname => (h name hname).not_mem)
    rw [errorNames_of_linesOf hlines (wellFormed_map_toList h), declared_map_toList h]

theorem linesOf_join {names : List String} (h : ∀ name ∈ names, IsEntry name) :
    linesOf (String.join (names.map (· ++ "\n"))) = names.map String.toList ++ [[]] := by
  induction names with
  | nil => rfl
  | cons name names ih =>
    rw [List.forall_mem_cons] at h
    have hname : splitAt '\n' name.toList = [name.toList] :=
      splitAt_eq_iff.mpr ⟨List.cons_ne_nil _ [], List.forall_mem_singleton.mpr h.1.not_mem,
        by simp [List.intercalate]⟩
    have hjoin : (String.join ((name :: names).map (· ++ "\n"))).toList =
        name.toList ++ '\n' :: (String.join (names.map (· ++ "\n"))).toList := by
      simp [String.toList_join]
    rw [linesOf, hjoin, splitAt_append, hname, ← linesOf, ih h.2]
    rfl

theorem errorNames_join {names : List String} (h : ∀ name ∈ names, IsEntry name) :
    errorNames (String.join (names.map (· ++ "\n"))) = .ok names := by
  have hlast : ∀ line ∈ names.map String.toList ++ [[]], WellFormed line := by
    rw [List.forall_mem_append, List.forall_mem_singleton]
    exact ⟨wellFormed_map_toList h, by decide⟩
  have hdeclared : declared (names.map String.toList ++ [[]]) = names := by
    have hempty : declared [[]] = [] := declared_of_skipped (by decide)
    rw [declared, List.filter_append, List.map_append, ← declared, ← declared, hempty,
      declared_map_toList h, List.append_nil]
  rw [errorNames_of_linesOf (linesOf_join h) hlast, hdeclared]

/-! ## Ends of lines -/

/-- Contents with a carriage return before each line feed. -/
def crlf (contents : String) : String :=
  String.ofList (contents.toList.flatMap fun c => if c = '\n' then ['\r', '\n'] else [c])

theorem map_trim_splitWhere_crlf (piece text : List Char) :
    (splitWhere (· == '\n') piece
        (text.flatMap fun c => if c = '\n' then ['\r', '\n'] else [c])).map trim =
      (splitWhere (· == '\n') piece text).map trim := by
  induction text generalizing piece with
  | nil => rfl
  | cons c text ih =>
    have hreturn : ('\r' == '\n') = false := by decide
    have hfeed : ('\n' == '\n') = true := by decide
    rw [List.flatMap_cons]
    by_cases hc : c = '\n'
    -- the carriage return has become the last character of the piece that ends here
    · subst hc
      rw [if_pos rfl, List.cons_append, List.singleton_append, splitWhere, hreturn,
        if_neg Bool.false_ne_true, splitWhere, if_pos hfeed, splitWhere, if_pos hfeed, List.map_cons,
        List.map_cons, trim_append_blank (by decide), ih]
    · have hother : (c == '\n') = false := beq_false_of_ne hc
      rw [if_neg hc, List.singleton_append, splitWhere, hother, if_neg Bool.false_ne_true, splitWhere,
        hother, if_neg Bool.false_ne_true, ih]

theorem errorNames_crlf (contents : String) : errorNames (crlf contents) = errorNames contents := by
  rw [errorNames, errorNames, crlf, String.toList_ofList]
  exact namesIn_congr (map_trim_splitWhere_crlf [] contents.toList) 1

/-! ## Counting -/

theorem le_of_namesIn_eq_error {number reported : Nat} {content : String} {lines : List (List Char)}
    (h : namesIn number lines = .error (reported, content)) : number ≤ reported := by
  rcases wellFormed_or_exists_first lines with hall | ⟨earlier, line, later, rfl, hearlier, hline⟩
  · rw [namesIn_of_wellFormed hall] at h
    cases h
  · rw [namesIn_of_first hearlier hline] at h
    cases h
    exact Nat.le_add_right _ _

theorem namesIn_add (number shift : Nat) (lines : List (List Char)) :
    namesIn (number + shift) lines =
      (namesIn number lines).mapError fun (reported, content) => (reported + shift, content) := by
  rcases wellFormed_or_exists_first lines with hall | ⟨earlier, line, later, rfl, hearlier, hline⟩
  · rw [namesIn_of_wellFormed hall, namesIn_of_wellFormed hall]
    rfl
  · rw [namesIn_of_first hearlier hline, namesIn_of_first hearlier hline, Nat.add_right_comm]
    rfl

theorem namesIn_insert {inserted : List (List Char)} (h : ∀ line ∈ inserted, Skipped line)
    (number : Nat) (before after : List (List Char)) :
    namesIn number (before ++ inserted ++ after) =
      (namesIn number (before ++ after)).mapError fun (reported, content) =>
        (if number + before.length ≤ reported then reported + inserted.length else reported,
          content) := by
  rcases wellFormed_or_exists_first before with hall | ⟨earlier, line, later, rfl, hearlier, hline⟩
  -- a line that is reported stands behind the inserted ones
  · have hinserted := namesIn_append_of_wellFormed (fun line hline => .inl (h line hline))
      (number + before.length) after
    rw [List.append_assoc, namesIn_append_of_wellFormed hall, namesIn_append_of_wellFormed hall,
      hinserted, namesIn_add, declared_of_skipped h]
    cases hafter : namesIn (number + before.length) after with
    | ok names => rfl
    | error fault =>
      obtain ⟨reported, content⟩ := fault
      have hle := le_of_namesIn_eq_error hafter
      simp [Except.map, Except.mapError, hle]
  -- the reported line stands in front of them, whatever follows
  · have hlt : ¬number + (earlier ++ line :: later).length ≤ number + earlier.length := by
      rw [List.length_append, List.length_cons]
      omega
    rw [List.append_assoc, List.append_assoc, List.append_assoc, List.cons_append, List.cons_append,
      namesIn_of_first hearlier hline, namesIn_of_first hearlier hline, Except.mapError]
    dsimp only
    rw [if_neg hlt]

/-- **The line grammar of model files.** The names of a file are what its lines declare, in their
order; if a line is neither skipped nor a single name, the first such line is reported with its number,
which counts every line before it, and its trimmed text. A line that is not skipped is a single name
if blanks separate no two words in it. So the lists of names that can be read are
those of names that are not empty, hold no blank and do not start with `#`, and each of them is read
back from a file that holds one name per line. Carriage returns before the line feeds change nothing.
Skipped lines that are put in only move the number of a reported line behind them. -/
theorem errorNames_lineGrammar :
    (∀ contents, linesOf contents ≠ [] ∧ (∀ line ∈ linesOf contents, '\n' ∉ line) ∧
      joinLines (linesOf contents) = contents) ∧
    (∀ line, WellFormed line ↔ Skipped line ∨ (blankSeparated (trim line)).length ≤ 1) ∧
    (∀ contents names, errorNames contents = .ok names ↔
      (∀ line ∈ linesOf contents, WellFormed line) ∧ names = declared (linesOf contents)) ∧
    (∀ contents number content, errorNames contents = .error (number, content) ↔
      ∃ earlier line later, linesOf contents = earlier ++ line :: later ∧
        (∀ line ∈ earlier, WellFormed line) ∧ ¬WellFormed line ∧
        number = earlier.length + 1 ∧ content = String.ofList (trim line)) ∧
    (∀ path givenName contents, load path givenName (.ok contents) =
      ((errorNames contents).map fun names => ⟨givenName.getD (baseName path), names⟩).mapError
        fun (number, content) => .invalidLine path number content) ∧
    (∀ names, (∃ contents, errorNames contents = .ok names) ↔ ∀ name ∈ names, IsEntry name) ∧
    (∀ contents names, errorNames contents = .ok names →
      errorNames ("\n".intercalate names) = .ok names ∧
      errorNames (String.join (names.map (· ++ "\n"))) = .ok names) ∧
    (∀ contents, errorNames (crlf contents) = errorNames contents) ∧
    ∀ contents before inserted after, linesOf contents = before ++ after →
      (∀ line ∈ inserted, '\n' ∉ line ∧ Skipped line) →
      errorNames (joinLines (before ++ inserted ++ after)) =
        (errorNames contents).mapError fun (number, content) =>
          (if before.length < number then number + inserted.length else number, content) := by
  have hnames : ∀ contents names, errorNames contents = .ok names → ∀ name ∈ names, IsEntry name := by
    intro contents names h
    obtain ⟨hlines, rfl⟩ := errorNames_eq_ok_iff.mp h
    exact isEntry_of_mem_declared hlines
  refine ⟨fun contents => ⟨splitWhere_ne_nil _ _ _, not_mem_of_mem_linesOf, joinLines_linesOf contents⟩,
    fun _ => wellFormed_iff_blankSeparated, fun _ _ => errorNames_eq_ok_iff, fun _ _ _ => errorNames_eq_error_iff,
    fun path givenName contents => ?_, fun names => ⟨fun ⟨contents, h⟩ => hnames contents names h,
      fun h => ⟨_, errorNames_join h⟩⟩,
    fun contents names h => ⟨errorNames_intercalate (hnames contents names h),
      errorNames_join (hnames contents names h)⟩,
    errorNames_crlf, fun contents before inserted after hlines hinserted => ?_⟩
  · rw [load]
    cases errorNames contents <;> rfl
  · have hne : before ++ inserted ++ after ≠ [] := by
      have hnil := splitWhere_ne_nil (· == '\n') [] contents.toList
      rw [show splitWhere (· == '\n') [] contents.toList = _ from hlines] at hnil
      simp only [ne_eq, List.append_eq_nil_iff, not_and] at hnil ⊢
      exact fun h => hnil h.1
    have hfeed : ∀ line ∈ before ++ inserted ++ after, '\n' ∉ line := by
      have hbefore : ∀ line ∈ before ++ after, '\n' ∉ line := hlines ▸ not_mem_of_mem_linesOf
      simp only [List.forall_mem_append] at hbefore ⊢
      exact ⟨⟨hbefore.1, fun line hline => (hinserted line hline).1⟩, hbefore.2⟩
    have hread := namesIn_insert (fun line hline => (hinserted line hline).2) 1 before after
    rw [errorNames, ← linesOf, linesOf_joinLines hne hfeed, hread, errorNames, ← linesOf, hlines]
    simp only [Nat.add_comm 1, Nat.succ_le_iff]

/-- A comment behind the first line moves the line that is reported; names are read back. -/
theorem errorNames_lineGrammar_comment :
    errorNames (joinLines (["Throttling".toList] ++ ["# access".toList, []] ++
        ["Access Denied".toList])) = .error (4, "Access Denied") ∧
      errorNames ("\n".intercalate ["Throttling", "AccessDenied", "Throttling"]) =
        .ok ["Throttling", "AccessDenied", "Throttling"] := by
  obtain ⟨-, -, -, -, -, -, hwritten, -, hinsert⟩ := errorNames_lineGrammar
  have hread : errorNames "\tThrottling\r\n# access\n\n AccessDenied \nThrottling\n" =
      .ok ["Throttling", "AccessDenied", "Throttling"] := rfl
  refine ⟨?_, (hwritten _ _ hread).1⟩
  rw [hinsert "Throttling\nAccess Denied" _ _ _ rfl (by decide)]
  rfl

end WireErrors.ModelFile
