import WireErrors.Proofs.Formatted.Implementations
import WireErrors.Proofs.Formatted.Types
import WireErrors.Proofs.ErrorModule.Files

/-!
# Formatted files

The text of a whole file as it is formatted: the attributes at its top, the import and the items behind
them. Declared names stand in it in literals and in documentation, and only as documentation is a name
written as it is. A carriage return in a name may then keep the file from being read again
(`read_generateFile_iff`).
-/

namespace WireErrors

open Source Layout
open Source.Reader hiding word body

namespace Formatted

open ErrorTypes Decoder ErrorModule

variable {policy : Policy} {model : Model} {unknown : String}

/-! ## The attributes at the top -/

/-- The lints that a file allows. -/
def allowedLints : List (List String) := [["missing_docs"], ["dead_code"], ["clippy", "all"]]

/-- The attribute that allows a lint, of which the first sign touches the next one. -/
def allowTokens (lint : List String) : List Token :=
  .mark '#' true :: .mark '!' false ::
    Token.group .bracket (.ident "allow" :: Token.group .paren (Token.path lint))

/-- The attributes at the top of a file, each with its tokens. -/
def headerTokens : List (List Token) :=
  docTokens true " Error types generated from the service model".toList ::
    docTokens true " @generated".toList :: allowedLints.map allowTokens

theorem fileLines_docOfFile {text : String} {c : Char} {comment : List Char}
    (hcomment : (Attribute.docOfFile text).comment? = some (c :: comment))
    (hstep : ∀ rest, readStep (c :: (comment ++ '\n' :: rest)) =
      some (docTokens true text.toList, '\n' :: rest)) :
    FileLines (Attribute.docOfFile text).layout true (· = docTokens true text.toList) := by
  have hlayout : (Attribute.docOfFile text).layout =
      word (String.ofList (c :: comment)) ++ hardBreak := by
    rw [Attribute.layout, hcomment]
  rw [hlayout]
  refine fileLines_text fun rest result hread => ?_
  exact .step (hstep rest) (by simp) (.blank (by decide) hread)

theorem fileLines_allowInFile : ∀ lint ∈ allowedLints,
    FileLines (Attribute.allowInFile lint).layout true (· = allowTokens lint) := by
  have hscore : ∀ lint ∈ allowedLints, outcomes .apart (listAttributeNotes true "allow"
      (Token.path lint)) = some [(⟨false, some true, true⟩, allowTokens lint)] := by
    simp only [allowedLints, List.forall_mem_cons]
    exact ⟨rfl, rfl, rfl, List.forall_mem_nil _⟩
  intro lint hlint
  have hline := hscore lint hlint
  simp only [allowedLints, List.mem_cons, List.not_mem_nil, or_false] at hlint
  rcases hlint with rfl | rfl | rfl <;> exact fileLines_listAttribute hline rfl rfl rfl rfl rfl

theorem fileLines_header : FileLines (innerLayout headerAttributes) true (· = headerTokens.flatten) := by
  have htitle : FileLines (Attribute.docOfFile " Error types generated from the service model").layout
      true (· = docTokens true " Error types generated from the service model".toList) :=
    fileLines_docOfFile rfl fun _ => rfl
  have hmark : FileLines (Attribute.docOfFile " @generated").layout true
      (· = docTokens true " @generated".toList) := fileLines_docOfFile rfl fun _ => rfl
  have hlints := fileLines_allowInFile
  rw [allowedLints, List.forall_mem_cons, List.forall_mem_cons, List.forall_mem_singleton] at hlints
  have hlayout : innerLayout headerAttributes =
      (Attribute.docOfFile " Error types generated from the service model").layout ++
        ((Attribute.docOfFile " @generated").layout ++ ((Attribute.allowInFile ["missing_docs"]).layout ++
          ((Attribute.allowInFile ["dead_code"]).layout ++
            (Attribute.allowInFile ["clippy", "all"]).layout))) := by
    simp [innerLayout, headerAttributes, Attribute.docOfFile, Attribute.allowInFile]
  rw [hlayout]
  refine (htitle.append (hmark.append (hlints.1.append (hlints.2.1.append hlints.2.2)))).imp ?_
  rintro _ ⟨_, _, rfl, ⟨_, _, rfl, ⟨_, _, rfl, ⟨_, _, rfl, rfl, rfl⟩, rfl⟩, rfl⟩, rfl⟩
  simp [headerTokens, allowedLints]

theorem yields_headerTokens (depth rounds : Nat) : ∃ attributes, ∀ rest, startsInner rest = false →
    Yields (innerAttributes (Reader.readers depth)) (rounds + 12) (headerTokens.flatten ++ rest)
      attributes rest := by
  refine (exists_many ?_ (show 5 < rounds + 12 by omega)).imp fun attributes hattributes rest hrest =>
    hattributes rest ?_
  · simp only [headerTokens, allowedLints, List.map_cons, List.map_nil, List.forall_mem_cons]
    exact ⟨⟨_, fun _ => rfl⟩, ⟨_, fun _ => rfl⟩, ⟨_, fun _ => rfl⟩, ⟨_, fun _ => rfl⟩,
      ⟨_, fun _ => rfl⟩, List.forall_mem_nil _⟩
  · refine .bind (yields_get _ _) ?_
    split
    · cases hrest
    · rfl

/-! ## Imports -/

/-- The names of a path with the separators between them. -/
def importNotes : List String → List Note
  | [] => []
  | [name] => [.text [.word name]]
  | name :: names => .text [.word name, .fixed "::"] :: importNotes names

theorem layout_ofNames {names : List String} (h : names ≠ []) :
    (Import.ofNames names).layout = layoutOf (importNotes names) := by
  fun_induction importNotes names with
  | case1 => exact absurd rfl h
  | case2 name =>
    simp [Import.ofNames, Import.layout, layoutOf, Note.piece, Part.joined, Part.text, word]
  | case3 name names hmore ih =>
    rw [ofNames_cons hmore, Import.layout, ih hmore]
    simp [layoutOf, Note.piece, Part.joined, Part.text, word]

theorem words_importNotes (names : List String) : (importNotes names).flatMap Note.words = names := by
  fun_induction importNotes names with
  | case1 => rfl
  | case2 name => rfl
  | case3 name names hmore ih =>
    rw [List.flatMap_cons, ih]
    rfl

theorem known_importNotes (names : List String) : (importNotes names).all Note.isKnown = true := by
  fun_induction importNotes names with
  | case1 => rfl
  | case2 name => rfl
  | case3 name names hmore ih =>
    rw [List.all_cons, ih]
    rfl

theorem closed_importNotes (names : List String) : closesAt 0 (layoutOf (importNotes names)) = true := by
  fun_induction importNotes names with
  | case1 => rfl
  | case2 name => rfl
  | case3 name names hmore ih => exact ih

theorem outcomes_importNotes {names : List String} (h : names ≠ []) :
    outcomes .apart (importNotes names ++ [Note.text [.fixed ";"]]) =
      some [(.word, (Import.ofNames names).tokens ++ Token.sign ";")] := by
  fun_induction importNotes names with
  | case1 => exact absurd rfl h
  | case2 name => rfl
  | case3 name names hmore ih =>
    rw [List.cons_append, outcomes, ih hmore, tokens_ofNames_cons hmore]
    rfl

/-- The import of a path up to the end of its line. -/
def useNotes (absolute : Bool) (names : List String) : List Note :=
  .text [.fixed (if absolute then "use ::" else "use ")] ::
    (importNotes names ++ [Note.text [.fixed ";"]])

theorem scored_use {names : List String} (h : ImportPath names) (absolute : Bool) :
    Scored (layoutOf (useNotes absolute names)) .apart (· = (importOf absolute names).tokens) := by
  have hscore : outcomes .apart (useNotes absolute names) =
      some [(.word, (importOf absolute names).tokens)] := by
    have htokens := tokens_use absolute (.ofNames names) []
    rw [List.append_nil] at htokens
    rw [useNotes, outcomes, outcomes_importNotes h.nonempty, htokens]
    cases absolute <;> rfl
  refine .of _ rfl hscore ?_ ?_ ?_ ?_ (List.forall_mem_singleton.mpr rfl)
  · rw [useNotes, List.all_cons, List.all_append, known_importNotes]
    cases absolute <;> rfl
  · rw [useNotes, List.flatMap_cons, List.flatMap_append, words_importNotes]
    simpa [Note.words, Part.word?] using h.spelled
  · have hend : closesAt 0 [.text ";"] = true := rfl
    have hclosed := closesAt_append (closed_importNotes names) hend
    rw [useNotes, layoutOf, List.map_cons, List.map_append]
    exact hclosed
  · rw [useNotes, List.foldl_cons, List.foldl_append]
    rfl

theorem fileLines_use {names : List String} (h : ImportPath names) (hself : "Self" ∉ names)
    (absolute : Bool) :
    FileLines (importOf absolute names).layout true (Phrase Anything itemAt) := by
  have hlayout : (importOf absolute names).layout = layoutOf (useNotes absolute names) ++ hardBreak := by
    rw [Item.layout, layout_ofNames h.nonempty]
    cases absolute <;> simp [useNotes, layoutOf, outerLayout, Visibility.layout, Note.piece, Part.joined,
      Part.text, word]
  have hphrase : Phrase Anything itemAt (importOf absolute names).tokens := {
    reads := fun depth rounds hrounds => by
      have hnames := length_le_importOf absolute names
      refine ⟨importOf absolute names, fun rest _ => ?_, fun rest => ?_, fun _ => trivial⟩
      · exact yields_item_use h.nonempty (h.importable hself) (by omega) absolute rest
      · rw [tokens_use]
        rfl
    balanced := (readable_importOf h absolute).balanced
    plain := fun rest => by
      rw [tokens_use]
      rfl }
  rw [hlayout]
  refine (((scored_use h absolute).readsAs true).fileLines endsLine_hardBreak rfl).imp ?_
  rintro _ rfl
  exact hphrase

/-! ## Items -/

/-- Tokens that are read as items. -/
def ItemTokens (tokens : List Token) : Prop :=
  ∃ parts : List (List Token), (∀ part ∈ parts, Phrase Anything itemAt part) ∧
    tokens = parts.flatten

theorem fileLines_cons {item : Item} {items : List Item} {first rest : Bool}
    (hitem : FileLines item.layout first (Phrase Anything itemAt))
    (hitems : FileLines (Item.listLayout items) rest ItemTokens) :
    FileLines (Item.listLayout (item :: items)) (first && rest) ItemTokens := by
  rw [Item.listLayout]
  refine (hitem.append hitems).imp ?_
  rintro _ ⟨part, _, hpart, ⟨parts, hparts, rfl⟩, rfl⟩
  exact ⟨part :: parts, List.forall_mem_cons.mpr ⟨hpart, hparts⟩, rfl⟩

theorem fileLines_append {front back : List Item} {legal : Bool}
    (hfront : ∀ item ∈ front, FileLines item.layout true (Phrase Anything itemAt))
    (hback : FileLines (Item.listLayout back) legal ItemTokens) :
    FileLines (Item.listLayout (front ++ back)) legal ItemTokens := by
  induction front with
  | nil => exact hback
  | cons item front ih =>
    rw [List.forall_mem_cons] at hfront
    have hitems := fileLines_cons hfront.1 (ih hfront.2)
    rwa [Bool.true_and] at hitems

theorem fileLines_noItems : FileLines (Item.listLayout []) true ItemTokens :=
  fileLines_nil.imp fun _ htokens => ⟨[], List.forall_mem_nil _, htokens⟩

theorem fileLines_importItems (hnamed : Named policy model unknown)
    (hself : importsSelf policy.conformance = false) :
    ∀ item ∈ importItems policy.conformance, FileLines item.layout true (Phrase Anything itemAt) := by
  intro item hitem
  obtain ⟨absolute, names, rfl, hpath, hmeets⟩ := of_mem_importItems hnamed hitem
  refine fileLines_use hpath (fun hmem => ?_) absolute
  rw [hmeets.mpr hmem] at hself
  cases hself

theorem isSpelled_expected (hnamed : Named policy model unknown) :
    isSpelled policy.conformance.expected = true := by
  cases hconformance : policy.conformance with
  | custom library interface => exact (hnamed.interface library interface hconformance).spelled
  | display => decide
  | none => decide

theorem fileLines_optionSet (hnamed : Named policy model unknown) :
    ∀ item ∈ optionSet (namesFor model policy unknown) policy.conformance
        policy.conformance.expected (declaredFor model.sortedNames),
      FileLines item.layout true (Phrase Anything itemAt) := by
  have hne : optionSetMembers model ≠ [] :=
    List.append_ne_nil_of_right_ne_nil _ (List.cons_ne_nil _ _)
  rw [optionSet_eq]
  refine List.forall_mem_append.mpr ⟨List.forall_mem_cons.mpr
    ⟨fileLines_optionSetRecord hnamed.optionSet (isSpelled_expected hnamed), ?_⟩,
      fileLines_conformanceImpl hnamed.optionSet hnamed.interface⟩
  exact List.forall_mem_singleton.mpr
    (fileLines_inherent hnamed.optionSet hne (lines_optionSetMembers hnamed))

theorem fileLines_errorMembers (strategy : Strategy) (hnamed : Named policy model unknown) :
    FileLines (implementation none model.errorType
      (errorMembers strategy policy model unknown)).layout true (Phrase Anything itemAt) := by
  have hne : errorMembers strategy policy model unknown ≠ [] :=
    List.append_ne_nil_of_right_ne_nil _ (List.cons_ne_nil _ _)
  exact fileLines_inherent hnamed.error hne
    (List.forall_mem_append.mpr ⟨lines_decoder strategy hnamed, lines_accessors hnamed⟩)

/-- **The items of a file are read as such, if all declared names can be written**, and else nothing is
read. -/
theorem fileLines_fileItems (strategy : Strategy) (hnamed : Named policy model unknown)
    (hself : importsSelf policy.conformance = false) :
    FileLines (Item.listLayout (fileItems strategy policy policy.conformance.expected model unknown))
      (model.sortedNames.all isWritable) ItemTokens := by
  let types := namesFor model policy unknown
  let declared := declaredFor model.sortedNames
  have hitems : fileItems strategy policy policy.conformance.expected model unknown =
      importItems policy.conformance ++
        (optionSet types policy.conformance policy.conformance.expected declared ++
          errorEnum types policy.serializable declared ::
            ([implementation none model.errorType (errorMembers strategy policy model unknown)] ++
              (displayItems policy model unknown ++ []))) := by
    simp [fileItems, itemsFor, types, declared]
  have hback := fileLines_append (List.forall_mem_singleton.mpr (fileLines_errorMembers strategy hnamed))
    (fileLines_append (fileLines_displayItems hnamed) fileLines_noItems)
  have henum := fileLines_cons (fileLines_errorEnum hnamed) hback
  rw [Bool.and_true] at henum
  rw [hitems]
  exact fileLines_append (fileLines_importItems hnamed hself)
    (fileLines_append (fileLines_optionSet hnamed) henum)

/-! ## Reading a file again -/

/-- A text that starts with a comment is read as the file of its tokens, or not at all. -/
theorem read_of_reading {code : String} {chars : List Char} (hchars : code.toList = '/' :: chars)
    {tokens : List Token} (hbalanced : Balanced tokens) {legal : Bool}
    (hread : Reading code.toList (if legal then some tokens else none)) :
    File.read code = if legal then (File.ofTokens tokens).map fun file => { file with loader := none }
      else .error .unreadable := by
  have hmark : ∀ c ∈ code.toList.head?, c ≠ '\ufeff' := by
    rw [hchars]
    rintro c hc rfl
    cases hc
  have hloader : ∀ rest, code.toList ≠ '#' :: '!' :: rest := by
    rw [hchars]
    nofun
  unfold File.read
  rw [withoutByteOrderMark_of_ne hmark, loaderLine_of_ne hloader]
  dsimp only
  cases legal with
  | true =>
    rw [Reads.readChars_eq hread hmark hbalanced]
    rfl
  | false =>
    rw [Reading.readChars_eq_none hread hmark]
    rfl

theorem balanced_headerTokens : Balanced headerTokens.flatten := balanced_iff.mpr rfl

section

variable {items : List Item} {legal : Bool}

/-- The text of a formatted file is one way to write its lines. -/
theorem runs_formatted (hitems : FileLines (Item.listLayout items) legal ItemTokens) :
    Runs fileLine (innerLayout headerAttributes ++ Item.listLayout items ++ [Piece.closing])
      (Layout.render (File.layout ⟨none, headerAttributes, items⟩)).toList := by
  have hlines := fileLines_header.append hitems
  have htall : ∀ rest, tallAt 0 (innerLayout headerAttributes ++ Item.listLayout items ++ rest) =
      true := fun _ => rfl
  exact runs_file hlines.closed htall nofun

/-- **The text of a formatted file is read as its attributes and items**, or not at all. -/
theorem exists_reading (hitems : FileLines (Item.listLayout items) legal ItemTokens) :
    ∃ chars tokens, ItemTokens tokens ∧
      (Layout.render (File.layout ⟨none, headerAttributes, items⟩)).toList = '/' :: chars ∧
      Reading ('/' :: chars) (if legal then some (headerTokens.flatten ++ tokens) else none) := by
  have hlines := fileLines_header.append hitems
  have hruns := runs_formatted hitems
  obtain ⟨_, ⟨_, tokens, rfl, htokens, rfl⟩, hread⟩ := hlines.reading hruns
  obtain ⟨more, hbody⟩ : ∃ more, innerLayout headerAttributes ++ Item.listLayout items ++ [Piece.closing] =
      .text "//! Error types generated from the service model" :: more := ⟨_, rfl⟩
  rw [Bool.true_and] at hread
  rw [hbody] at hruns
  generalize (Layout.render (File.layout ⟨none, headerAttributes, items⟩)).toList = out at hruns hread ⊢
  obtain ⟨behind, rfl⟩ := Runs.exists_of_text hruns
  exact ⟨_, tokens, htokens, rfl, hread⟩

theorem written_formatted (hitems : FileLines (Item.listLayout items) legal ItemTokens) {item : Item}
    (hitem : item ∈ items) {text : String} (htext : .text text ∈ item.layout) :
    text.toList <:+: (Layout.render (File.layout ⟨none, headerAttributes, items⟩)).toList := by
  have hmem : .text text ∈ Item.listLayout items := by
    clear hitems
    induction items with
    | nil => cases hitem
    | cons first items ih =>
      rw [Item.listLayout, List.mem_append]
      rcases List.mem_cons.mp hitem with rfl | hitem
      · exact .inl htext
      · exact .inr (ih hitem)
  exact (runs_formatted hitems).written_of_mem
    (List.mem_append_left _ (List.mem_append_right _ hmem))

end

theorem balanced_itemTokens {tokens : List Token} (h : ItemTokens tokens) : Balanced tokens := by
  obtain ⟨parts, hparts, rfl⟩ := h
  exact balanced_flatten fun part hpart => (hparts part hpart).balanced

theorem exists_ofTokens_file {tokens : List Token} (h : ItemTokens tokens) :
    ∃ file, File.ofTokens (headerTokens.flatten ++ tokens) = .ok file := by
  obtain ⟨parts, hparts, rfl⟩ := h
  exact exists_ofTokens (show 12 ≤ headerTokens.flatten.length by decide) yields_headerTokens hparts

/-! ## Generated files -/

section

variable {strategy : Strategy} {target code : String}

theorem formatted_of_generateFile
    (h : (generateFile (strategy.delegate target policy) model unknown).result = .ok code) :
    Named policy model unknown ∧ importsSelf policy.conformance = false ∧
      code = Layout.render (File.layout ⟨none, headerAttributes,
        fileItems strategy policy policy.conformance.expected model unknown⟩) := by
  have hemitted := emitted_of_generateFile h
  obtain ⟨hnamed, hblocks⟩ := fileBlocks_of_emitted hemitted
  have hself : importsSelf policy.conformance = false := by
    rw [Bool.eq_false_iff]
    intro hself
    rw [generateFile_refused hemitted hself] at h
    cases h
  refine ⟨hnamed, hself, ?_⟩
  rw [result_generateFile hemitted, hblocks, Draft.finish, read_fileParts strategy _ hnamed hself] at h
  unfold File.format? at h
  dsimp only at h
  split at h
  next text htext =>
    split at htext
    next => exact (Except.ok.inj h).symm.trans (Option.some.inj htext).symm
    next => cases htext
  next => cases h

theorem read_iff_isWritable
    (h : (generateFile (strategy.delegate target policy) model unknown).result = .ok code) :
    (∃ file, File.read code = .ok file) ↔ ∀ name ∈ model.errorNames, isWritable name = true := by
  obtain ⟨hnamed, hself, rfl⟩ := formatted_of_generateFile h
  obtain ⟨chars, tokens, htokens, hchars, hread⟩ :=
    exists_reading (fileLines_fileItems strategy hnamed hself)
  have hbalanced := balanced_headerTokens.append (balanced_itemTokens htokens)
  have hall : model.sortedNames.all isWritable = true ↔
      ∀ name ∈ model.errorNames, isWritable name = true := by
    simp only [List.all_eq_true, mem_sortedNames]
  rw [← hchars] at hread
  rw [read_of_reading hchars hbalanced hread, ← hall]
  cases model.sortedNames.all isWritable with
  | true =>
    obtain ⟨file, hfile⟩ := exists_ofTokens_file htokens
    rw [if_pos rfl, hfile]
    exact iff_of_true ⟨_, rfl⟩ rfl
  | false =>
    refine iff_of_false ?_ Bool.false_ne_true
    rintro ⟨file, hfile⟩
    cases hfile

theorem written_comment
    (h : (generateFile (strategy.delegate target policy) model unknown).result = .ok code)
    {name : String} (hname : name ∈ model.errorNames) {comment : List Char}
    (hcomment : docComment? false (variantText name).toList = some comment) :
    comment <:+: code.toList := by
  obtain ⟨hnamed, hself, rfl⟩ := formatted_of_generateFile h
  have hitem : errorEnum (namesFor model policy unknown) policy.serializable
      (declaredFor model.sortedNames) ∈
        fileItems strategy policy policy.conformance.expected model unknown := by
    simp [fileItems, itemsFor]
  have hwritten := written_formatted (fileLines_fileItems strategy hnamed hself) hitem
    (mem_errorEnum (mem_sortedNames.mpr hname) hcomment)
  rwa [String.toList_ofList] at hwritten

end

/-- **A generated file is read again exactly if no comment of a declared name has a carriage return in
it that no line feed follows.** Names are escaped in all literals, but their comments are in the file as
they are. A comment without such a carriage return ends exactly where it should, and is read as its
text; with one it makes the whole file unreadable. -/
theorem read_generateFile_iff {strategy : Strategy} {target : String} {policy : Policy} {model : Model}
    {unknown code : String}
    (h : (generateFile (strategy.delegate target policy) model unknown).result = .ok code) :
    ((∃ file, File.read code = .ok file) ↔ ∀ name ∈ model.errorNames, ∀ comment,
      docComment? false (variantText name).toList = some comment → noBareReturn comment = true) ∧
    ∀ name ∈ model.errorNames, ∀ comment,
      docComment? false (variantText name).toList = some comment → comment <:+: code.toList ∧
        ∀ rest, readStep (comment ++ '\n' :: rest) = if noBareReturn comment then
          some (docTokens false (docBody (variantText name).toList), '\n' :: rest) else none := by
  refine ⟨?_, fun name hname comment hcomment => ⟨written_comment h hname hcomment, fun rest => ?_⟩⟩
  · rw [read_iff_isWritable h]
    exact forall₂_congr fun name _ => isWritable_iff name
  · rw [noBareReturn_docComment (enclosable_variantText name) hcomment]
    exact readStep_docComment (enclosable_variantText name) hcomment rest

/-- A carriage return with a line feed behind it is written in a block comment. -/
theorem read_generateFile_lineEnd : ∃ code,
    (generateFile (Strategy.matching.delegate "custom" (.plain .display))
      ⟨"Example", ["Access\r\nDenied"]⟩ "UnknownError").result = .ok code ∧
      ∃ file, File.read code = .ok file := by
  have hresult : (emit (Strategy.matching.delegate "custom" (.plain .display))
      ⟨"Example", ["Access\r\nDenied"]⟩ "UnknownError").result = .ok () := by
    rw [result_emit]
    unfold stage
    dsimp only
    rw [sortedNames_singleton]
    rfl
  obtain ⟨code, hcode⟩ := exists_generateFile hresult rfl
  refine ⟨code, hcode, (read_generateFile_iff hcode).1.mpr ?_⟩
  exact List.forall_mem_singleton.mpr ((isWritable_iff "Access\r\nDenied").mp (by decide))

/-- A carriage return alone makes a file unreadable that was generated without any refusal. -/
theorem read_generateFile_return : ∃ code,
    (generateFile (Strategy.matching.delegate "custom" (.plain .display))
      ⟨"Example", ["Thr\rottling"]⟩ "UnknownError").result = .ok code ∧
      ¬∃ file, File.read code = .ok file := by
  have hresult : (emit (Strategy.matching.delegate "custom" (.plain .display))
      ⟨"Example", ["Thr\rottling"]⟩ "UnknownError").result = .ok () := by
    rw [result_emit]
    unfold stage
    dsimp only
    rw [sortedNames_singleton]
    rfl
  obtain ⟨code, hcode⟩ := exists_generateFile hresult rfl
  refine ⟨code, hcode, fun hread => ?_⟩
  have hwritable := (read_iff_isWritable hcode).mp hread "Thr\rottling" (List.mem_singleton_self _)
  exact (isWritable_line (by decide)).mp hwritable (by decide)

end Formatted

end WireErrors
