import WireErrors.Proofs.ErrorModule.Blocks
import WireErrors.Proofs.ErrorModule.Layouts
import WireErrors.Proofs.Source.Grammar.Imports

/-!
# Files of error modules

The blocks of a module behind the attributes at the top of a file are read as one file and formatted,
unless the import of the module meets a word that paths may hold and imports may not: the type that an
item is about. This word is all that keeps an emitted module from being formatted
(`generateFile_iff`).
-/

namespace WireErrors

open Source Source.Reader

namespace ErrorModule

open ErrorTypes Decoder

variable {policy : Policy} {model : Model} {unknown : String} {rest : List Token}

/-! ## The attributes at the top -/

/-- The attributes at the top of a file. -/
def headerAttributes : List Attribute :=
  [.docOfFile " Error types generated from the service model", .docOfFile " @generated",
   .allowInFile ["missing_docs"], .allowInFile ["dead_code"], .allowInFile ["clippy", "all"]]

theorem header_eq : header = Token.render (attributeTokens headerAttributes) := rfl

open scoped Spelled in
theorem readable_header : Readable (attributeTokens headerAttributes) := by
  refine readable_of ?_ rfl rfl
  simp +decide [headerAttributes, Attribute.docOfFile, Attribute.allowInFile]

theorem plainAttributes_header : PlainAttributes headerAttributes := by
  simp [headerAttributes]

theorem yields_header (depth rounds : Nat) (hrest : startsInner rest = false) :
    Yields (innerAttributes (Reader.readers depth)) (rounds + 12)
      (attributeTokens headerAttributes ++ rest) headerAttributes rest := by
  rw [attributeTokens]
  refine yields_many (fun a ha rest => ?_) ?_ ?_
  · simp only [headerAttributes, List.mem_cons, List.not_mem_nil, or_false] at ha
    rcases ha with rfl | rfl | rfl | rfl | rfl <;> rfl
  · refine .bind (yields_get _ _) ?_
    split
    · cases hrest
    · rfl
  · show 5 < rounds + 12
    omega

/-! ## Imports -/

theorem readable_ofNames {names : List String} (hne : names ≠ [])
    (hnames : ∀ name ∈ names, isSpelled name = true) : Readable (Import.ofNames names).tokens := by
  induction names with
  | nil => exact absurd rfl hne
  | cons name names ih =>
    rw [List.forall_mem_cons] at hnames
    by_cases hlast : names = []
    · rw [hlast]
      exact .ident hnames.1 readable_nil
    · have hseparator : Readable (Token.sign "::") :=
        readable_of (words_sign _) rfl rfl
      rw [tokens_ofNames_cons hlast]
      exact .ident hnames.1 (hseparator.append (ih hlast hnames.2))

theorem length_le_ofNames (names : List String) :
    names.length ≤ (Import.ofNames names).tokens.length := by
  induction names with
  | nil => exact Nat.zero_le _
  | cons name names ih =>
    by_cases hlast : names = []
    · rw [hlast]
      exact Nat.le_refl 1
    · rw [tokens_ofNames_cons hlast]
      simp only [List.length_cons]
      omega

/-- Names of a path that an import is made from. -/
structure ImportPath (names : List String) : Prop where
  nonempty : names ≠ []
  spelled : ∀ name ∈ names, isSpelled name = true
  segments : ∀ name ∈ names, isSegment name = true

theorem ImportPath.importable {names : List String} (h : ImportPath names) (hself : "Self" ∉ names) :
    ∀ name ∈ names, Importable name := fun name hname =>
  importable_of_isSegment (h.segments name hname) fun heq => hself (heq ▸ hname)

/-- The item that imports the end of a path. -/
abbrev importOf (absolute : Bool) (names : List String) : Item :=
  .use [] .inherited absolute (.ofNames names)

theorem readable_importOf {names : List String} (h : ImportPath names) (absolute : Bool) :
    Readable (importOf absolute names).tokens := by
  have hroot : Readable (signIf absolute "::") := by
    cases absolute with
    | false => exact readable_nil
    | true => exact readable_of (words_sign _) rfl rfl
  have hend : Readable [.mark ';' false] :=
    ⟨.mark (by decide) .nil, balanced_iff.mpr rfl⟩
  rw [← List.append_nil (importOf absolute names).tokens, tokens_use]
  exact .ident (by decide) (hroot.append ((readable_ofNames h.nonempty h.spelled).append hend))

theorem length_le_importOf (absolute : Bool) (names : List String) :
    names.length ≤ (importOf absolute names).tokens.length := by
  have hlength := length_le_ofNames names
  rw [← List.append_nil (importOf absolute names).tokens, tokens_use]
  simp only [List.length_cons, List.length_append]
  omega

/-- The import that comes first in a module, if there is one. -/
def importItems : Conformance → List Item
  | .custom library interface =>
    (Path.ofText? library).toList.map fun path => conformanceImport path interface
  | .display => []
  | .none => []

/-- Whether a trait is imported along a path that has the type in it that an item is about. -/
def importsSelf : Conformance → Bool
  | .custom library _ => (Path.ofText? library).any fun path => path.segments.contains "Self"
  | .display => false
  | .none => false

theorem eq_of_imports {conformance : Conformance} {imports : List String}
    (h : Imports conformance imports) :
    imports = (importItems conformance).map fun item => ErrorTypes.text [item] := by
  cases conformance with
  | display => exact h
  | none => exact h
  | custom library interface =>
    obtain ⟨path, hpath, rfl⟩ := h
    rw [importItems, hpath]
    rfl

/-- Without an import there is nothing to meet, and an import meets what its path has in it. -/
theorem importItems_cases {conformance : Conformance}
    (hinterface : ∀ library interface, conformance = .custom library interface → IsName interface) :
    importItems conformance = [] ∧ importsSelf conformance = false ∨
      ∃ absolute names, importItems conformance = [importOf absolute names] ∧ ImportPath names ∧
        (importsSelf conformance = true ↔ "Self" ∈ names) := by
  cases conformance with
  | display => exact .inl ⟨rfl, rfl⟩
  | none => exact .inl ⟨rfl, rfl⟩
  | custom library interface =>
    have hname := hinterface library interface rfl
    cases hpath : Path.ofText? library with
    | none => exact .inl (by simp [importItems, importsSelf, hpath])
    | some path =>
      obtain ⟨-, hsegments⟩ := Path.of_ofText?_eq_some hpath
      have hself : "Self" ≠ interface := by
        rintro rfl
        exact absurd hname.word (by decide)
      refine .inr ⟨path.absolute, path.segments ++ [interface], ?_, ⟨by simp, ?_, ?_⟩, ?_⟩
      · rw [importItems, hpath]
        rfl
      · exact List.forall_mem_append.mpr ⟨fun name h => (hsegments name h).1,
          List.forall_mem_singleton.mpr hname.spelled⟩
      · exact List.forall_mem_append.mpr ⟨fun name h => (hsegments name h).2,
          List.forall_mem_singleton.mpr (by simp [isSegment, hname.word])⟩
      · simp [importsSelf, hpath, hself]

theorem of_mem_importItems (hnamed : Named policy model unknown) {item : Item}
    (hitem : item ∈ importItems policy.conformance) :
    ∃ absolute names, item = importOf absolute names ∧ ImportPath names ∧
      (importsSelf policy.conformance = true ↔ "Self" ∈ names) := by
  rcases importItems_cases hnamed.interface with ⟨hnone, -⟩ | ⟨absolute, names, himport, hpath, hmeets⟩
  · rw [hnone] at hitem
    cases hitem
  · rw [himport] at hitem
    exact ⟨absolute, names, List.mem_singleton.mp hitem, hpath, hmeets⟩

/-! ## Reading an import -/

theorem ofTokens_importOf_refused {names : List String} {absolute : Bool} {tokens : List Token}
    {attributes : List Attribute} (h : ImportPath names) (hself : "Self" ∈ names)
    (hlength : (importOf absolute names).tokens.length ≤ tokens.length)
    (hattributes : Yields (innerAttributes (Reader.readers (4 * (tokens.length + 1))))
      (tokens.length + 1) tokens attributes ((importOf absolute names).tokens ++ rest)) :
    File.ofTokens tokens = .error (.expected false importStarts) := by
  have hrounds : names.length ≤ tokens.length + 1 :=
    Nat.le_succ_of_le (Nat.le_trans (length_le_importOf absolute names) hlength)
  refine ofTokens_refuses hattributes ?_ ?_
  · rw [tokens_use]
    rfl
  · exact refuses_item_use h.segments hself hrounds absolute rest

theorem ofTokens_importOf {names : List String} (h : ImportPath names) (hself : "Self" ∉ names)
    (absolute : Bool) : File.ofTokens (importOf absolute names).tokens =
      .ok { attributes := [], items := [importOf absolute names] } := by
  refine ofTokens_eq ?_ ?_ ?_ ?_
  · rw [List.flatMap_singleton]
    refine yields_no_innerAttributes ?_
    rw [← List.append_nil (Item.tokens _), tokens_use]
    rfl
  · refine List.forall_mem_singleton.mpr fun rest => ?_
    exact yields_item_use h.nonempty (h.importable hself)
      (Nat.le_succ_of_le (length_le_importOf absolute names)) absolute rest
  · refine List.forall_mem_singleton.mpr fun rest => ?_
    rw [tokens_use]
    rfl
  · rw [← List.append_nil (Item.tokens _), tokens_use]
    simp

theorem read_importOf_iff {names : List String} (h : ImportPath names) (absolute : Bool) :
    (∃ file, File.read (ErrorTypes.text [importOf absolute names]) = .ok file) ↔
      "Self" ∉ names := by
  have hitem : (importOf absolute names).tokens = .ident "use" :: (signIf absolute "::" ++
      ((Import.ofNames names).tokens ++ [.mark ';' false])) := by
    rw [← tokens_use, List.append_nil]
  have hhead : (importOf absolute names).tokens.head? ≠ some (.mark '#' true) := by
    rw [hitem]
    simp
  rw [ErrorTypes.text, List.flatMap_singleton, read_render_eq (readable_importOf h absolute) hhead]
  by_cases hself : "Self" ∈ names
  · have hattributes : Yields
        (innerAttributes (Reader.readers (4 * ((importOf absolute names).tokens.length + 1))))
        ((importOf absolute names).tokens.length + 1) (importOf absolute names).tokens []
        ((importOf absolute names).tokens ++ []) := by
      rw [List.append_nil]
      refine yields_no_innerAttributes ?_
      rw [hitem]
      rfl
    rw [ofTokens_importOf_refused h hself (Nat.le_refl _) hattributes]
    refine iff_of_false ?_ (not_not_intro hself)
    rintro ⟨file, hfile⟩
    cases hfile
  · rw [ofTokens_importOf h hself absolute]
    exact iff_of_true ⟨_, rfl⟩ hself

/-! ## Reading a file -/

section

variable (strategy : Strategy) (policy : Policy) (expected : String) (model : Model)
  (unknown : String)

/-- The items of a file. -/
def fileItems : List Item :=
  importItems policy.conformance ++ itemsFor strategy policy expected model unknown

/-- The tokens of a file. -/
def fileTokens : List Token :=
  attributeTokens headerAttributes ++
    (fileItems strategy policy expected model unknown).flatMap Item.tokens

/-- The tokens of each block of a file. -/
def fileParts : List (List Token) :=
  attributeTokens headerAttributes :: ((importItems policy.conformance).map Item.tokens ++
    partsFor strategy policy expected model unknown)

theorem flatten_fileParts : (fileParts strategy policy expected model unknown).flatten =
    fileTokens strategy policy expected model unknown := by
  unfold fileParts fileTokens fileItems
  rw [List.flatten_cons, List.flatten_append, flatten_partsFor, List.flatMap_append,
    ← List.flatMap_def]

theorem fileBlocks_eq {imports : List String} (himports : Imports policy.conformance imports)
    (target : String) :
    header :: blocksWith (strategy.delegate target policy) model unknown imports
        [Decoder.text (members strategy policy (casesFor model.sortedNames) unknown)] =
      (fileParts strategy policy policy.conformance.expected model unknown).map Token.render := by
  rw [blocksWith_eq, blocks_eq, eq_of_imports himports, header_eq]
  simp [fileParts, ErrorTypes.text]

end

variable (strategy : Strategy) (expected : String)

theorem readable_importItems (hnamed : Named policy model unknown) :
    ∀ item ∈ importItems policy.conformance, Readable item.tokens := by
  intro item hitem
  obtain ⟨absolute, names, rfl, hpath, -⟩ := of_mem_importItems hnamed hitem
  exact readable_importOf hpath absolute

theorem legible_fileParts (hnamed : Named policy model unknown) :
    ∀ part ∈ fileParts strategy policy expected model unknown, Legible part := by
  refine List.forall_mem_cons.mpr ⟨readable_header.legible, List.forall_mem_append.mpr ⟨?_, ?_⟩⟩
  · exact List.forall_mem_map.mpr fun item hitem => (readable_importItems hnamed item hitem).legible
  · exact legible_partsFor strategy expected hnamed

theorem balanced_file (hnamed : Named policy model unknown) :
    Balanced (fileTokens strategy policy expected model unknown) := by
  have himports := readable_flatMap (readable_importItems hnamed)
  rw [fileTokens, fileItems, List.flatMap_append]
  exact (readable_header.append (himports.append (readable_items strategy expected hnamed))).balanced

theorem startsInner_fileItems (hnamed : Named policy model unknown) :
    startsInner ((fileItems strategy policy expected model unknown).flatMap Item.tokens) = false := by
  rw [fileItems, List.flatMap_append]
  rcases importItems_cases hnamed.interface with ⟨hnone, -⟩ | ⟨absolute, names, himport, -, -⟩
  · rw [hnone]
    rfl
  · rw [himport, List.flatMap_singleton, tokens_use]
    rfl

/-- The blocks of a file are read as its attributes and items, if there is nothing that its import
meets. -/
theorem read_fileParts (hnamed : Named policy model unknown)
    (hself : importsSelf policy.conformance = false) :
    File.read (Draft.contents ⟨(fileParts strategy policy expected model unknown).map
        Token.render⟩) =
      .ok { attributes := headerAttributes,
            items := fileItems strategy policy expected model unknown } := by
  have hitems : ∀ item ∈ importItems policy.conformance, ∃ absolute names,
      item = importOf absolute names ∧ ImportPath names ∧ "Self" ∉ names := by
    intro item hitem
    obtain ⟨absolute, names, rfl, hpath, hmeets⟩ := of_mem_importItems hnamed hitem
    refine ⟨absolute, names, rfl, hpath, fun hmem => ?_⟩
    rw [hmeets.mpr hmem] at hself
    cases hself
  have hmodule : model.sortedNames.length + 12 ≤
      ((itemsFor strategy policy expected model unknown).flatMap Item.tokens).length :=
    length_items strategy expected
  refine read_file
    (model.sortedNames.length + ((importItems policy.conformance).flatMap Item.tokens).length)
    (legible_fileParts strategy expected hnamed) nofun
    (flatten_fileParts strategy policy expected model unknown)
    (balanced_file strategy expected hnamed)
    (fun depth rounds => yields_header depth rounds (startsInner_fileItems strategy expected hnamed))
    ?_ ?_ ?_
  · refine List.forall_mem_append.mpr ⟨fun item hitem => ?_, tokens_ne_nil strategy expected⟩
    obtain ⟨absolute, names, rfl, -, -⟩ := hitems item hitem
    rw [← List.append_nil (Item.tokens _), tokens_use]
    exact List.cons_ne_nil _ _
  · rw [fileItems, List.flatMap_append, List.length_append]
    omega
  · intro depth rounds hrounds
    refine List.forall_mem_append.mpr ⟨fun item hitem rest => ?_, yields_items hnamed (by omega)⟩
    have hlength : item.tokens.length ≤
        ((importItems policy.conformance).flatMap Item.tokens).length :=
      List.Sublist.length_le (List.sublist_flatten_of_mem (List.mem_map_of_mem hitem))
    obtain ⟨absolute, names, rfl, hpath, hmeets⟩ := hitems item hitem
    have hnames := length_le_importOf absolute names
    exact yields_item_use hpath.nonempty (hpath.importable hmeets) (by omega) absolute rest

theorem ofTokens_fileTokens_refused (hnamed : Named policy model unknown)
    (hself : importsSelf policy.conformance = true) :
    File.ofTokens (fileTokens strategy policy expected model unknown) =
      .error (.expected false importStarts) := by
  rcases importItems_cases hnamed.interface with ⟨-, hno⟩ | ⟨absolute, names, himport, hpath, hmeets⟩
  · rw [hno] at hself
    cases hself
  · have hitems : (fileItems strategy policy expected model unknown).flatMap Item.tokens =
        (importOf absolute names).tokens ++
          (itemsFor strategy policy expected model unknown).flatMap Item.tokens := by
      rw [fileItems, himport]
      rfl
    have hheader : 12 ≤ (attributeTokens headerAttributes).length := by decide
    have hlength : (fileTokens strategy policy expected model unknown).length =
        (attributeTokens headerAttributes).length + ((importOf absolute names).tokens.length +
          ((itemsFor strategy policy expected model unknown).flatMap Item.tokens).length) := by
      rw [fileTokens, List.length_append, hitems, List.length_append]
    have himportLength : (importOf absolute names).tokens.length ≤
        (fileTokens strategy policy expected model unknown).length := by omega
    obtain ⟨rounds, hrounds⟩ := Nat.exists_eq_add_of_le'
      (show 12 ≤ (fileTokens strategy policy expected model unknown).length + 1 by omega)
    have hattributes := yields_header
      (4 * ((fileTokens strategy policy expected model unknown).length + 1)) rounds
      (startsInner_fileItems strategy expected hnamed)
    rw [← hrounds, ← fileTokens, hitems] at hattributes
    exact ofTokens_importOf_refused hpath (hmeets.mp hself) himportLength hattributes

theorem read_fileParts_refused (hnamed : Named policy model unknown)
    (hself : importsSelf policy.conformance = true) :
    File.read (Draft.contents ⟨(fileParts strategy policy expected model unknown).map
        Token.render⟩) =
      .error (.expected false importStarts) := by
  have hflatten := flatten_fileParts strategy policy expected model unknown
  have hbalanced : Balanced (fileParts strategy policy expected model unknown).flatten :=
    hflatten ▸ balanced_file strategy expected hnamed
  rw [fileParts, read_contents_eq (legible_fileParts strategy expected hnamed) nofun hbalanced,
    ← fileParts, hflatten, ofTokens_fileTokens_refused strategy expected hnamed hself]
  rfl

/-! ## Formatting -/

theorem result_generateFile {delegate : Delegate}
    (h : (emit delegate model unknown).result = .ok ()) :
    (generateFile delegate model unknown).result =
      Draft.finish ⟨header :: (emit delegate model unknown).blocks⟩ := by
  have hfile : (emitFile delegate model unknown).result = .ok () := by
    rw [emitFile, Emission.result_bind, Emission.result_block]
    exact h
  have hblocks : (emitFile delegate model unknown).blocks =
      header :: (emit delegate model unknown).blocks := by
    rw [emitFile, Emission.blocks_bind_of_ok _ (Emission.result_block _), Emission.blocks_block]
    rfl
  unfold generateFile
  dsimp only
  rw [Emission.result_bind, Emission.result_staged, hfile, hblocks]
  show (Emission.ofExcept _ >>= _).result = _
  rw [Emission.result_bind, Emission.result_ofExcept]
  cases Draft.finish ⟨header :: (emit delegate model unknown).blocks⟩ <;> rfl

theorem emitted_of_generateFile {delegate : Delegate} {code : String}
    (h : (generateFile delegate model unknown).result = .ok code) :
    (emit delegate model unknown).result = .ok () := by
  unfold generateFile emitFile at h
  dsimp only at h
  rw [Emission.result_bind, Emission.result_staged, Emission.result_bind,
    Emission.result_block] at h
  cases hresult : (emit delegate model unknown).result with
  | ok => rfl
  | error failure =>
    rw [hresult] at h
    cases h

theorem complete_importItems (conformance : Conformance) :
    ∀ item ∈ importItems conformance, Layout.Complete item.layout := by
  cases conformance with
  | display => nofun
  | none => nofun
  | custom library interface => exact List.forall_mem_map.mpr fun path _ => complete_use _ _

theorem exists_format_fileItems (strategy : Strategy) (policy : Policy) (expected : String)
    (model : Model) (unknown : String) :
    ∃ text, File.format? (.mk none headerAttributes
      (fileItems strategy policy expected model unknown)) = some text :=
  exists_format plainAttributes_header (List.forall_mem_append.mpr
    ⟨complete_importItems policy.conformance, complete_itemsFor strategy expected⟩)

section

variable {strategy : Strategy} {target : String}

theorem fileBlocks_of_emitted
    (h : (emit (strategy.delegate target policy) model unknown).result = .ok ()) :
    Named policy model unknown ∧
      header :: (emit (strategy.delegate target policy) model unknown).blocks =
        (fileParts strategy policy policy.conformance.expected model unknown).map Token.render := by
  obtain ⟨imports, hstaged, hblocks⟩ := of_emit_eq_ok h
  refine ⟨hstaged.named, ?_⟩
  rw [hblocks, hstaged.blocks_routine]
  exact fileBlocks_eq strategy policy model unknown hstaged.imports_emitted target

theorem exists_generateFile
    (h : (emit (strategy.delegate target policy) model unknown).result = .ok ())
    (hself : importsSelf policy.conformance = false) :
    ∃ code, (generateFile (strategy.delegate target policy) model unknown).result = .ok code := by
  obtain ⟨hnamed, hblocks⟩ := fileBlocks_of_emitted h
  obtain ⟨code, hcode⟩ := exists_format_fileItems strategy policy policy.conformance.expected model
    unknown
  refine ⟨code, ?_⟩
  rw [result_generateFile h, hblocks, Draft.finish, read_fileParts strategy _ hnamed hself]
  dsimp only
  rw [hcode]

theorem generateFile_refused
    (h : (emit (strategy.delegate target policy) model unknown).result = .ok ())
    (hself : importsSelf policy.conformance = true) :
    (generateFile (strategy.delegate target policy) model unknown).result =
      .error (.refused (.formatting ("generated code does not parse: " ++
        (SyntaxError.expected false importStarts).message))) := by
  obtain ⟨hnamed, hblocks⟩ := fileBlocks_of_emitted h
  rw [result_generateFile h, hblocks, Draft.finish, read_fileParts_refused strategy _ hnamed hself]

theorem read_imports_iff {imports : List String} (hnamed : Named policy model unknown)
    (himports : Imports policy.conformance imports) :
    ∀ text ∈ imports,
      (∃ file, File.read text = .ok file) ↔ importsSelf policy.conformance = false := by
  rw [eq_of_imports himports]
  refine List.forall_mem_map.mpr fun item hitem => ?_
  obtain ⟨absolute, names, rfl, hpath, hmeets⟩ := of_mem_importItems hnamed hitem
  rw [read_importOf_iff hpath, ← hmeets, Bool.not_eq_true]

end

/-- **What is emitted can be formatted, unless its import meets the type that an item is about.** Then
neither the import nor the file is read; of all texts in a module, only this one decides. -/
theorem generateFile_iff {strategy : Strategy} {target : String} {policy : Policy} {model : Model}
    {unknown : String}
    (h : (emit (strategy.delegate target policy) model unknown).result = .ok ()) :
    ((∃ code, (generateFile (strategy.delegate target policy) model unknown).result = .ok code) ↔
      importsSelf policy.conformance = false) ∧
    (importsSelf policy.conformance = true →
      (generateFile (strategy.delegate target policy) model unknown).result =
        .error (.refused (.formatting ("generated code does not parse: " ++
          (SyntaxError.expected false importStarts).message)))) ∧
    ∃ imports blocks,
      (emit (strategy.delegate target policy) model unknown).blocks = imports ++ blocks ∧
      Imports policy.conformance imports ∧
      ∀ text ∈ imports,
        (∃ file, File.read text = .ok file) ↔ importsSelf policy.conformance = false := by
  refine ⟨⟨?_, exists_generateFile h⟩, generateFile_refused h, ?_⟩
  · rintro ⟨code, hcode⟩
    rw [Bool.eq_false_iff]
    intro hself
    rw [generateFile_refused h hself] at hcode
    cases hcode
  · obtain ⟨imports, hstaged, hblocks⟩ := of_emit_eq_ok h
    rw [blocksWith_eq] at hblocks
    exact ⟨imports, _, hblocks, hstaged.imports_emitted,
      read_imports_iff hstaged.named hstaged.imports_emitted⟩

theorem sortedNames_singleton (baseName name : String) :
    Model.sortedNames ⟨baseName, [name]⟩ = [name] :=
  List.mergeSort_of_pairwise (List.pairwise_singleton _ name)

theorem generateFile_iff_throttling :
    (emit (Strategy.matching.delegate "rust"
        ⟨.custom "smithy::errors" "RecoverableError", false, true, true⟩)
        ⟨"Example", ["Throttling"]⟩ "UnknownError").result = .ok () ∧
      ∃ code, (generateFile (Strategy.matching.delegate "rust"
        ⟨.custom "smithy::errors" "RecoverableError", false, true, true⟩)
        ⟨"Example", ["Throttling"]⟩ "UnknownError").result = .ok code := by
  have hresult : (emit (Strategy.matching.delegate "rust"
      ⟨.custom "smithy::errors" "RecoverableError", false, true, true⟩)
      ⟨"Example", ["Throttling"]⟩ "UnknownError").result = .ok () := by
    rw [result_emit]
    unfold stage
    dsimp only
    rw [sortedNames_singleton]
    rfl
  exact ⟨hresult, (generateFile_iff hresult).1.mpr rfl⟩

/-- The type that an item is about is a path to import from, but no import. -/
theorem generateFile_self_refused :
    (emit (Strategy.matching.delegate "custom" (.plain (.custom "Self" "RecoverableError")))
        ⟨"Example", ["Throttling"]⟩ "UnknownError").result = .ok () ∧
      ∃ message, (generateFile (Strategy.matching.delegate "custom"
          (.plain (.custom "Self" "RecoverableError"))) ⟨"Example", ["Throttling"]⟩
          "UnknownError").result = .error (.refused (.formatting message)) := by
  have hresult : (emit (Strategy.matching.delegate "custom"
      (.plain (.custom "Self" "RecoverableError"))) ⟨"Example", ["Throttling"]⟩
      "UnknownError").result = .ok () := by
    rw [result_emit]
    unfold stage
    dsimp only
    rw [sortedNames_singleton]
    rfl
  exact ⟨hresult, _, generateFile_refused hresult rfl⟩

end ErrorModule

end WireErrors
