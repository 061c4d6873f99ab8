import WireErrors.Proofs.Source.Grammar.Expressions
import WireErrors.Proofs.Source.Inversion

/-!
# Reading imports

An import of a path is read back if all of its names can stand in an import. Paths may hold one more
keyword than imports, the type that an item is about, and an import is refused where it meets that
one (`refuses_importTree`).
-/

namespace WireErrors.Source

/-! ## Segments of paths -/

theorem of_segments?_eq_some {tokens : List Token} {names : List String}
    (h : segments? tokens = some names) :
    names ≠ [] ∧ ∀ name ∈ names, .ident name ∈ tokens ∧ isSegment name = true := by
  fun_induction segments? tokens generalizing names with
  | case1 name hsegment =>
    obtain rfl := Option.some.inj h
    refine ⟨List.cons_ne_nil _ _, fun other hother => ?_⟩
    rw [List.mem_singleton.mp hother]
    exact ⟨List.mem_cons_self, hsegment⟩
  | case2 => cases h
  | case3 name joint rest hsegment ih =>
    obtain ⟨others, hothers, rfl⟩ := Option.map_eq_some_iff.mp h
    refine ⟨List.cons_ne_nil _ _, List.forall_mem_cons.mpr ⟨⟨List.mem_cons_self, hsegment⟩, ?_⟩⟩
    intro other hother
    obtain ⟨hmem, hsegment⟩ := (ih hothers).2 other hother
    exact ⟨List.mem_cons_of_mem _ (List.mem_cons_of_mem _ (List.mem_cons_of_mem _ hmem)), hsegment⟩
  | case4 => cases h
  | case5 => cases h

theorem of_ofTokens?_eq_some {tokens : List Token} {path : Path}
    (h : Path.ofTokens? tokens = some path) :
    path.segments ≠ [] ∧
      ∀ name ∈ path.segments, .ident name ∈ tokens ∧ isSegment name = true := by
  unfold Path.ofTokens? at h
  split at h
  · obtain ⟨names, hnames, rfl⟩ := Option.map_eq_some_iff.mp h
    obtain ⟨hne, hall⟩ := of_segments?_eq_some hnames
    refine ⟨hne, fun name hname => ⟨?_, (hall name hname).2⟩⟩
    exact List.mem_cons_of_mem _ (List.mem_cons_of_mem _ (hall name hname).1)
  · obtain ⟨names, hnames, rfl⟩ := Option.map_eq_some_iff.mp h
    exact of_segments?_eq_some hnames

theorem Path.of_ofText?_eq_some {text : String} {path : Path} (h : Path.ofText? text = some path) :
    path.segments ≠ [] ∧
      ∀ name ∈ path.segments, isSpelled name = true ∧ isSegment name = true := by
  obtain ⟨tokens, hread, hpath⟩ := Option.bind_eq_some_iff.mp h
  obtain ⟨hne, hall⟩ := of_ofTokens?_eq_some hpath
  exact ⟨hne, fun name hname => ⟨isSpelled_of_mem_read hread (hall name hname).1, (hall name hname).2⟩⟩

/-! ## Tokens of imports -/

theorem ofNames_cons {name : String} {names : List String} (h : names ≠ []) :
    Import.ofNames (name :: names) = .inside name (.ofNames names) := by
  cases names with
  | nil => exact absurd rfl h
  | cons second names => rfl

theorem tokens_ofNames_cons {name : String} {names : List String} (h : names ≠ []) :
    (Import.ofNames (name :: names)).tokens =
      .ident name :: .mark ':' true :: .mark ':' false :: (Import.ofNames names).tokens := by
  rw [ofNames_cons h, Import.tokens]
  rfl

namespace Reader

variable {α β : Type} {rounds : Nat} {tokens middle rest : List Token} {a : α} {b : β}
  {error : SyntaxError}

/-! ## Refusals -/

/-- A reader refuses some tokens. -/
def Refuses (reader : Reader α) (rounds : Nat) (tokens : List Token) (error : SyntaxError) : Prop :=
  reader rounds tokens none = .error error

theorem Refuses.bind {reader : Reader α} (next : α → Reader β)
    (h : Refuses reader rounds tokens error) : Refuses (reader >>= next) rounds tokens error := by
  have hbind : (reader >>= next) rounds tokens none =
      Except.bind (reader rounds tokens none) fun r => next r.1.1 rounds r.1.2 r.2 := rfl
  unfold Refuses at h ⊢
  rw [hbind, h]
  rfl

theorem Yields.bind_refuses {reader : Reader α} {next : α → Reader β}
    (h : Yields reader rounds tokens a middle) (hnext : Refuses (next a) rounds middle error) :
    Refuses (reader >>= next) rounds tokens error := by
  have hbind : (reader >>= next) rounds tokens none =
      Except.bind (reader rounds tokens none) fun r => next r.1.1 rounds r.1.2 r.2 := rfl
  unfold Yields at h
  unfold Refuses at hnext ⊢
  rw [hbind, h]
  exact hnext

theorem Refuses.of_pos {c : Bool} {first second : Reader α} (hc : c = true)
    (h : Refuses first rounds tokens error) :
    Refuses (if c then first else second) rounds tokens error := by
  rw [hc]
  exact h

theorem Refuses.of_neg {c : Bool} {first second : Reader α} (hc : c = false)
    (h : Refuses second rounds tokens error) :
    Refuses (if c then first else second) rounds tokens error := by
  rw [hc]
  exact h

/-! ## Trees of imports -/

/-- Keywords that an import may hold. -/
def importKeywords : List String := ["self", "super", "crate", "try"]

/-- Whether a name can stand in an import. -/
def Importable (name : String) : Prop := isKeyword name = false ∨ name ∈ importKeywords

theorem importable_of_isSegment {name : String} (h : isSegment name = true) (hself : name ≠ "Self") :
    Importable name := by
  rcases Bool.or_eq_true_iff.mp h with hkeyword | hname
  · refine .inr ?_
    have hmem : name ∈ pathKeywords := by simpa using hkeyword
    simp only [pathKeywords, importKeywords, List.mem_cons, List.not_mem_nil, or_false] at hmem ⊢
    rcases hmem with rfl | rfl | rfl | rfl | rfl <;> simp_all
  · exact .inl (by simpa using hname)

theorem startsImport {name : String} (h : Importable name) (rest : List Token) :
    (startsWithName (.ident name :: rest) ||
      startsWithAnyWord ["self", "super", "crate", "try"] (.ident name :: rest)) = true := by
  rcases h with hname | hkeyword
  · rw [startsWithName_name hname, Bool.true_or]
  · simp only [importKeywords, List.mem_cons, List.not_mem_nil, or_false] at hkeyword
    rcases hkeyword with rfl | rfl | rfl | rfl <;> rfl

theorem yields_importName {name : String} (h : Importable name) (rest : List Token) :
    Yields (nameOr ["self", "super", "crate", "try"]) rounds (.ident name :: rest) name rest := by
  rcases h with hname | hkeyword
  · exact yields_nameOr hname (by decide)
  · simp only [importKeywords, List.mem_cons, List.not_mem_nil, or_false] at hkeyword
    rcases hkeyword with rfl | rfl | rfl | rfl <;> rfl

theorem yields_importInside {name : String} (h : Importable name) {depth : Nat} {rooted : Bool}
    {tree : Import} (htree : Yields (importTree depth false) rounds tokens (some tree) rest) :
    Yields (importTree (depth + 1) rooted) rounds
      (.ident name :: .mark ':' true :: .mark ':' false :: tokens) (some (.inside name tree)) rest := by
  refine .bind (yields_get _ _) ?_
  refine .of_pos (startsImport h _) ?_
  refine .bind (yields_importName h _) ?_
  refine .step true tokens rfl ?_
  exact .of_pos rfl (.bind htree rfl)

theorem yields_importTree {names : List String} (hne : names ≠ [])
    (hnames : ∀ name ∈ names, Importable name) {depth : Nat} (hdepth : names.length ≤ depth)
    (rooted : Bool) (rest : List Token) :
    Yields (importTree depth rooted) rounds
      ((Import.ofNames names).tokens ++ .mark ';' false :: rest) (some (.ofNames names))
      (.mark ';' false :: rest) := by
  induction names generalizing depth rooted with
  | nil => exact absurd rfl hne
  | cons name names ih =>
    rw [List.forall_mem_cons] at hnames
    obtain ⟨depth, rfl⟩ := Nat.exists_eq_succ_of_ne_zero
      (Nat.ne_of_gt (Nat.lt_of_lt_of_le (Nat.succ_pos _) hdepth))
    by_cases hlast : names = []
    · rw [hlast, Import.ofNames, Import.tokens, List.singleton_append]
      refine .bind (yields_get _ _) ?_
      refine .of_pos (startsImport hnames.1 _) ?_
      refine .bind (yields_importName hnames.1 _) ?_
      refine .bind (yields_no_sign rfl) (.of_neg rfl ?_)
      exact .bind (yields_no_word rfl) (.of_neg rfl rfl)
    · rw [tokens_ofNames_cons hlast, ofNames_cons hlast]
      exact yields_importInside hnames.1
        (ih hlast hnames.2 (Nat.le_of_succ_le_succ hdepth) false)

/-- **An import is refused where it meets the type that an item is about.** -/
theorem refuses_importTree {names : List String} (hnames : ∀ name ∈ names, isSegment name = true)
    (hself : "Self" ∈ names) {depth : Nat} (hdepth : names.length ≤ depth) (rooted : Bool)
    (rest : List Token) :
    Refuses (importTree depth rooted) rounds ((Import.ofNames names).tokens ++ rest)
      (.expected false importStarts) := by
  induction names generalizing depth rooted with
  | nil => cases hself
  | cons name names ih =>
    rw [List.forall_mem_cons] at hnames
    obtain ⟨depth, rfl⟩ := Nat.exists_eq_succ_of_ne_zero
      (Nat.ne_of_gt (Nat.lt_of_lt_of_le (Nat.succ_pos _) hdepth))
    by_cases hname : name = "Self"
    · have htokens : ∃ more, (Import.ofNames (name :: names)).tokens ++ rest = .ident "Self" :: more := by
        rw [hname]
        by_cases hlast : names = []
        · rw [hlast]
          exact ⟨_, rfl⟩
        · rw [tokens_ofNames_cons hlast]
          exact ⟨_, rfl⟩
      obtain ⟨more, htokens⟩ := htokens
      rw [htokens]
      rfl
    · have hrest : "Self" ∈ names := (List.mem_cons.mp hself).resolve_left (Ne.symm hname)
      have hlast : names ≠ [] := List.ne_nil_of_mem hrest
      have himportable := importable_of_isSegment hnames.1 hname
      rw [tokens_ofNames_cons hlast]
      refine (yields_get _ _).bind_refuses ?_
      refine .of_pos (startsImport himportable _) ?_
      refine (yields_importName himportable _).bind_refuses ?_
      refine Yields.bind_refuses (a := true) rfl (.of_pos rfl ?_)
      exact (ih hnames.2 hrest (Nat.le_of_succ_le_succ hdepth) false).bind _

/-! ## Items -/

theorem tokens_use (absolute : Bool) (tree : Import) (rest : List Token) :
    (Item.use [] .inherited absolute tree).tokens ++ rest =
      .ident "use" :: (signIf absolute "::" ++ (tree.tokens ++ .mark ';' false :: rest)) := by
  cases absolute <;> simp [Item.tokens, outerTokens, attributeTokens, Visibility.tokens, Token.sign,
    Token.sign.go]

theorem no_root {names : List String} (hne : names ≠ []) (rest : List Token) :
    afterSign? "::".toList ((Import.ofNames names).tokens ++ rest) = none := by
  cases names with
  | nil => exact absurd rfl hne
  | cons name names =>
    by_cases hlast : names = []
    · rw [hlast]
      rfl
    · rw [tokens_ofNames_cons hlast]
      rfl

theorem yields_root {names : List String} (hne : names ≠ []) (absolute : Bool) (rest : List Token) :
    Yields (sign? "::") rounds (signIf absolute "::" ++ ((Import.ofNames names).tokens ++ rest))
      absolute ((Import.ofNames names).tokens ++ rest) := by
  cases absolute with
  | true => rfl
  | false => exact yields_no_sign (no_root hne rest)

/-- What is read behind the word for imports. -/
def importRest (start : List Token) : Reader Item := do
  let absolute ← sign? "::"
  let tree ← importTree (← limit) (!absolute)
  sign ";"
  match tree with
  | some tree => return .use [] .inherited absolute tree
  | none => return .unformatted (← readSince start)

theorem item_use (depth rounds : Nat) (tokens : List Token) :
    (Reader.readers (depth + 1)).item (rounds + 1) (.ident "use" :: tokens) none =
      importRest (.ident "use" :: tokens) (rounds + 1) tokens none := rfl

theorem yields_item_use {names : List String} (hne : names ≠ [])
    (hnames : ∀ name ∈ names, Importable name) {depth : Nat} (hrounds : names.length ≤ rounds + 1)
    (absolute : Bool) (rest : List Token) :
    Yields (Reader.readers (depth + 1)).item (rounds + 1)
      ((Item.use [] .inherited absolute (.ofNames names)).tokens ++ rest)
      (.use [] .inherited absolute (.ofNames names)) rest := by
  unfold Yields
  rw [tokens_use, item_use]
  show Yields (importRest _) _ _ _ _
  refine .bind (yields_root hne absolute _) ?_
  refine .bind (yields_limit _ _) ?_
  exact .bind (yields_importTree hne hnames hrounds _ rest) (.step () rest rfl rfl)

theorem refuses_item_use {names : List String} (hnames : ∀ name ∈ names, isSegment name = true)
    (hself : "Self" ∈ names) {depth : Nat} (hrounds : names.length ≤ rounds + 1) (absolute : Bool)
    (rest : List Token) :
    Refuses (Reader.readers (depth + 1)).item (rounds + 1)
      ((Item.use [] .inherited absolute (.ofNames names)).tokens ++ rest)
      (.expected false importStarts) := by
  unfold Refuses
  rw [tokens_use, item_use]
  show Refuses (importRest _) _ _ _
  refine (yields_root (List.ne_nil_of_mem hself) absolute _).bind_refuses ?_
  refine (yields_limit _ _).bind_refuses ?_
  exact (refuses_importTree hnames hself hrounds _ _).bind _

/-! ## Files -/

/-- A file is refused where its first item is. -/
theorem ofTokens_refuses {attributes : List Attribute} {middle : List Token}
    (hattributes : Yields (innerAttributes (Reader.readers (4 * (tokens.length + 1))))
      (tokens.length + 1) tokens attributes middle)
    (hmiddle : middle.isEmpty = false)
    (hitem : Refuses (Reader.readers (4 * (tokens.length + 1))).item (tokens.length + 1) middle
      error) : File.ofTokens tokens = .error error := by
  have hnext : Refuses (nextItem? _) (tokens.length + 1) middle error :=
    (yields_get _ _).bind_refuses (.of_neg hmiddle (hitem.bind (fun item => pure (some item))))
  have hmany : Refuses (many (nextItem? _)) (tokens.length + 1) middle error :=
    (yields_limit _ _).bind_refuses (hnext.bind _)
  have hfile : Refuses (file _) (tokens.length + 1) tokens error :=
    hattributes.bind_refuses (hmany.bind _)
  unfold Refuses at hfile
  unfold File.ofTokens
  dsimp only [ReaderT.run, StateT.run]
  rw [hfile]

end Reader

end WireErrors.Source
