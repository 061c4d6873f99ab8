import WireErrors.Draft
import WireErrors.ErrorTypes
import WireErrors.Proofs.Source.Legibility
import WireErrors.Proofs.Source.Grammar.Items
import WireErrors.Proofs.Source.Grammar.Lists

/-!
# Reading blocks as a file

Blocks that are the texts of legible tokens are read as one file, if all of their tokens together
are (`read_contents_eq`). A block alone need not be balanced: it may open a brace that a later one closes.
-/

namespace WireErrors.Source

/-! ## Trees with trees in them -/

theorem readable_select {subject : String} {arms : List Arm} (hsubject : isSpelled subject = true)
    (harms : ∀ a ∈ arms, Readable a.tokens) :
    Readable (Expr.select (.names [subject]) [] arms).tokens := by
  rw [Expr.tokens, Reader.listTokens_eq_flatMap]
  have hbody := (readable_flatMap harms).group .brace
  exact .append (.ident (by decide) (.ident hsubject readable_nil)) hbody

theorem readable_function {f : Function} (hattributes : innerTokens f.attributes = [])
    (hsignature : Readable f.toSignature.tokens) (hbody : Readable (Statement.listTokens f.body)) :
    Readable f.tokens := by
  rw [Function.tokens, hattributes, List.nil_append]
  exact hsignature.append (hbody.group .brace)

theorem readable_comma : Readable (Token.sign ",") :=
  ⟨.mark (by decide) .nil, balanced_iff.mpr rfl⟩

theorem readable_commaSeparated {parts : List (List Token)} (h : ∀ part ∈ parts, Readable part) :
    Readable (commaSeparated parts) := by
  induction parts with
  | nil => exact readable_nil
  | cons part parts ih =>
    have hpart := h part List.mem_cons_self
    have hparts := ih fun other hother => h other (List.mem_cons_of_mem _ hother)
    cases parts with
    | nil =>
      rw [Reader.commaSeparated_singleton]
      exact hpart
    | cons second parts =>
      rw [Reader.commaSeparated_cons]
      exact hpart.append (readable_comma.append hparts)

/-! ## Implementations -/

section

open scoped Spelled

theorem tokens_inherent (type : String) (members : List Member) :
    (ErrorTypes.implementation none type members).tokens = .ident "impl" :: .ident type ::
      Token.group .brace (members.flatMap Member.tokens) := by
  simp [ErrorTypes.implementation, signIf]

theorem tokens_interface (interface : TypeExpr) (type : String) (members : List Member) :
    (ErrorTypes.implementation (some interface) type members).tokens = .ident "impl" ::
      (interface.tokens ++ .ident "for" :: .ident type ::
        Token.group .brace (members.flatMap Member.tokens)) := by
  simp [ErrorTypes.implementation, signIf]

end

theorem group_append (d : Delimiter) (inside rest : List Token) :
    Token.group d inside ++ rest = .opening d :: (inside ++ .closing d :: rest) := by
  simp [Token.group]

theorem readable_inherent {type : String} {members : List Member} (htype : isSpelled type = true)
    (hmembers : Readable (members.flatMap Member.tokens)) :
    Readable (ErrorTypes.implementation none type members).tokens := by
  rw [tokens_inherent]
  exact .ident (by decide) (.ident htype (hmembers.group .brace))

theorem readable_interface {interface : TypeExpr} {type : String} {members : List Member}
    (hinterface : Readable interface.tokens) (htype : isSpelled type = true)
    (hmembers : Readable (members.flatMap Member.tokens)) :
    Readable (ErrorTypes.implementation (some interface) type members).tokens := by
  rw [tokens_interface]
  exact .ident (by decide)
    (hinterface.append (.ident (by decide) (.ident htype (hmembers.group .brace))))

theorem render_opened (type : String) : Token.render [.ident "impl", .ident type, .opening .brace] =
    "impl " ++ type ++ " \x7b" := by
  apply String.toList_inj.mp
  rw [Token.render, String.toList_ofList, String.toList_append, String.toList_append,
    List.append_assoc]
  show "impl ".toList ++ (type.toList ++ [' '] ++ ['\x7b']) = _
  rw [List.append_assoc]
  rfl

/-! ## Lengths -/

theorem length_le_flatMap {α : Type} {list : List α} {spell : α → List Token}
    (h : ∀ a ∈ list, spell a ≠ []) : list.length ≤ (list.flatMap spell).length := by
  induction list with
  | nil => exact Nat.le_refl 0
  | cons a list ih =>
    have hfirst := List.length_pos_iff.mpr (h a List.mem_cons_self)
    have hrest := ih fun b hb => h b (List.mem_cons_of_mem _ hb)
    rw [List.length_cons, List.flatMap_cons, List.length_append]
    omega

theorem length_le_select (subject : Expr) (arms : List Arm) :
    arms.length + 1 ≤ (Expr.select subject [] arms).tokens.length := by
  have harms : ∀ a ∈ arms, a.tokens ≠ [] := by
    rintro ⟨attributes, pattern, guard, body⟩ -
    cases guard <;> simp [Arm.tokens, Token.sign, Token.sign.go]
  have hlength := length_le_flatMap harms
  rw [Expr.tokens, Reader.listTokens_eq_flatMap]
  simp only [Token.group, List.length_append, List.length_cons]
  omega

/-! ## Whole texts -/

theorem loaderLine_of_ne {text : List Char} (h : ∀ rest, text ≠ '#' :: '!' :: rest) :
    loaderLine text = (none, text) := by
  unfold loaderLine
  split
  next rest => exact absurd rfl (h rest)
  next => rfl

theorem Legible.no_loader {tokens : List Token} (h : Legible tokens) {rest : List Char}
    (hrest : Separated rest) (hhead : tokens.head? ≠ some (.mark '#' true)) (after : List Char) :
    Token.renderChars tokens ++ rest ≠ '#' :: '!' :: after := by
  intro hequal
  have hfirst : (Token.renderChars tokens ++ rest).head? = some '#' := by rw [hequal]; rfl
  cases h with
  | nil =>
    have hnone : ∀ d ∈ separators, d ≠ '#' := by decide
    exact hnone '#' (hrest '#' hfirst) rfl
  | ident hname =>
    rw [renderChars_cons_append, Token.chars] at hfirst
    obtain ⟨d, chars, hchars⟩ := List.exists_cons_of_ne_nil (toList_ne_nil_of_isSpelled hname)
    rw [hchars] at hfirst
    obtain rfl : d = '#' := Option.some.inj hfirst
    exact absurd (isIdentStart_of_isSpelled hname hchars) (by decide)
  | @mark c tokens hmark =>
    rw [renderChars_cons_append] at hequal
    have hbehind : behind (.mark c false) tokens rest = '!' :: after := (List.cons.inj hequal).2
    have hseparated : Separated (behind (.mark c false) tokens rest) := separated_behind rfl hrest
    have hnone : ∀ d ∈ separators, d ≠ '!' := by decide
    exact hnone '!' (hseparated '!' (by rw [hbehind]; rfl)) rfl
  | joint =>
    rw [renderChars_cons_append] at hfirst
    obtain rfl := Option.some.inj hfirst
    exact hhead rfl
  | lifetime =>
    rw [renderChars_cons_append] at hfirst
    cases hfirst
  | quote text =>
    rw [renderChars_cons_append, Token.chars, head_quote] at hfirst
    cases hfirst
  | raw =>
    rw [renderChars_cons_append, Token.chars, head_raw] at hfirst
    cases hfirst
  | opening d =>
    rw [renderChars_cons_append] at hfirst
    cases d <;> cases hfirst
  | closing d =>
    rw [renderChars_cons_append] at hfirst
    cases d <;> cases hfirst

theorem read_of_isSpelled {text : String} (hspelled : isSpelled text = true) :
    read text = some [.ident text] := by
  have hlegible : Legible [.ident text] := .ident hspelled .nil
  have hreads := hlegible.reads separated_nil reads_nil
  rw [List.append_nil, List.append_nil] at hreads
  refine hreads.readChars_eq ?_ (balanced_ident text balanced_nil)
  intro c hc
  rw [← List.append_nil (Token.renderChars _)] at hc
  exact (hlegible.head separated_nil c hc).2

theorem isIdentifier_of_isSpelled {text : String} (hspelled : isSpelled text = true) :
    isIdentifier text = !isKeyword text := by
  rw [isIdentifier, read_of_isSpelled hspelled]

theorem isKeyword_of_isIdentifier {text : String} (hspelled : isSpelled text = true)
    (h : isIdentifier text = true) : isKeyword text = false := by
  rw [isIdentifier_of_isSpelled hspelled] at h
  simpa using h

theorem exists_rest (part : List Token) (parts : List (List Token)) :
    ∃ rest, Separated rest ∧ List.intercalate ['\n'] ((part :: parts).map Token.renderChars) =
      Token.renderChars part ++ rest := by
  cases parts with
  | nil => exact ⟨[], separated_nil, by simp [List.intercalate]⟩
  | cons second parts =>
    refine ⟨'\n' :: List.intercalate ['\n'] ((second :: parts).map Token.renderChars), ?_, ?_⟩
    · exact separated_cons _ (by decide)
    · simp [List.intercalate]

/-- **Blocks of legible tokens are read as the file that all of the tokens are read as.** -/
theorem read_contents_eq {part : List Token} {parts : List (List Token)}
    (hparts : ∀ p ∈ part :: parts, Legible p) (hhead : part.head? ≠ some (.mark '#' true))
    (hbalanced : Balanced (part :: parts).flatten) :
    File.read (Draft.contents ⟨(part :: parts).map Token.render⟩) =
      (File.ofTokens (part :: parts).flatten).map fun file => { file with loader := none } := by
  have hchars : (Draft.contents ⟨(part :: parts).map Token.render⟩).toList =
      List.intercalate ['\n'] ((part :: parts).map Token.renderChars) := by
    have hrender : String.toList ∘ Token.render = Token.renderChars :=
      funext fun tokens => String.toList_ofList
    rw [Draft.contents, String.toList_intercalate, List.map_map, hrender]
    rfl
  have hreads := reads_intercalate hparts
  obtain ⟨rest, hrest, htext⟩ := exists_rest part parts
  rw [htext] at hchars hreads
  have hpart := hparts part List.mem_cons_self
  have hmark := fun c hc => (hpart.head hrest c hc).2
  unfold File.read
  rw [hchars, withoutByteOrderMark_of_ne hmark,
    loaderLine_of_ne (hpart.no_loader hrest hhead)]
  dsimp only
  rw [hreads.readChars_eq hmark hbalanced]
  rfl

theorem read_render_eq {tokens : List Token} (h : Readable tokens)
    (hhead : tokens.head? ≠ some (.mark '#' true)) :
    File.read (Token.render tokens) =
      (File.ofTokens tokens).map fun file => { file with loader := none } := by
  have hflatten : [tokens].flatten = tokens := List.append_nil tokens
  have hread : File.read (Draft.contents ⟨[tokens].map Token.render⟩) =
      (File.ofTokens [tokens].flatten).map fun file => { file with loader := none } :=
    read_contents_eq (List.forall_mem_singleton.mpr h.legible) hhead
      (by rw [hflatten]; exact h.balanced)
  rwa [hflatten] at hread

/-- Blocks that together are the tokens of attributes and items are read as these, if the attributes
are and each item is. As there are more tokens than `bound`, there are enough rounds for whatever
needs `bound` of them. -/
theorem read_file {front part : List Token} {parts : List (List Token)}
    {attributes : List Attribute} {items : List Item} (bound : Nat)
    (hparts : ∀ p ∈ part :: parts, Legible p) (hhead : part.head? ≠ some (.mark '#' true))
    (htokens : (part :: parts).flatten = front ++ items.flatMap Item.tokens)
    (hbalanced : Balanced (front ++ items.flatMap Item.tokens))
    (hattributes : ∀ depth rounds, Reader.Yields (Reader.innerAttributes (Reader.readers depth))
      (rounds + 12) (front ++ items.flatMap Item.tokens) attributes (items.flatMap Item.tokens))
    (hnonempty : ∀ item ∈ items, item.tokens ≠ [])
    (hlength : bound + 12 ≤ (items.flatMap Item.tokens).length)
    (hitems : ∀ depth rounds, bound + 2 < rounds + 12 → ∀ item ∈ items, ∀ rest,
      Reader.Yields (Reader.readers (depth + 14)).item (rounds + 12) (item.tokens ++ rest) item
        rest) :
    File.read (Draft.contents ⟨(part :: parts).map Token.render⟩) = .ok { attributes, items } := by
  have hcount := length_le_flatMap hnonempty
  have hwhole : (front ++ items.flatMap Item.tokens).length =
      front.length + (items.flatMap Item.tokens).length := List.length_append
  obtain ⟨rounds, hrounds⟩ := Nat.exists_eq_add_of_le'
    (show 12 ≤ (front ++ items.flatMap Item.tokens).length + 1 by omega)
  obtain ⟨depth, hdepth⟩ := Nat.exists_eq_add_of_le'
    (show 14 ≤ 4 * ((front ++ items.flatMap Item.tokens).length + 1) by omega)
  have hfile : File.ofTokens (front ++ items.flatMap Item.tokens) = .ok { attributes, items } := by
    refine Reader.ofTokens_eq ?_ ?_ ?_ ?_
    · rw [hrounds]
      exact hattributes _ rounds
    · rw [hdepth, hrounds]
      exact hitems depth rounds (by omega)
    · exact fun item hitem rest => by simp [hnonempty item hitem]
    · omega
  rw [read_contents_eq hparts hhead (htokens ▸ hbalanced), htokens, hfile]
  rfl

theorem read_items {part : List Token} {parts : List (List Token)} {items : List Item}
    (bound : Nat) (hparts : ∀ p ∈ part :: parts, Legible p)
    (hhead : part.head? ≠ some (.mark '#' true))
    (htokens : (part :: parts).flatten = items.flatMap Item.tokens)
    (hbalanced : Balanced (items.flatMap Item.tokens))
    (hinner : Reader.startsInner (items.flatMap Item.tokens) = false)
    (hnonempty : ∀ item ∈ items, item.tokens ≠ [])
    (hlength : bound + 12 ≤ (items.flatMap Item.tokens).length)
    (hitems : ∀ depth rounds, bound + 2 < rounds + 12 → ∀ item ∈ items, ∀ rest,
      Reader.Yields (Reader.readers (depth + 14)).item (rounds + 12) (item.tokens ++ rest) item
        rest) :
    File.read (Draft.contents ⟨(part :: parts).map Token.render⟩) =
      .ok { attributes := [], items } :=
  read_file bound hparts hhead (htokens.trans (List.nil_append _).symm) hbalanced
    (fun _ _ => Reader.yields_no_innerAttributes hinner) hnonempty hlength hitems

end WireErrors.Source
