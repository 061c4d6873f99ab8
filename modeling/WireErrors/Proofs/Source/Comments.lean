import WireErrors.Proofs.Splitting
import WireErrors.Proofs.Source.Lexing
import WireErrors.Source.Formatting.Attribute

/-!
# Comments can be read back

The comment that is written for a documentation text ends where it should: a line comment before the
break of its line, and a block comment at its own end. It is read as the text again, apart from blanks
at the ends of its lines, unless it has a carriage return in it that no line feed follows; then it is
no comment at all (`readStep_docComment`).
-/

namespace WireErrors.Source

open Text

/-! ## Lines of a text -/

theorem induction_on_lines {P : List Char → Prop} (line : ∀ line, '\n' ∉ line → P line)
    (step : ∀ line rest, '\n' ∉ line → P rest → P (line ++ '\n' :: rest)) (text : List Char) :
    P text := by
  by_cases hbreak : '\n' ∈ text
  · obtain ⟨first, rest, htext, hfirst⟩ := List.eq_append_cons_of_mem hbreak
    have hlength : rest.length < text.length := by
      rw [htext, List.length_append, List.length_cons]
      omega
    rw [htext]
    exact step first rest hfirst (induction_on_lines line step rest)
  · exact line text hbreak
termination_by text.length

theorem withoutEndBlanks_append (line : List Char) :
    ∃ blanks, line = withoutEndBlanks line ++ blanks ∧ ∀ c ∈ blanks, c = ' ' := by
  refine ⟨(line.reverse.takeWhile (· == ' ')).reverse, ?_, fun c hc => ?_⟩
  · rw [withoutEndBlanks, ← List.reverse_append, List.takeWhile_append_dropWhile,
      List.reverse_reverse]
  · simpa using List.mem_takeWhile_imp (List.mem_reverse.mp hc)

theorem withoutEndBlanks_of_getLast {line : List Char} (h : ∀ c ∈ line.getLast?, c ≠ ' ') :
    withoutEndBlanks line = line := by
  rw [withoutEndBlanks]
  cases hreverse : line.reverse with
  | nil => rw [← List.reverse_reverse line, hreverse]; rfl
  | cons c chars =>
    have hc : c ≠ ' ' := h c (by rw [← List.head?_reverse, hreverse]; rfl)
    rw [List.dropWhile_cons_of_neg (by simpa using hc), ← hreverse, List.reverse_reverse]

theorem withoutInteriorBlanks_line {line : List Char} (h : '\n' ∉ line) :
    withoutInteriorBlanks line = line := by
  have hsplit : Text.splitAt '\n' line = [line] :=
    splitAt_eq_iff.mpr ⟨List.cons_ne_nil _ _, by simpa using h, by simp [List.intercalate]⟩
  rw [withoutInteriorBlanks, hsplit]
  simp [List.intercalate]

theorem withoutInteriorBlanks_break {line : List Char} (h : '\n' ∉ line) (rest : List Char) :
    withoutInteriorBlanks (line ++ '\n' :: rest) =
      withoutEndBlanks line ++ '\n' :: withoutInteriorBlanks rest := by
  have hsplit : Text.splitAt '\n' line = [line] :=
    splitAt_eq_iff.mpr ⟨List.cons_ne_nil _ _, by simpa using h, by simp [List.intercalate]⟩
  have hrest : (Text.splitAt '\n' rest).reverse ≠ [] :=
    mt List.reverse_eq_nil_iff.mp (splitWhere_ne_nil _ _ _)
  obtain ⟨last, lines, hlast⟩ := List.exists_cons_of_ne_nil hrest
  rw [withoutInteriorBlanks, withoutInteriorBlanks, splitAt_append, hsplit, List.singleton_append,
    List.reverse_cons, hlast]
  simp only [List.cons_append, List.map_append, List.map_cons, List.map_nil, List.reverse_append,
    List.reverse_cons, List.reverse_nil, List.nil_append]
  cases (lines.map withoutEndBlanks).reverse <;> simp [List.intercalate]

/-! ## The inside of block comments -/

/-- A text that starts with no mark of a comment. -/
def StartsPlain (text : List Char) : Prop := ∀ c ∈ text.head?, c ≠ '/' ∧ c ≠ '*'

theorem not_marked_append {c d e : Char} {line rest tail : List Char}
    (hline : ∀ tail, c = d → line = e :: tail → False) (hrest : StartsPlain rest)
    (he : e = '/' ∨ e = '*') : c = d → line ++ rest = e :: tail → False := by
  intro hc htext
  cases line with
  | nil =>
    have hplain := hrest e (by rw [← List.nil_append rest, htext]; rfl)
    rcases he with rfl | rfl
    · exact hplain.1 rfl
    · exact hplain.2 rfl
  | cons first line =>
    obtain ⟨rfl, -⟩ := List.cons.inj htext
    exact hline line hc rfl

theorem startsPlain_append {a b : List Char} (ha : ∀ c ∈ a, c ≠ '/' ∧ c ≠ '*') (hne : a ≠ []) :
    StartsPlain (a ++ b) := by
  obtain ⟨c, a, rfl⟩ := List.exists_cons_of_ne_nil hne
  intro d hd
  obtain rfl : c = d := Option.some.inj hd
  exact ha c List.mem_cons_self

theorem isCommentBody_append_of_plain {front : List Char} (h : ∀ c ∈ front, c ≠ '/' ∧ c ≠ '*')
    (depth : Nat) (rest : List Char) :
    isCommentBody depth (front ++ rest) = isCommentBody depth rest := by
  induction front with
  | nil => rfl
  | cons c front ih =>
    rw [List.forall_mem_cons] at h
    rw [List.cons_append, isCommentBody.eq_4 _ _ _ (fun _ hc => absurd hc h.1.1)
      (fun _ hc => absurd hc h.1.2)]
    exact ih h.2

theorem isCommentBody_append_congr {a b : List Char} (ha : StartsPlain a) (hb : StartsPlain b)
    (h : ∀ depth, isCommentBody depth a = isCommentBody depth b) (depth : Nat) (line : List Char) :
    isCommentBody depth (line ++ a) = isCommentBody depth (line ++ b) := by
  fun_induction isCommentBody depth line with
  | case1 depth => exact h depth
  | case2 depth rest ih => exact ih
  | case3 rest => rfl
  | case4 depth rest hdepth ih =>
    simp only [List.cons_append, isCommentBody, if_neg hdepth]
    exact ih
  | case5 depth c line hopen hclose ih =>
    rw [List.cons_append, List.cons_append,
      isCommentBody.eq_4 _ _ _ (fun _ => not_marked_append hopen ha (.inr rfl))
        (fun _ => not_marked_append hclose ha (.inl rfl)),
      isCommentBody.eq_4 _ _ _ (fun _ => not_marked_append hopen hb (.inr rfl))
        (fun _ => not_marked_append hclose hb (.inl rfl))]
    exact ih

/-- A block comment with a possible text inside is closed exactly behind the text. -/
theorem blockEnd_append {depth : Nat} {text : List Char} (hbody : isCommentBody depth text = true)
    (hlast : text.getLast? ≠ some '/') (rest : List Char) :
    blockEnd depth (text ++ '*' :: '/' :: rest) = some (text, rest) := by
  have hbehind : ∀ {c : Char} {text : List Char}, (c :: text).getLast? ≠ some '/' →
      text.getLast? ≠ some '/' := by
    intro c text hne htext
    rw [List.getLast?_cons, htext] at hne
    exact hne rfl
  fun_induction isCommentBody depth text with
  | case1 depth =>
    obtain rfl : depth = 0 := by simpa using hbody
    rfl
  | case2 depth text ih =>
    simp only [List.cons_append, blockEnd, ih hbody (hbehind (hbehind hlast)), Option.map_some,
      withChar]
  | case3 text => cases hbody
  | case4 depth text hdepth ih =>
    obtain ⟨depth, rfl⟩ := Nat.exists_eq_succ_of_ne_zero hdepth
    simp only [List.cons_append, blockEnd]
    rw [← Nat.add_one_sub_one depth, ih hbody (hbehind (hbehind hlast))]
    rfl
  | case5 depth c text hopen hclose ih =>
    have hopens : ∀ tail, c = '/' → text ++ '*' :: '/' :: rest = '*' :: tail → False := by
      intro tail hc htext
      cases text with
      | nil => exact hlast (by rw [hc]; rfl)
      | cons d text => exact hopen text hc (by rw [(List.cons.inj htext).1])
    have hcloses : ∀ tail, c = '*' → text ++ '*' :: '/' :: rest = '/' :: tail → False := by
      intro tail hc htext
      cases text with
      | nil => cases htext
      | cons d text => exact hclose text hc (by rw [(List.cons.inj htext).1])
    rw [List.cons_append, blockEnd.eq_5 _ _ _ hopens hcloses, ih hbody (hbehind hlast)]
    rfl

/-! ## Texts that comments end where they do -/

/-- A documentation text that goes on with no mark of a comment and ends with neither a blank nor
part of such a mark or of a line break. -/
structure Enclosable (text : List Char) : Prop where
  first : StartsPlain text
  last : ∀ c ∈ text.getLast?, c ≠ ' ' ∧ c ≠ '/' ∧ c ≠ '\r'

theorem startsPlain_withoutInteriorBlanks {text : List Char} (h : StartsPlain text) :
    StartsPlain (withoutInteriorBlanks text) := by
  induction text using induction_on_lines with
  | line line hbreak => rwa [withoutInteriorBlanks_line hbreak]
  | step line rest hbreak _ =>
    rw [withoutInteriorBlanks_break hbreak]
    obtain ⟨blanks, hline, -⟩ := withoutEndBlanks_append line
    cases hfront : withoutEndBlanks line with
    | nil =>
      intro c hc
      obtain rfl : '\n' = c := Option.some.inj hc
      decide
    | cons d front =>
      intro c hc
      refine h c ?_
      rw [hline, hfront]
      exact hc

theorem getLast?_withoutInteriorBlanks (text : List Char) :
    (withoutInteriorBlanks text).getLast? = text.getLast? := by
  induction text using induction_on_lines with
  | line line hbreak => rw [withoutInteriorBlanks_line hbreak]
  | step line rest hbreak ih =>
    rw [withoutInteriorBlanks_break hbreak, List.getLast?_append, List.getLast?_append,
      List.getLast?_cons, List.getLast?_cons, ih]
    rfl

theorem isCommentBody_withoutInteriorBlanks (depth : Nat) (text : List Char) :
    isCommentBody depth (withoutInteriorBlanks text) = isCommentBody depth text := by
  induction text using induction_on_lines generalizing depth with
  | line line hbreak => rw [withoutInteriorBlanks_line hbreak]
  | step line rest hbreak ih =>
    obtain ⟨blanks, hline, hblanks⟩ := withoutEndBlanks_append line
    have hplain : ∀ c ∈ blanks ++ ['\n'], c ≠ '/' ∧ c ≠ '*' := by
      intro c hc
      rcases List.mem_append.mp hc with hc | hc
      · rw [hblanks c hc]
        decide
      · rw [List.mem_singleton.mp hc]
        decide
    have hbreak' : ∀ c ∈ ['\n'], c ≠ '/' ∧ c ≠ '*' := by decide
    have hshape : line ++ '\n' :: rest = withoutEndBlanks line ++ (blanks ++ ['\n'] ++ rest) := by
      conv_lhs => rw [hline]
      simp
    rw [withoutInteriorBlanks_break hbreak, hshape]
    refine isCommentBody_append_congr (startsPlain_append (a := ['\n']) hbreak' nofun)
      (startsPlain_append hplain (by simp)) (fun depth => ?_) depth _
    rw [isCommentBody_append_of_plain hplain, ← ih]
    exact isCommentBody_append_of_plain hbreak' depth _

/-! ## Reading comments -/

theorem lineEnd_append {line : List Char} (hbreak : '\n' ∉ line)
    (hlast : line.getLast? ≠ some '\r') (rest : List Char) :
    lineEnd (line ++ '\n' :: rest) = (line, '\n' :: rest) := by
  induction line with
  | nil => rfl
  | cons c line ih =>
    rw [List.mem_cons, not_or] at hbreak
    have hlast' : line.getLast? ≠ some '\r' := by
      intro hline
      rw [List.getLast?_cons, hline] at hlast
      exact hlast rfl
    have hreturn : ∀ tail, c = '\r' → line ++ '\n' :: rest = '\n' :: tail → False := by
      intro tail hc htext
      cases line with
      | nil => exact hlast (by rw [hc]; rfl)
      | cons d line => exact hbreak.2 (by rw [(List.cons.inj htext).1]; exact List.mem_cons_self)
    rw [List.cons_append, lineEnd.eq_3 _ _ hreturn, if_neg (Ne.symm hbreak.1), ih hbreak.2 hlast']
    rfl

/-- What a comment for a documentation text is read as. -/
def docBody (text : List Char) : List Char :=
  if text.contains '\n' then withoutInteriorBlanks text else text

theorem docBody_line {text : List Char} (h : '\n' ∉ text) : docBody text = text :=
  if_neg (by simpa using h)

theorem exists_docComment {text : List Char} (h : Enclosable text) (hbreak : '\n' ∉ text) :
    ∃ comment, docComment? false text = some comment := by
  have hslash : startsWithAny ['/'] text = false := by
    cases text with
    | nil => rfl
    | cons c chars => simpa [startsWithAny] using (h.first c rfl).1
  have hline : text.contains '\n' = false := by simpa using hbreak
  exact ⟨_, by rw [docComment?, hslash, hline]; rfl⟩

theorem readStep_line {text : List Char} (h : Enclosable text) (hbreak : '\n' ∉ text)
    (rest : List Char) :
    readStep ("///".toList ++ text ++ '\n' :: rest) =
      docComment false (text, '\n' :: rest) := by
  have hlast : text.getLast? ≠ some '\r' := fun hlast => (h.last _ hlast).2.2 rfl
  have hend := lineEnd_append hbreak hlast rest
  show readComment '/' ('/' :: (text ++ '\n' :: rest)) = _
  rw [← hend]
  cases text with
  | nil => rfl
  | cons c text =>
    have hc : c ≠ '/' := (h.first c rfl).1
    exact readComment.eq_2 _ fun tail htail => hc (List.cons.inj htail).1

theorem readStep_block {text : List Char} (h : StartsPlain text) (hne : text ≠ [])
    (hbody : isCommentBody 0 text = true) (hlast : text.getLast? ≠ some '/') (rest : List Char) :
    readStep ("/**".toList ++ text ++ ['*', '/'] ++ rest) = docComment false (text, rest) := by
  obtain ⟨c, chars, rfl⟩ := List.exists_cons_of_ne_nil hne
  have hc := h c rfl
  have hend : blockEnd 0 ('*' :: (c :: chars) ++ '*' :: '/' :: rest) =
      some ('*' :: c :: chars, rest) := by
    refine blockEnd_append ?_ ?_ rest
    · rw [isCommentBody.eq_4 0 '*' _ nofun fun _ _ htext => hc.1 (List.cons.inj htext).1]
      exact hbody
    · rwa [List.getLast?_cons_cons]
  have hshape : "/**".toList ++ c :: chars ++ ['*', '/'] ++ rest =
      '/' :: '*' :: '*' :: (c :: chars ++ '*' :: '/' :: rest) := by
    simp
  rw [hshape]
  show readComment '*' ('*' :: c :: (chars ++ '*' :: '/' :: rest)) = _
  rw [readComment.eq_7 '*' _ (fun _ htext => hc.1 (List.cons.inj htext).1)
    (fun _ htext => hc.2 (List.cons.inj htext).1) nofun]
  change (blockEnd 0 ('*' :: c :: chars ++ '*' :: '/' :: rest)).bind _ = _
  rw [hend]
  rfl

theorem of_docComment? {text comment : List Char} (h : Enclosable text)
    (hcomment : docComment? false text = some comment) :
    ('\n' ∉ text ∧ docBody text = text ∧ comment = "///".toList ++ docBody text) ∨
      ('\n' ∈ text ∧ docBody text = withoutInteriorBlanks text ∧ isCommentBody 0 text = true ∧
        comment = "/**".toList ++ docBody text ++ ['*', '/']) := by
  have hslash : startsWithAny ['/'] text = false := by
    cases text with
    | nil => rfl
    | cons c text => simpa [startsWithAny] using (h.first c rfl).1
  rw [docComment?] at hcomment
  split at hcomment
  next hline =>
    have hbreak : '\n' ∉ text := by
      simp only [Bool.and_eq_true] at hline
      simpa using hline.1
    have hblanks : withoutEndBlanks text = text :=
      withoutEndBlanks_of_getLast fun c hc => (h.last c hc).1
    rw [hblanks] at hcomment
    refine .inl ⟨hbreak, docBody_line hbreak, ?_⟩
    rw [docBody_line hbreak]
    exact (Option.some.inj hcomment).symm
  next hline =>
    have hbreak : '\n' ∈ text := by
      by_contra hbreak
      simp [hslash, hbreak] at hline
    have hbody : docBody text = withoutInteriorBlanks text := if_pos (by simpa using hbreak)
    rw [if_neg Bool.false_ne_true, blockComment?] at hcomment
    split at hcomment
    next hblock =>
      simp only [Bool.and_eq_true] at hblock
      refine .inr ⟨hbreak, hbody, hblock.1.1, ?_⟩
      rw [hbody]
      exact (Option.some.inj hcomment).symm
    next => cases hcomment

/-- **A documentation comment is read as its text, or not at all.** It ends before the break of its
line or at its own end, whatever follows it, and is refused exactly if it has a carriage return in it
that no line feed follows. -/
theorem readStep_docComment {text comment : List Char} (h : Enclosable text)
    (hcomment : docComment? false text = some comment) (rest : List Char) :
    readStep (comment ++ '\n' :: rest) =
      if noBareReturn (docBody text) then some (docTokens false (docBody text), '\n' :: rest)
      else none := by
  rcases of_docComment? h hcomment with ⟨hbreak, hbody, rfl⟩ | ⟨hbreak, hbody, hinside, rfl⟩
  · rw [hbody]
    exact readStep_line h hbreak rest
  · rw [hbody]
    refine readStep_block (startsPlain_withoutInteriorBlanks h.first) ?_ ?_ ?_ _
    · intro hnil
      have htext := getLast?_withoutInteriorBlanks text
      rw [hnil, List.getLast?_nil, eq_comm, List.getLast?_eq_none_iff] at htext
      rw [htext] at hbreak
      cases hbreak
    · rw [isCommentBody_withoutInteriorBlanks]
      exact hinside
    · rw [getLast?_withoutInteriorBlanks]
      exact fun hlast => (h.last _ hlast).2.1 rfl

/-! ## Carriage returns -/

theorem noBareReturn_append {front back : List Char} (h : back.head? ≠ some '\n') :
    noBareReturn (front ++ back) = (noBareReturn front && noBareReturn back) := by
  fun_induction noBareReturn front with
  | case1 => rfl
  | case2 rest ih => exact ih
  | case3 c rest hreturn ih =>
    have hpair : ∀ tail, c = '\r' → rest ++ back = '\n' :: tail → False := by
      intro tail hc htext
      cases rest with
      | nil => exact h (by rw [← List.nil_append back, htext]; rfl)
      | cons d rest => exact hreturn rest hc (by rw [(List.cons.inj htext).1])
    rw [List.cons_append, noBareReturn.eq_3 _ _ hpair, ih, Bool.and_assoc]

theorem noBareReturn_docComment {text comment : List Char} (h : Enclosable text)
    (hcomment : docComment? false text = some comment) :
    noBareReturn comment = noBareReturn (docBody text) := by
  rcases of_docComment? h hcomment with ⟨-, -, rfl⟩ | ⟨-, -, -, rfl⟩
  · rfl
  · show noBareReturn (docBody text ++ ['*', '/']) = _
    rw [noBareReturn_append (by decide)]
    exact Bool.and_true _

theorem noBareReturn_of_not_mem {text : List Char} (h : '\r' ∉ text) : noBareReturn text = true := by
  induction text with
  | nil => rfl
  | cons c text ih =>
    rw [List.mem_cons, not_or] at h
    have hc : c ≠ '\r' := Ne.symm h.1
    rw [noBareReturn.eq_3 _ _ (fun _ hreturn => absurd hreturn hc), ih h.2, Bool.and_true]
    exact bne_iff_ne.mpr hc

theorem noBareReturn_line {text : List Char} (h : '\n' ∉ text) (hreturn : '\r' ∈ text) :
    noBareReturn text = false := by
  induction text with
  | nil => cases hreturn
  | cons c text ih =>
    rw [List.mem_cons, not_or] at h
    have hpair : ∀ tail, c = '\r' → text = '\n' :: tail → False := by
      rintro tail - rfl
      exact h.2 List.mem_cons_self
    rw [noBareReturn.eq_3 _ _ hpair]
    rcases List.mem_cons.mp hreturn with rfl | hreturn
    · rfl
    · rw [ih h.2 hreturn, Bool.and_false]

end WireErrors.Source
