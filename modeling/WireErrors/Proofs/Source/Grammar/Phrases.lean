import WireErrors.Proofs.Source.Documents
import WireErrors.Proofs.Splitting

/-!
# Phrases

A phrase is a list of tokens that is read as something, whatever that is. Phrases for the parts of an
item make a phrase for the item: values and patterns an arm, arms and other statements a body, bodies
members, and members an implementation. No phrase needs more rounds than it has tokens.
-/

namespace WireErrors.Source.Reader

variable {α : Type} {reader : Nat → Reader α} {follows : List Token → Prop} {word : String}
  {tokens : List Token} {parts : List (List Token)}

/-! ## Phrases -/

/-- Tokens that are read as something in front of what may follow, and may follow themselves. -/
structure Phrase (follows : List Token → Prop) (reader : Nat → Reader α) (tokens : List Token) :
    Prop where
  reads : ∀ depth rounds, tokens.length < rounds + 12 →
    ∃ a, ReadsPart (reader depth) (rounds + 12) follows tokens a
  balanced : Balanced tokens
  plain : ∀ rest, startsInner (tokens ++ rest) = false

/-- What may follow where anything may. -/
def Anything : List Token → Prop := fun _ => True

theorem Phrase.ne_nil (h : Phrase follows reader tokens) : tokens ≠ [] := by
  rintro rfl
  obtain ⟨a, hread⟩ := h.reads 0 0 (by decide)
  cases hread.starts []

theorem exists_many {element? : Reader (Option α)} {rounds : Nat}
    (h : ∀ part ∈ parts, ∃ a, ∀ rest, Yields element? rounds (part ++ rest) (some a) rest)
    (hrounds : parts.length < rounds) :
    ∃ items, ∀ rest, Yields element? rounds rest none rest →
      Yields (many element?) rounds (parts.flatten ++ rest) items rest := by
  obtain ⟨items, hitems⟩ := Text.exists_forall₂ h
  exact ⟨items, fun _ hstop => .bind (yields_limit rounds _) (yields_manyParts hitems hstop hrounds)⟩

theorem length_part_le_flatten {part : List Token} (h : part ∈ parts) :
    part.length ≤ parts.flatten.length := (List.sublist_flatten_of_mem h).length_le

theorem length_parts_le_flatten (h : ∀ part ∈ parts, part ≠ []) :
    parts.length ≤ parts.flatten.length := by
  have hlength : parts.length ≤ (parts.flatMap id).length := length_le_flatMap h
  rwa [List.flatMap_id] at hlength

theorem balanced_flatten (h : ∀ part ∈ parts, Balanced part) : Balanced parts.flatten := by
  induction parts with
  | nil => exact balanced_nil
  | cons part parts ih =>
    rw [List.forall_mem_cons] at h
    exact h.1.append (ih h.2)

theorem length_flatten_le_withCommas (trailing : Bool) (parts : List (List Token)) :
    parts.flatten.length ≤ (withCommas trailing parts).length := by
  fun_induction withCommas trailing parts with
  | case1 => exact Nat.le_refl 0
  | case2 part => simp
  | case3 part second parts ih =>
    rw [List.flatten_cons]
    simp only [List.length_append] at ih ⊢
    omega

theorem balanced_withCommas (h : ∀ part ∈ parts, Balanced part) (trailing : Bool) :
    Balanced (withCommas trailing parts) := by
  have hcomma : Balanced (Token.sign ",") := balanced_iff.mpr rfl
  fun_induction withCommas trailing parts with
  | case1 => exact balanced_nil
  | case2 part =>
    have hpart := h part List.mem_cons_self
    cases trailing with
    | false => exact hpart.append balanced_nil
    | true => exact hpart.append hcomma
  | case3 part second parts ih =>
    rw [List.forall_mem_cons] at h
    exact (h.1.append hcomma).append (ih h.2)

theorem exists_upTo (h : ∀ part ∈ parts, Phrase follows reader part) {d : Delimiter}
    (hclosing : ∀ rest, follows (.closing d :: rest)) (depth rounds : Nat)
    (hrounds : parts.flatten.length < rounds + 12) :
    ∃ items, ∀ rest, Yields (upTo d (reader depth)) (rounds + 12) (parts.flatten ++ .closing d :: rest)
      items rest := by
  have hall : ∀ part ∈ parts, ∃ a, ReadsPart (reader depth) (rounds + 12) follows part a :=
    fun part hpart => (h part hpart).reads depth rounds
      (Nat.lt_of_le_of_lt (length_part_le_flatten hpart) hrounds)
  obtain ⟨items, hitems⟩ := Text.exists_forall₂ hall
  have hlength := length_parts_le_flatten fun part hpart => (h part hpart).ne_nil
  exact ⟨items, fun rest => .bind (yields_limit _ _)
    (yields_upToParts hitems hclosing (Nat.lt_of_le_of_lt hlength hrounds) rest)⟩

theorem not_startsInner_flatten (h : ∀ part ∈ parts, Phrase follows reader part) (d : Delimiter)
    (rest : List Token) : startsInner (parts.flatten ++ .closing d :: rest) = false := by
  cases parts with
  | nil => rfl
  | cons part parts =>
    rw [List.flatten_cons, List.append_assoc]
    exact (h part List.mem_cons_self).plain _

/-! ## Implementations -/

def memberAt (depth : Nat) : Reader Member := member (Reader.readers (depth + 13))

def itemAt (depth : Nat) : Reader Item := (Reader.readers (depth + 14)).item

theorem length_group (d : Delimiter) (tokens : List Token) :
    (Token.group d tokens).length = tokens.length + 2 := by
  simp [Token.group]

theorem phrase_inherent (hword : isKeyword word = false)
    (hparts : ∀ part ∈ parts, Phrase Anything memberAt part) :
    Phrase Anything itemAt (.ident "impl" :: .ident word :: Token.group .brace parts.flatten) where
  reads depth rounds hrounds := by
    simp only [List.length_cons, length_group] at hrounds
    obtain ⟨members, hmembers⟩ := exists_upTo hparts (d := .brace) (fun _ => trivial) depth
      rounds (by omega)
    refine ⟨.implementation [] false false {} false none (.named word) members,
      fun rest _ => ?_, fun _ => rfl, fun _ => trivial⟩
    rw [List.cons_append, List.cons_append, group_append]
    exact yields_inherent hword (not_startsInner_flatten hparts .brace rest) (hmembers rest)
  balanced := balanced_ident _ (balanced_ident _
    (.group _ (balanced_flatten fun part hpart => (hparts part hpart).balanced)))
  plain _ := rfl

/-- A path that names the trait of an implementation. -/
structure TraitPath (tokens : List Token) : Prop where
  reads : ∀ depth rounds, ∃ type, implementation.isPath type = true ∧ ∀ rest,
    Yields (wholeType (Reader.readers (depth + 13))) (rounds + 12) (tokens ++ .ident "for" :: rest) type
      (.ident "for" :: rest)
  starts : ∀ rest, StartsType (tokens ++ rest)
  balanced : Balanced tokens

theorem phrase_interface {interface : List Token} (hinterface : TraitPath interface)
    (hword : isKeyword word = false) (hparts : ∀ part ∈ parts, Phrase Anything memberAt part) :
    Phrase Anything itemAt (.ident "impl" :: (interface ++ .ident "for" :: .ident word ::
      Token.group .brace parts.flatten)) where
  reads depth rounds hrounds := by
    simp only [List.length_cons, List.length_append, length_group] at hrounds
    obtain ⟨members, hmembers⟩ := exists_upTo hparts (d := .brace) (fun _ => trivial) depth
      rounds (by omega)
    obtain ⟨type, hpath, htype⟩ := hinterface.reads depth rounds
    refine ⟨.implementation [] false false {} false (some type) (.named word) members,
      fun rest _ => ?_, fun _ => rfl, fun _ => trivial⟩
    rw [List.cons_append, List.append_assoc, List.cons_append, List.cons_append, group_append]
    exact yields_interface hword (hinterface.starts _) hpath (htype _)
      (not_startsInner_flatten hparts .brace rest) (hmembers rest)
  balanced := balanced_ident _ (hinterface.balanced.append (balanced_ident _ (balanced_ident _
    (.group _ (balanced_flatten fun part hpart => (hparts part hpart).balanced)))))
  plain _ := rfl

/-! ## Statements -/

/-- Tokens that are read as the statements in braces. -/
structure Statements (tokens : List Token) : Prop where
  reads : ∀ depth rounds steps, tokens.length < rounds + 12 → tokens.length < steps →
    ∃ statements, ∀ rest, Yields (statementRounds (Reader.readers (depth + 12)) steps) (rounds + 12)
      (tokens ++ .closing .brace :: rest) statements rest
  balanced : Balanced tokens
  plain : ∀ rest, startsInner (tokens ++ rest) = false

/-- Statements that may stand behind others. -/
structure FurtherStatements (tokens : List Token) : Prop extends Statements tokens where
  ends : ∀ rest, EndsBlock (tokens ++ rest)
  more : ∀ rest, isEnd (tokens ++ rest) = false

/-- Tokens that are read as a statement by itself. -/
structure BlockStatement (tokens : List Token) : Prop where
  reads : ∀ depth rounds, tokens.length < rounds + 12 → ∃ value, value.needsSemicolon = false ∧
    ∀ rest, EndsBlock rest → Yields (statement (Reader.readers (depth + 12))) (rounds + 12)
      (tokens ++ rest) (.expr value false) rest
  ends : ∀ rest, EndsBlock (tokens ++ rest)
  more : ∀ rest, isEnd (tokens ++ rest) = false
  balanced : Balanced tokens
  plain : ∀ rest, startsInner (tokens ++ rest) = false

theorem BlockStatement.statements (h : BlockStatement tokens) : FurtherStatements tokens where
  reads depth rounds steps hrounds hsteps := by
    obtain ⟨steps, rfl⟩ := Nat.exists_eq_succ_of_ne_zero (Nat.ne_of_gt (Nat.zero_lt_of_lt hsteps))
    obtain ⟨value, -, hread⟩ := h.reads depth rounds hrounds
    exact ⟨_, fun rest => yields_statementRounds_last (h.ends _).no_semicolon (h.more _)
      (hread _ ⟨rfl, rfl, rfl⟩)⟩
  balanced := h.balanced
  plain := h.plain
  ends := h.ends
  more := h.more

theorem BlockStatement.append {behind : List Token} (h : BlockStatement tokens)
    (hbehind : FurtherStatements behind) : FurtherStatements (tokens ++ behind) where
  reads depth rounds steps hrounds hsteps := by
    have hpositive : 0 < tokens.length := by
      refine List.length_pos_iff.mpr ?_
      rintro rfl
      cases h.more []
    rw [List.length_append] at hrounds hsteps
    obtain ⟨steps, rfl⟩ := Nat.exists_eq_succ_of_ne_zero (Nat.ne_of_gt (Nat.zero_lt_of_lt hsteps))
    obtain ⟨value, hvalue, hread⟩ := h.reads depth rounds (by omega)
    obtain ⟨statements, hstatements⟩ := hbehind.reads depth rounds steps (by omega) (by omega)
    refine ⟨.expr value false :: statements, fun rest => ?_⟩
    rw [List.append_assoc]
    exact yields_statementRounds_cons (h.ends _).no_semicolon (h.more _) (hread _ (hbehind.ends _))
      (hbehind.more _) hvalue (hstatements rest)
  balanced := h.balanced.append hbehind.balanced
  plain rest := by
    rw [List.append_assoc]
    exact h.plain _
  ends rest := by
    rw [List.append_assoc]
    exact h.ends _
  more rest := by
    rw [List.append_assoc]
    exact h.more _

/-- Tokens that are read as a function up to its statements. -/
structure FunctionHead (tokens : List Token) : Prop where
  reads : ∀ depth rounds, ∃ s, ∀ inside, ReadsSignature (Reader.readers (depth + 13)) (rounds + 12)
    (tokens ++ .opening .brace :: inside) s (.opening .brace :: inside)
  starts : ∀ rest, isEnd (tokens ++ rest) = false
  balanced : Balanced tokens
  plain : ∀ rest, startsInner (tokens ++ rest) = false

theorem phrase_function {front : List Token} (hfront : FunctionHead front)
    (hbody : Statements tokens) :
    Phrase Anything memberAt (front ++ Token.group .brace tokens) where
  reads depth rounds hrounds := by
    rw [List.length_append, length_group] at hrounds
    obtain ⟨s, hread⟩ := hfront.reads depth rounds
    obtain ⟨statements, hstatements⟩ := hbody.reads depth rounds (rounds + 12) (by omega) (by omega)
    refine ⟨.function { s with body := statements }, fun rest _ => ?_, fun rest => ?_,
      fun _ => trivial⟩
    · have hinside : Yields (Reader.readers (depth + 13)).statements (rounds + 12)
          (tokens ++ .closing .brace :: rest) statements rest :=
        .bind (yields_limit _ _) (hstatements rest)
      rw [List.append_assoc, group_append]
      exact yields_member_function (hread _) (hbody.plain _) hinside
    · rw [List.append_assoc]
      exact hfront.starts _
  balanced := hfront.balanced.append (hbody.balanced.group .brace)
  plain rest := by
    rw [List.append_assoc]
    exact hfront.plain _

/-! ## Arms -/

/-- What may follow an arm that ends with a brace. -/
structure FollowsArm (rest : List Token) : Prop where
  ends : endsStatement rest = true
  no_comma : afterSign? ",".toList rest = none

def armAt (depth : Nat) : Reader Arm := arm (Reader.readers (depth + 11))

/-- Tokens at the start of the pattern of an arm. -/
structure StartsPattern (tokens : List Token) : Prop where
  no_hash : afterSign? "#".toList tokens = none
  more : isEnd tokens = false
  plain : startsInner tokens = false
  follows : FollowsArm tokens

/-- Tokens that are read as the pattern of an arm. -/
structure ArmPattern (tokens : List Token) : Prop where
  reads : ∀ depth rounds, ∃ pattern, ∀ rest, Yields (alternatives (Reader.readers (depth + 11)))
    (rounds + 12) (tokens ++ .mark '=' true :: .mark '>' false :: rest) pattern
    (.mark '=' true :: .mark '>' false :: rest)
  starts : ∀ rest, StartsPattern (tokens ++ rest)
  balanced : Balanced tokens

/-- Tokens at the start of a value. -/
structure StartsValue (tokens : List Token) : Prop where
  no_hash : afterSign? "#".toList tokens = none
  no_let : startsWithWord "let" tokens = false
  no_item : startsItem tokens = false
  no_semicolon : afterSign? ";".toList tokens = none
  more : isEnd tokens = false
  plain : startsInner tokens = false

/-- Tokens that are read as a value without a block, as a statement or not. -/
structure PlainValue (tokens : List Token) : Prop where
  reads : ∀ depth rounds, ∃ value : Expr, value.standsAlone = false ∧
    statement.ofExpr value false = .expr value false ∧ ∀ rest, Stops rest →
      Yields ((Reader.readers (depth + 9)).expr .statement) (rounds + 12) (tokens ++ rest) value rest
  kind : ∀ rounds rest, Stops rest →
    Yields invocationKind (rounds + 12) (tokens ++ rest) .expr (tokens ++ rest)
  starts : ∀ rest, StartsValue (tokens ++ rest)
  balanced : Balanced tokens

theorem PlainValue.exists_statements (h : PlainValue tokens) (depth rounds steps : Nat) :
    ∃ statements, ∀ rest, Yields (statementRounds (Reader.readers (depth + 9)) (steps + 1))
      (rounds + 12) (tokens ++ .closing .brace :: rest) statements rest := by
  obtain ⟨value, -, hvalue, hread⟩ := h.reads depth rounds
  refine ⟨[.expr value false], fun rest =>
    yields_statementRounds_last (h.starts _).no_semicolon (h.starts _).more ?_⟩
  exact yields_statement (h.starts _).no_hash (h.kind rounds _ (.closing _ _)) (h.starts _).no_let
    (h.starts _).no_item (hread _ (.closing _ _)) (yields_no_sign rfl) hvalue

theorem PlainValue.statements (h : PlainValue tokens) : Statements tokens where
  reads depth rounds steps _ hsteps := by
    obtain ⟨steps, rfl⟩ := Nat.exists_eq_succ_of_ne_zero (Nat.ne_of_gt (Nat.zero_lt_of_lt hsteps))
    exact h.exists_statements (depth + 3) rounds steps
  balanced := h.balanced
  plain rest := (h.starts rest).plain

theorem PlainValue.exists_block (h : PlainValue tokens) (depth rounds : Nat) :
    ∃ value : Expr, value.standsAlone = true ∧ ∀ rest, endsStatement rest = true →
      Yields ((Reader.readers (depth + 11)).expr .statement) (rounds + 12)
        (Token.group .brace tokens ++ rest) value rest := by
  obtain ⟨statements, hstatements⟩ := h.exists_statements depth rounds (rounds + 11)
  refine ⟨.block .plain none (.mk [] statements), rfl, fun rest hrest => ?_⟩
  have hbody : Yields (body (Reader.readers (depth + 10))) (rounds + 12)
      (Token.group .brace tokens ++ rest) (.mk [] statements) rest := by
    rw [group_append]
    refine .step () (tokens ++ .closing .brace :: rest) rfl ?_
    refine .bind (yields_no_innerAttributes (h.starts _).plain) ?_
    exact .bind (.bind (yields_limit _ _) (hstatements rest)) (yields_pure _ _ _)
  have hblock : Yields (keywordBlock? (Reader.readers (depth + 10))) (rounds + 12)
      (Token.group .brace tokens ++ rest) (some (.block .plain none (.mk [] statements))) rest := by
    refine .bind (yields_get _ _) ?_
    refine .of_neg rfl ?_
    refine .bind (yields_no_word rfl) (.of_neg rfl ?_)
    refine .bind (yields_no_word rfl) (.of_neg rfl ?_)
    refine .bind (yields_no_word rfl) (.of_neg rfl ?_)
    have hplain : Yields (do
        return some (Expr.block .plain none (← body (Reader.readers (depth + 10))))) (rounds + 12)
          (Token.group .brace tokens ++ rest) (some (.block .plain none (.mk [] statements))) rest :=
      .bind hbody (yields_pure _ _ _)
    refine .of_either ?_ ?_
    · refine .bind (yields_no_word rfl) (.of_neg rfl ?_)
      refine .bind (yields_no_word rfl) (.of_neg rfl ?_)
      exact .of_pos rfl hplain
    · exact .of_pos rfl hplain
  show Yields (statementExpr (Reader.readers (depth + 10))) _ _ _ _
  refine .bind (yields_no_outerAttributes rfl) ?_
  refine .bind hblock ?_
  refine .bind (yields_pure _ _ _) ?_
  refine .of_neg rfl ?_
  refine .bind (yields_peek hrest _) (.of_pos rfl ?_)
  rw [withAttributes_nil]
  exact yields_pure _ _ _

theorem phrase_arm {pattern value behind : List Token} (hpattern : ArmPattern pattern)
    (hvalue : PlainValue value)
    (hbehind : behind = value ++ Token.sign "," ∨ behind = Token.group .brace value) :
    Phrase FollowsArm armAt (pattern ++ .mark '=' true :: .mark '>' false :: behind) where
  reads depth rounds _ := by
    obtain ⟨p, hread⟩ := hpattern.reads depth rounds
    have hstarts (rest : List Token) : isEnd
        (pattern ++ .mark '=' true :: .mark '>' false :: behind ++ rest) = false := by
      rw [List.append_assoc]
      exact (hpattern.starts _).more
    have hfollows (rest : List Token) : FollowsArm
        (pattern ++ .mark '=' true :: .mark '>' false :: behind ++ rest) := by
      rw [List.append_assoc]
      exact (hpattern.starts _).follows
    rcases hbehind with rfl | rfl
    · obtain ⟨v, hstands, -, hvalue⟩ := hvalue.reads (depth + 2) rounds
      refine ⟨.plain p v, fun rest _ => ?_, hstarts, hfollows⟩
      simp only [List.append_assoc, List.cons_append]
      exact yields_arm_value (hpattern.starts _).no_hash (hread _) (hvalue _ (.comma _)) (.comma hstands _)
    · obtain ⟨v, hstands, hvalue⟩ := hvalue.exists_block depth rounds
      refine ⟨.plain p v, fun rest hrest => ?_, hstarts, hfollows⟩
      simp only [List.append_assoc, List.cons_append]
      exact yields_arm_value (hpattern.starts _).no_hash (hread _) (hvalue _ hrest.ends)
        (.block hstands hrest.no_comma)
  balanced := by
    have hend : Balanced behind := by
      rcases hbehind with rfl | rfl
      · exact hvalue.balanced.append (balanced_iff.mpr rfl)
      · exact hvalue.balanced.group .brace
    have harrow : Balanced [.mark '=' true, .mark '>' false] := balanced_iff.mpr rfl
    exact hpattern.balanced.append (harrow.append hend)
  plain rest := by
    rw [List.append_assoc]
    exact (hpattern.starts _).plain

theorem blockStatement_choice {subject : String} (hsubject : subject = "self" ∨ subject = "error_type")
    (hparts : ∀ part ∈ parts, Phrase FollowsArm armAt part) :
    BlockStatement (.ident "match" :: .ident subject :: Token.group .brace parts.flatten) where
  reads depth rounds hrounds := by
    simp only [List.length_cons, length_group] at hrounds
    obtain ⟨arms, harms⟩ := exists_upTo hparts (d := .brace) (fun _ => ⟨rfl, rfl⟩) depth
      rounds (by omega)
    refine ⟨.select (.names [subject]) [] arms, rfl, fun rest hrest => ?_⟩
    have hchoice : Yields (Reader.subject (Reader.readers (depth + 11))) (rounds + 12)
        (.ident subject :: .opening .brace :: (parts.flatten ++ .closing .brace :: rest))
        (.names [subject]) (.opening .brace :: (parts.flatten ++ .closing .brace :: rest)) := by
      obtain rfl | rfl := hsubject <;> rfl
    rw [List.cons_append, List.cons_append, group_append]
    exact yields_choice hchoice (not_startsInner_flatten hparts .brace rest) (harms rest) hrest
  ends _ := ⟨rfl, rfl, rfl⟩
  more _ := rfl
  balanced := balanced_ident _ (balanced_ident _
    (.group _ (balanced_flatten fun part hpart => (hparts part hpart).balanced)))
  plain _ := rfl

/-! ## Files -/

theorem exists_ofTokens {front : List Token} (hlength : 12 ≤ front.length)
    (hfront : ∀ depth rounds, ∃ attributes, ∀ rest, startsInner rest = false →
      Yields (innerAttributes (Reader.readers depth)) (rounds + 12) (front ++ rest) attributes rest)
    (hparts : ∀ part ∈ parts, Phrase Anything itemAt part) :
    ∃ file, File.ofTokens (front ++ parts.flatten) = .ok file := by
  have hcount := length_parts_le_flatten fun part hpart => (hparts part hpart).ne_nil
  have hwhole : (front ++ parts.flatten).length = front.length + parts.flatten.length :=
    List.length_append
  obtain ⟨rounds, hrounds⟩ := Nat.exists_eq_add_of_le'
    (show 12 ≤ (front ++ parts.flatten).length + 1 by omega)
  obtain ⟨depth, hdepth⟩ := Nat.exists_eq_add_of_le'
    (show 14 ≤ 4 * ((front ++ parts.flatten).length + 1) by omega)
  have hitem : ∀ part ∈ parts, ∃ item, ∀ rest, (part ++ rest).isEmpty = false ∧
      Yields (Reader.readers (depth + 14)).item (rounds + 12) (part ++ rest) item rest := by
    intro part hpart
    have hpartLength := length_part_le_flatten hpart
    obtain ⟨item, hitem⟩ := (hparts part hpart).reads depth rounds (by omega)
    exact ⟨item, fun rest => ⟨by simp [(hparts part hpart).ne_nil], hitem.yields rest trivial⟩⟩
  have hplain : startsInner parts.flatten = false := by
    cases parts with
    | nil => rfl
    | cons part parts => exact (hparts part List.mem_cons_self).plain _
  obtain ⟨items, hitems⟩ := Text.exists_forall₂ hitem
  obtain ⟨attributes, hattributes⟩ := hfront (depth + 14) rounds
  have henough : parts.length < (front ++ parts.flatten).length + 1 := by omega
  refine ⟨{ attributes, items }, ofTokens_parts ?_ ?_ henough⟩
  · rw [hdepth, hrounds]
    exact hattributes _ hplain
  · rw [hdepth, hrounds]
    exact hitems

end WireErrors.Source.Reader
