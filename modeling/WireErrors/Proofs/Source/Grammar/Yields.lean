import Mathlib.Data.List.Forall2
import WireErrors.Source.Grammar.Item

/-!
# What readers yield

`Yields reader rounds tokens a rest` says that a reader reads `a` off the front of some tokens and
leaves the rest, with nothing left over in front of a closing delimiter. It is composed along the
steps of a reader (`Yields.bind`), and for the loops along the elements (`yields_upTo`,
`yields_commaList`, `yields_statementRounds_cons`).
-/

namespace WireErrors.Source

namespace Reader

variable {α β : Type} {rounds : Nat} {tokens middle rest : List Token} {a : α} {b : β}

/-- A reader reads a value and leaves the rest. -/
def Yields (reader : Reader α) (rounds : Nat) (tokens : List Token) (a : α) (rest : List Token) :
    Prop :=
  reader rounds tokens none = .ok ((a, rest), none)

/-! ## Steps -/

theorem Yields.bind {reader : Reader α} {next : α → Reader β} (h : Yields reader rounds tokens a middle)
    (hnext : Yields (next a) rounds middle b rest) :
    Yields (reader >>= next) rounds tokens b rest := by
  have hbind : (reader >>= next) rounds tokens none =
      Except.bind (reader rounds tokens none) fun r => next r.1.1 rounds r.1.2 r.2 := rfl
  unfold Yields at h ⊢
  rw [hbind, h]
  exact hnext

/-- A step with the value that it reads and what it leaves. -/
theorem Yields.step (a : α) (middle : List Token) {reader : Reader α} {next : α → Reader β}
    (h : Yields reader rounds tokens a middle) (hnext : Yields (next a) rounds middle b rest) :
    Yields (reader >>= next) rounds tokens b rest := h.bind hnext

theorem yields_pure (a : α) (rounds : Nat) (tokens : List Token) :
    Yields (pure a) rounds tokens a tokens := rfl

theorem Yields.map {reader : Reader α} (h : Yields reader rounds tokens a rest) (f : α → β) :
    Yields (f <$> reader) rounds tokens (f a) rest := by
  have hmap : (f <$> reader) rounds tokens none =
      Except.bind (reader rounds tokens none) fun r => .ok ((f r.1.1, r.1.2), r.2) := rfl
  unfold Yields at h ⊢
  rw [hmap, h]
  rfl

theorem Yields.discard {reader : Reader α} (h : Yields reader rounds tokens a rest) :
    Yields (discard reader) rounds tokens () rest :=
  h.map fun _ => ()

theorem Yields.of_pos {c : Bool} {first second : Reader α} (hc : c = true)
    (h : Yields first rounds tokens a rest) :
    Yields (if c then first else second) rounds tokens a rest := by
  rw [hc]
  exact h

theorem Yields.of_neg {c : Bool} {first second : Reader α} (hc : c = false)
    (h : Yields second rounds tokens a rest) :
    Yields (if c then first else second) rounds tokens a rest := by
  rw [hc]
  exact h

theorem Yields.of_branches {c : Bool} {first second : Reader α} {next : α → Reader β}
    (h : Yields (if c then first else second) rounds tokens a middle)
    (hnext : Yields (next a) rounds middle b rest) :
    Yields (if c then first >>= next else second >>= next) rounds tokens b rest := by
  cases c
  · exact h.bind hnext
  · exact h.bind hnext

theorem yields_get (rounds : Nat) (tokens : List Token) :
    Yields get rounds tokens tokens tokens := rfl

theorem yields_set (rounds : Nat) (tokens rest : List Token) :
    Yields (set rest) rounds tokens () rest := rfl

theorem yields_limit (rounds : Nat) (tokens : List Token) :
    Yields limit rounds tokens rounds tokens := rfl

theorem yields_peek {test : List Token → Bool} {found : Bool} (h : test tokens = found)
    (rounds : Nat) : Yields (peek test) rounds tokens found tokens :=
  congrArg (fun found => Except.ok ((found, tokens), none)) h

theorem yields_closing (d : Delimiter) (rounds : Nat) (rest : List Token) :
    Yields (closing d) rounds (.closing d :: rest) () rest := rfl

/-! ## Loops -/

/-- Parts that are read one behind the other: each of them is read as a value in front of what may
follow, and it may follow itself. -/
structure ReadsPart (element : Reader α) (rounds : Nat) (follows : List Token → Prop)
    (part : List Token) (a : α) : Prop where
  yields : ∀ rest, follows rest → Yields element rounds (part ++ rest) a rest
  starts : ∀ rest, isEnd (part ++ rest) = false
  follows : ∀ rest, follows (part ++ rest)

theorem yields_upToParts {d : Delimiter} {element : Reader α} {follows : List Token → Prop}
    {parts : List (List Token)} {items : List α}
    (hparts : List.Forall₂ (ReadsPart element rounds follows) parts items)
    (hclosing : ∀ rest, follows (.closing d :: rest)) {steps : Nat} (hsteps : parts.length < steps)
    (rest : List Token) :
    Yields (upToRounds d element steps) rounds (parts.flatten ++ .closing d :: rest) items rest := by
  induction hparts generalizing steps with
  | nil =>
    obtain ⟨steps, rfl⟩ := Nat.exists_eq_succ_of_ne_zero (Nat.ne_of_gt hsteps)
    exact .bind (yields_peek rfl rounds) (.bind (yields_closing d rounds rest) rfl)
  | @cons part item parts items hpart hparts ih =>
    obtain ⟨steps, rfl⟩ := Nat.exists_eq_succ_of_ne_zero (Nat.ne_of_gt (Nat.zero_lt_of_lt hsteps))
    have hfollows : follows (parts.flatten ++ .closing d :: rest) := by
      cases hparts with
      | nil => exact hclosing rest
      | cons hnext => rw [List.flatten_cons, List.append_assoc]; exact hnext.follows _
    rw [List.flatten_cons, List.append_assoc]
    refine .bind (yields_peek (hpart.starts _) rounds) ?_
    refine .bind (hpart.yields _ hfollows) ?_
    exact .bind (ih (Nat.lt_of_succ_lt_succ hsteps)) rfl

theorem yields_upTo {d : Delimiter} {element : Reader α} {spell : α → List Token} {items : List α}
    (hread : ∀ item ∈ items, ∀ rest, Yields element rounds (spell item ++ rest) item rest)
    (hstart : ∀ item ∈ items, ∀ rest, isEnd (spell item ++ rest) = false)
    (hrounds : items.length < rounds) (rest : List Token) :
    Yields (upTo d element) rounds (items.flatMap spell ++ .closing d :: rest) items rest := by
  have hparts : List.Forall₂ (ReadsPart element rounds fun _ => True) (items.map spell) items := by
    rw [List.forall₂_map_left_iff, List.forall₂_same]
    exact fun item hitem => ⟨fun rest _ => hread item hitem rest, hstart item hitem, fun _ => trivial⟩
  rw [List.flatMap_def]
  exact .bind (yields_limit rounds _)
    (yields_upToParts hparts (fun _ => trivial) (by rwa [List.length_map]) rest)

/-- Parts with a comma between two of them, and behind the last one if `trailing` says so. -/
def withCommas (trailing : Bool) : List (List Token) → List Token
  | [] => []
  | [part] => part ++ if trailing then Token.sign "," else []
  | part :: second :: parts => part ++ Token.sign "," ++ withCommas trailing (second :: parts)

/-- What stands behind an element of a list with commas. -/
inductive EndsElement (trailing : Bool) (d : Delimiter) : List Token → Prop
  | comma (rest : List Token) : EndsElement trailing d (.mark ',' false :: rest)
  | closing (h : trailing = false) (rest : List Token) : EndsElement trailing d (.closing d :: rest)

theorem yields_commaParts {d : Delimiter} {element : Reader α} {trailing : Bool}
    {parts : List (List Token)} {items : List α}
    (hparts : List.Forall₂ (fun part item =>
      (∀ rest, EndsElement trailing d rest → Yields element rounds (part ++ rest) item rest) ∧
        ∀ rest, isEnd (part ++ rest) = false) parts items) {steps : Nat}
    (hsteps : parts.length < steps) (rest : List Token) :
    Yields (commaRounds d element steps) rounds (withCommas trailing parts ++ .closing d :: rest)
      items rest := by
  induction hparts generalizing steps with
  | nil =>
    obtain ⟨steps, rfl⟩ := Nat.exists_eq_succ_of_ne_zero (Nat.ne_of_gt hsteps)
    exact .bind (yields_peek rfl rounds) (.bind (yields_closing d rounds rest) rfl)
  | @cons part item parts items hpart hparts ih =>
    obtain ⟨hread, hstart⟩ := hpart
    obtain ⟨steps, rfl⟩ := Nat.exists_eq_succ_of_ne_zero (Nat.ne_of_gt (Nat.zero_lt_of_lt hsteps))
    have hmore := ih (Nat.lt_of_succ_lt_succ hsteps)
    have hcomma (more : List Token) (hnext : Yields (commaRounds d element steps) rounds more items
        rest) : Yields (commaRounds d element (steps + 1)) rounds (part ++ .mark ',' false :: more)
          (item :: items) rest := by
      refine .bind (yields_peek (hstart _) rounds) ?_
      refine .bind (hread _ (.comma more)) ?_
      refine .bind (yields_peek rfl rounds) ?_
      refine .step () more rfl ?_
      exact .bind hnext rfl
    cases hparts with
    | nil =>
      cases htrailing : trailing with
      | true =>
        rw [htrailing] at hmore
        rw [withCommas, if_pos rfl, List.append_assoc]
        exact hcomma (.closing d :: rest) hmore
      | false =>
        rw [withCommas, if_neg Bool.false_ne_true, List.append_nil]
        refine .bind (yields_peek (hstart _) rounds) ?_
        refine .bind (hread _ (.closing htrailing rest)) ?_
        refine .bind (yields_peek rfl rounds) ?_
        exact .bind (yields_closing d rounds rest) rfl
    | cons =>
      rw [withCommas, List.append_assoc, List.append_assoc]
      exact hcomma _ hmore

theorem withCommas_true {β : Type} (spell : β → List Token) (items : List β) :
    withCommas true (items.map spell) = items.flatMap fun item => spell item ++ Token.sign "," := by
  induction items with
  | nil => rfl
  | cons item items ih =>
    cases items with
    | nil => simp [withCommas]
    | cons second items =>
      rw [List.flatMap_cons, ← ih]
      rfl

theorem yields_commaList {d : Delimiter} {element : Reader α} {spell : α → List Token}
    {items : List α}
    (hread : ∀ item ∈ items, ∀ rest, Yields element rounds (spell item ++ .mark ',' false :: rest)
      item (.mark ',' false :: rest))
    (hstart : ∀ item ∈ items, ∀ rest, isEnd (spell item ++ rest) = false)
    (hrounds : items.length < rounds) (rest : List Token) :
    Yields (commaList d element) rounds
      ((items.flatMap fun item => spell item ++ Token.sign ",") ++ .closing d :: rest) items rest := by
  rw [← withCommas_true]
  refine .bind (yields_limit rounds _) (yields_commaParts ?_ (by rwa [List.length_map]) rest)
  rw [List.forall₂_map_left_iff, List.forall₂_same]
  refine fun item hitem => ⟨?_, hstart item hitem⟩
  rintro _ (⟨more⟩ | ⟨⟨⟩⟩)
  exact hread item hitem more

theorem yields_manyParts {element? : Reader (Option α)} {parts : List (List Token)} {items : List α}
    (hparts : List.Forall₂ (fun part item => ∀ rest,
      Yields element? rounds (part ++ rest) (some item) rest) parts items)
    (hstop : Yields element? rounds rest none rest) {steps : Nat} (hsteps : parts.length < steps) :
    Yields (manyRounds element? steps) rounds (parts.flatten ++ rest) items rest := by
  induction hparts generalizing steps with
  | nil =>
    obtain ⟨steps, rfl⟩ := Nat.exists_eq_succ_of_ne_zero (Nat.ne_of_gt hsteps)
    exact .bind hstop rfl
  | cons hpart hparts ih =>
    obtain ⟨steps, rfl⟩ := Nat.exists_eq_succ_of_ne_zero (Nat.ne_of_gt (Nat.zero_lt_of_lt hsteps))
    rw [List.flatten_cons, List.append_assoc]
    refine .bind (hpart _) ?_
    exact .bind (ih (Nat.lt_of_succ_lt_succ hsteps)) rfl

theorem yields_many {element? : Reader (Option α)} {spell : α → List Token} {items : List α}
    (hread : ∀ item ∈ items, ∀ rest, Yields element? rounds (spell item ++ rest) (some item) rest)
    (hstop : Yields element? rounds rest none rest) (hrounds : items.length < rounds) :
    Yields (many element?) rounds (items.flatMap spell ++ rest) items rest := by
  rw [List.flatMap_def]
  refine .bind (yields_limit rounds _) (yields_manyParts ?_ hstop (by rwa [List.length_map]))
  rw [List.forall₂_map_left_iff, List.forall₂_same]
  exact hread

end Reader

end WireErrors.Source
