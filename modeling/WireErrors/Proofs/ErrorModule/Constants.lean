import WireErrors.Proofs.ErrorModule.Variants

/-!
# Constants of declared errors

A constant tells the words of a name up to upper case (`constantName_eq_iff`), and a variant more
than that: what small letters follow a capital. Names with variants of their own have constants of
their own where letters that agree in upper case agree in lower case too, and only there
(`constants_nodup_iff`). The check of names looks at variants alone.
-/

namespace WireErrors

namespace Text

/-! ## Joined words -/

theorem intercalate_ne_nil {mark : Char} {first : List Char} {rest : List (List Char)}
    (hfirst : first ≠ []) : List.intercalate [mark] (first :: rest) ≠ [] := by
  cases rest with
  | nil => simpa [List.intercalate] using hfirst
  | cons second rest =>
    rw [intercalate_cons]
    exact List.append_ne_nil_of_left_ne_nil hfirst _

/-- Parts that are not empty can be told from the text that they are joined to. -/
theorem intercalate_inj {mark : Char} {left right : List (List Char)}
    (hleft : ∀ part ∈ left, part ≠ [] ∧ mark ∉ part)
    (hright : ∀ part ∈ right, part ≠ [] ∧ mark ∉ part)
    (h : List.intercalate [mark] left = List.intercalate [mark] right) : left = right := by
  cases left with
  | nil =>
    cases right with
    | nil => rfl
    | cons first rest =>
      exact absurd h.symm (intercalate_ne_nil (hright first List.mem_cons_self).1)
  | cons first rest =>
    cases right with
    | nil => exact absurd h (intercalate_ne_nil (hleft first List.mem_cons_self).1)
    | cons other others =>
      have hsplit := congrArg (splitAt mark) h
      rwa [splitAt_intercalate (List.cons_ne_nil _ _) fun part hpart => (hleft part hpart).2,
        splitAt_intercalate (List.cons_ne_nil _ _) fun part hpart => (hright part hpart).2] at hsplit

/-! ## Words in upper case -/

/-- The words of a text in upper case. -/
def capitalWords (text : List Char) : List (List Char) := (words text).map (List.flatMap upper)

theorem mem_capitalWords {text part : List Char} (h : part ∈ capitalWords text) :
    part ≠ [] ∧ '_' ∉ part := by
  obtain ⟨word, hword, rfl⟩ := List.mem_map.mp h
  refine ⟨fun hnil => ne_nil_of_mem_words hword (flatMap_upper_eq_nil hnil), fun hmark => ?_⟩
  obtain ⟨c, hc, hd⟩ := List.mem_flatMap.mp hmark
  exact absurd (isLetter_of_mem_upper (isLetter_of_mem_words hword c hc) hd) (by decide)

theorem shoutySnake_inj {left right : List Char} (h : shoutySnake left = shoutySnake right) :
    capitalWords left = capitalWords right :=
  intercalate_inj (fun _ => mem_capitalWords) (fun _ => mem_capitalWords) h

/-! ## Steady letters -/

/-- Whether a character has one upper-case form, of which it can be told what its lower-case form
is. Capital sigma has two, by its place. -/
def isSteady (c : Char) : Bool :=
  c != 'Σ' &&
    match upper c with
    | [capital] => lower capital == lower c
    | _ => false

theorem of_isSteady {c : Char} (h : isSteady c = true) :
    c ≠ 'Σ' ∧ ∃ capital, upper c = [capital] ∧ lower capital = lower c := by
  unfold isSteady at h
  rw [Bool.and_eq_true] at h
  obtain ⟨hsigma, hcapital⟩ := h
  refine ⟨by simpa using hsigma, ?_⟩
  split at hcapital
  next capital hupper => exact ⟨capital, hupper, by simpa using hcapital⟩
  next => cases hcapital

theorem lowerTail_of_steady {text : List Char} (h : ∀ c ∈ text, isSteady c = true) :
    lowerTail text = text.flatMap lower := by
  fun_induction lowerTail text with
  | case1 => rfl
  | case2 => exact absurd rfl (of_isSteady (h 'Σ' List.mem_cons_self)).1
  | case3 c => rw [List.flatMap_singleton]
  | case4 c rest _ ih =>
    rw [List.flatMap_cons, ih fun d hd => h d (List.mem_cons_of_mem c hd)]

theorem flatMap_lower_of_upper {left right : List Char} (hleft : ∀ c ∈ left, isSteady c = true)
    (hright : ∀ c ∈ right, isSteady c = true) (h : left.flatMap upper = right.flatMap upper) :
    left.flatMap lower = right.flatMap lower := by
  induction left generalizing right with
  | nil => rw [flatMap_upper_eq_nil h.symm]
  | cons c left ih =>
    cases right with
    | nil => cases flatMap_upper_eq_nil h
    | cons d right =>
      rw [List.forall_mem_cons] at hleft hright
      obtain ⟨-, capital, hc, hlower⟩ := of_isSteady hleft.1
      obtain ⟨-, other, hd, hother⟩ := of_isSteady hright.1
      rw [List.flatMap_cons, List.flatMap_cons, hc, hd, List.singleton_append,
        List.singleton_append, List.cons.injEq] at h
      obtain ⟨rfl, hrest⟩ := h
      rw [List.flatMap_cons, List.flatMap_cons, ← hlower, hother, ih hleft.2 hright.2 hrest]

theorem capitalized_of_upper {left right : List Char} (hleft : ∀ c ∈ left, isSteady c = true)
    (hright : ∀ c ∈ right, isSteady c = true) (h : left.flatMap upper = right.flatMap upper) :
    capitalized left = capitalized right := by
  cases left with
  | nil => rw [flatMap_upper_eq_nil h.symm]
  | cons c left =>
    cases right with
    | nil => cases flatMap_upper_eq_nil h
    | cons d right =>
      rw [List.forall_mem_cons] at hleft hright
      obtain ⟨-, capital, hc, -⟩ := of_isSteady hleft.1
      obtain ⟨-, other, hd, -⟩ := of_isSteady hright.1
      rw [List.flatMap_cons, List.flatMap_cons, hc, hd, List.singleton_append,
        List.singleton_append, List.cons.injEq] at h
      obtain ⟨rfl, hrest⟩ := h
      rw [capitalized, capitalized, hc, hd, lowerTail_of_steady hleft.2,
        lowerTail_of_steady hright.2, flatMap_lower_of_upper hleft.2 hright.2 hrest]

theorem flatMap_capitalized_of_upper {left right : List (List Char)}
    (hleft : ∀ word ∈ left, ∀ c ∈ word, isSteady c = true)
    (hright : ∀ word ∈ right, ∀ c ∈ word, isSteady c = true)
    (h : left.map (List.flatMap upper) = right.map (List.flatMap upper)) :
    left.flatMap capitalized = right.flatMap capitalized := by
  induction left generalizing right with
  | nil => rw [List.map_eq_nil_iff.mp h.symm]
  | cons first left ih =>
    cases right with
    | nil => cases h
    | cons other right =>
      rw [List.forall_mem_cons] at hleft hright
      rw [List.map_cons, List.map_cons, List.cons.injEq] at h
      rw [List.flatMap_cons, List.flatMap_cons, capitalized_of_upper hleft.1 hright.1 h.1,
        ih hleft.2 hright.2 h.2]

/-- Whether all letters and numbers of a text are steady. -/
def SteadyText (text : List Char) : Prop := ∀ c ∈ text, isAlphanumeric c = true → isSteady c = true

instance (text : List Char) : Decidable (SteadyText text) :=
  inferInstanceAs (Decidable (∀ c ∈ text, isAlphanumeric c = true → isSteady c = true))

theorem upperCamel_of_capitalWords {left right : List Char} (hleft : SteadyText left)
    (hright : SteadyText right) (h : capitalWords left = capitalWords right) :
    upperCamel left = upperCamel right :=
  flatMap_capitalized_of_upper (forall_mem_words hleft) (forall_mem_words hright) h

end Text

open Source Text

/-! ## Constants of the option set -/

theorem constantName_eq_iff {first second : String} :
    constantName first = constantName second ↔
      capitalWords first.toList = capitalWords second.toList := by
  refine ⟨fun h => shoutySnake_inj ?_, fun h => ?_⟩
  · have hchars := congrArg String.toList h
    rwa [constantName, constantName, String.toList_ofList, String.toList_ofList] at hchars
  · exact congrArg (fun parts => String.ofList (List.intercalate ['_'] parts)) h

theorem variantName_of_constantName {first second : String} (hfirst : SteadyText first.toList)
    (hsecond : SteadyText second.toList) (h : constantName first = constantName second) :
    variantName first = variantName second :=
  congrArg String.ofList (upperCamel_of_capitalWords hfirst hsecond (constantName_eq_iff.mp h))

/-- The name of a member that is a constant. -/
def constantOf? : Member → Option String
  | .constant c => some c.name
  | _ => none

/-- The names of the constants among the members that items give to types. -/
def constantsOf (items : List Item) : List String :=
  items.flatMap fun
    | .implementation _ _ _ _ _ none _ members => members.filterMap constantOf?
    | _ => []

namespace ErrorModule

variable {target : String} {names : List String} {unknown : String} {reserved : List String}

theorem constantsOf_optionSet (types : TypeNames) (conformance : Conformance) (expected : String)
    (names : List String) :
    constantsOf (ErrorTypes.optionSet types conformance expected (declaredFor names)) =
      names.map constantName := by
  have hdeclared : (declaredFor names).filterMap (constantOf? ∘ ErrorTypes.constantDeclaration) =
      names.map constantName := by
    rw [declaredFor, List.filterMap_map]
    show names.filterMap (fun name => some (constantName name)) = _
    rw [List.filterMap_eq_map']
  cases conformance <;>
    simp [constantsOf, ErrorTypes.optionSet, ErrorTypes.conformanceImpl, ErrorTypes.displayImpl,
      ErrorTypes.implementation, List.filterMap_map, hdeclared, constantOf?, ErrorTypes.getter]

/-- **When the constants of the option set differ.** The check of names does not look at them: they
differ exactly if no two names have the same words in upper case, which variants of their own bring
about for names of steady letters. -/
theorem constants_nodup_iff (types : TypeNames) (conformance : Conformance) (expected : String)
    (h : (validateNames target names unknown reserved).result = .ok ()) :
    ((constantsOf (ErrorTypes.optionSet types conformance expected (declaredFor names))).Nodup ↔
      (names.map fun name => capitalWords name.toList).Nodup) ∧
    ((∀ name ∈ names, SteadyText name.toList) →
      (constantsOf (ErrorTypes.optionSet types conformance expected (declaredFor names))).Nodup) := by
  rw [constantsOf_optionSet]
  have hvariants := (accepted_of_validateNames h).variants_nodup
  refine ⟨?_, fun hsteady => ?_⟩
  · simp only [List.Nodup, List.pairwise_map, ne_eq, constantName_eq_iff]
  · rw [List.Nodup, List.pairwise_map] at hvariants ⊢
    refine hvariants.imp_of_mem fun hfirst hsecond hne hequal => hne ?_
    exact variantName_of_constantName (hsteady _ hfirst) (hsteady _ hsecond) hequal

theorem constants_nodup_throttling :
    (constantsOf (ErrorTypes.optionSet ⟨"QueueError", "QueueErrorTypes", "UnknownError", none⟩
      .display "Display" (declaredFor ["Throttling", "Invalid.Input"]))).Nodup := by
  have haccepted : (validateNames "rust" ["Throttling", "Invalid.Input"] "UnknownError" []).result =
      .ok () := rfl
  exact (constants_nodup_iff _ _ _ haccepted).2 (by decide +kernel)

/-- The variants of two names differ by the letter that upper case writes as two. -/
theorem constants_sharp_collision :
    (validateNames "rust" ["strasse", "straße"] "UnknownError" []).result = .ok () ∧
      constantsOf (ErrorTypes.optionSet ⟨"QueueError", "QueueErrorTypes", "UnknownError", none⟩
        .display "Display" (declaredFor ["strasse", "straße"])) = ["STRASSE", "STRASSE"] := ⟨rfl, rfl⟩

end ErrorModule

end WireErrors
