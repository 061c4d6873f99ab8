import WireErrors.Proofs.Formatted.Members
import WireErrors.Proofs.ErrorModule.Reading

/-!
# Formatted types

The option set and the error type as they are formatted. Of all texts in them, only the documentation of
a variant comes from a declared name, and only that can keep the types from being read
(`fileLines_errorEnum`).
-/

namespace WireErrors

open Source Layout
open Source.Reader hiding word body

namespace Formatted

open ErrorTypes Decoder ErrorModule

variable {policy : Policy} {model : Model} {unknown type : String}

/-! ## The option set -/

theorem toList_between (front name back : String) :
    (front ++ name ++ back).toList = front.toList ++ name.toList ++ back.toList := by
  rw [String.toList_append, String.toList_append]

theorem enclosable_between {front back : String} {first last : Char} (name : String)
    (hfront : front.toList.head? = some first) (hback : back.toList.getLast? = some last)
    (hfirst : first ≠ '/' ∧ first ≠ '*') (hlast : last ≠ ' ' ∧ last ≠ '/' ∧ last ≠ '\r') :
    Enclosable (front ++ name ++ back).toList where
  first c hc := by
    rw [toList_between, List.append_assoc, List.head?_append, hfront] at hc
    obtain rfl := Option.some.inj hc
    exact hfirst
  last c hc := by
    rw [toList_between, List.getLast?_append, hback] at hc
    obtain rfl := Option.some.inj hc
    exact hlast

/-- The line that names the trait which the option set is expected to conform to. -/
def expectation (interface : String) : String := " Expected to conform to `" ++ interface ++ "`."

theorem lineText_expectation {interface : String} (h : isSpelled interface = true) :
    LineText (expectation interface) := by
  have hnone : ∀ c ∈ (expectation interface).toList, c ≠ '\n' ∧ c ≠ '\r' := by
    intro c hc
    unfold expectation at hc
    rw [toList_between, List.mem_append, List.mem_append] at hc
    rcases hc with (hc | hc) | hc
    · revert c
      decide
    · rcases isWordChar_of_isSpelled h hc with hword | rfl
      · constructor <;> rintro rfl <;> revert hword <;> decide
      · decide
    · revert c
      decide
  exact ⟨enclosable_between interface rfl rfl (by decide) (by decide),
    fun hbreak => (hnone _ hbreak).1 rfl, fun hreturn => (hnone _ hreturn).2 rfl⟩

/-- The attributes of the option set, each with its tokens. -/
def optionSetAttributeTokens (interface : String) : List (List Token) :=
  [docTokens false " Identifiers of the errors declared by the service model".toList,
    docTokens false [], docTokens false (expectation interface).toList,
    (Attribute.derive optionSetTraits).tokens]

theorem fileLines_optionSetAttributes {interface : String} (h : isSpelled interface = true) :
    FileLines (outerLayout [.doc " Identifiers of the errors declared by the service model", .doc "",
        .docText (expectation interface), .derive optionSetTraits]) true
      (· = (optionSetAttributeTokens interface).flatten) := by
  have htitle : LineText " Identifiers of the errors declared by the service model" :=
    .of_isLine (by decide)
  have hempty : LineText "" := .of_isLine rfl
  have hfirst : FileLines (Attribute.doc " Identifiers of the errors declared by the service model").layout
      true (· = docTokens false " Identifiers of the errors declared by the service model".toList) :=
    htitle.fileLines rfl rfl
  have hsecond : FileLines (Attribute.doc "").layout true (· = docTokens false []) :=
    hempty.fileLines rfl rfl
  have hthird := (lineText_expectation h).fileLines (a := .docText (expectation interface)) rfl
    (docText?_docText _)
  have hlayout : outerLayout [.doc " Identifiers of the errors declared by the service model", .doc "",
      .docText (expectation interface), .derive optionSetTraits] =
        (Attribute.doc " Identifiers of the errors declared by the service model").layout ++
          ((Attribute.doc "").layout ++ ((Attribute.docText (expectation interface)).layout ++
            (Attribute.derive optionSetTraits).layout)) := by
    simp [outerLayout, Attribute.doc, Attribute.docText, Attribute.derive]
  rw [hlayout]
  refine (hfirst.append (hsecond.append (hthird.append fileLines_optionSetTraits))).imp ?_
  rintro _ ⟨_, _, rfl, ⟨_, _, rfl, ⟨_, _, rfl, rfl, rfl⟩, rfl⟩, rfl⟩
  simp [optionSetAttributeTokens]

theorem outerAttributes_optionSet (interface : String) :
    OuterAttributes (optionSetAttributeTokens interface).flatten := by
  refine outerAttributes_of ?_ (show 4 < 12 by decide)
  exact List.forall_mem_cons.mpr ⟨outerAttribute_doc _, List.forall_mem_cons.mpr ⟨outerAttribute_doc _,
    List.forall_mem_cons.mpr ⟨outerAttribute_doc _,
      List.forall_mem_singleton.mpr outerAttribute_optionSetTraits⟩⟩⟩

/-- The start of a public type of some kind. -/
def typeNotes (kind type : String) : List Note :=
  [.text [.fixed "pub "], .text [.fixed (kind ++ " "), .word type], .text [.fixed " "]]

theorem scored_typeNotes {kind : String} (hkind : kind = "struct" ∨ kind = "enum")
    (h : IsName type) :
    Scored (layoutOf (typeNotes kind type)) .unknown (· = [.ident "pub", .ident kind, .ident type]) := by
  have hscore : outcomes .unknown (typeNotes kind type) =
      some [(.word, [.ident "pub", .ident kind, .ident type])] := by
    obtain rfl | rfl := hkind <;> rfl
  refine .of _ rfl hscore ?_ (List.forall_mem_singleton.mpr h.spelled) rfl rfl
    (List.forall_mem_singleton.mpr rfl)
  obtain rfl | rfl := hkind <;> rfl

/-- The field of the option set. -/
def textField : Field where
  name := some "description"
  type := staticReference (.named "str")

def textFieldTokens : List Token :=
  .ident "description" :: .mark ':' false :: (staticTokens ++ [Token.ident "str", .mark ',' false])

theorem lines_textField : Lines (fieldLines [textField]) true true (· = textFieldTokens) := by
  have hscored : Scored (textField.layout ++ word ",") .apart (· = textFieldTokens) := by
    have hscore : outcomes .apart ((textField.layout ++ word ",").map noteOf) =
        some [(.word, textFieldTokens)] := rfl
    exact .of_fixed rfl hscore rfl rfl rfl (List.forall_mem_singleton.mpr rfl)
  exact (hscored.readsAs true).line

theorem phrase_optionSetRecord {front : List Token} (hfront : OuterAttributes front)
    (hword : isKeyword type = false) :
    Phrase Anything itemAt (front ++ .ident "pub" :: .ident "struct" :: .ident type ::
      Token.group .brace textFieldTokens) where
  reads depth rounds _ := by
    obtain ⟨attributes, hattributes⟩ := hfront.reads (depth + 13) rounds
    refine ⟨.record { attributes, visibility := .everyone, name := type } (.named [textField]),
      fun rest _ => ?_, fun rest => ?_, fun _ => trivial⟩
    · rw [List.append_assoc]
      exact yields_item_record hword (hattributes _ rfl) rfl
    · rw [List.append_assoc]
      exact hfront.starts _ rfl
  balanced := hfront.balanced.append (balanced_iff.mpr rfl)
  plain rest := by
    rw [List.append_assoc]
    exact hfront.plain _ rfl

/-- **The option set is read as a type with a field**, whatever trait its documentation names. -/
theorem fileLines_optionSetRecord {interface : String} (htype : IsName type)
    (hinterface : isSpelled interface = true) :
    FileLines (optionSetRecord type interface).layout true (Phrase Anything itemAt) := by
  have hheading := (scored_typeNotes (.inl rfl) htype).readsAs true
  have hlines := (fileLines_optionSetAttributes hinterface).append
    (fileLines_braceBox hheading lines_textField)
  refine hlines.imp ?_
  rintro _ ⟨_, _, rfl, ⟨_, _, rfl, rfl, rfl⟩, rfl⟩
  exact phrase_optionSetRecord (outerAttributes_optionSet interface) htype.word

/-! ## Variants -/

/-- Tokens that are read as a variant in front of a comma. -/
structure VariantTokens (tokens : List Token) : Prop where
  reads : ∀ depth rounds, ∃ v, ∀ rest, Yields (variant (Reader.readers (depth + 13))) (rounds + 12)
    (tokens ++ .mark ',' false :: rest) v (.mark ',' false :: rest)
  starts : ∀ rest, isEnd (tokens ++ rest) = false
  balanced : Balanced tokens

theorem VariantTokens.ne_nil {tokens : List Token} (h : VariantTokens tokens) : tokens ≠ [] := by
  rintro rfl
  cases h.starts []

/-- A variant with the comma behind it. -/
def VariantLine (tokens : List Token) : Prop :=
  ∃ front, VariantTokens front ∧ tokens = front ++ Token.sign ","

theorem variantTokens_plain {front : List Token} (hfront : OuterAttributes front) {name : String}
    (hname : isKeyword name = false) : VariantTokens (front ++ [Token.ident name]) where
  reads depth rounds := by
    obtain ⟨attributes, hattributes⟩ := hfront.reads (depth + 13) rounds
    refine ⟨{ attributes, name }, fun rest => ?_⟩
    rw [List.append_assoc]
    exact yields_plainVariant hname (hattributes _ rfl)
  starts rest := by
    rw [List.append_assoc]
    exact hfront.starts _ rfl
  balanced := hfront.balanced.append (balanced_ident name balanced_nil)

theorem variantTokens_carrying {front : List Token} (hfront : OuterAttributes front) {name : String}
    (hname : isKeyword name = false) (trailing : Bool) :
    VariantTokens (front ++ .ident name :: argument trailing [.ident "String"]) where
  reads depth rounds := by
    obtain ⟨attributes, hattributes⟩ := hfront.reads (depth + 13) rounds
    refine ⟨{ attributes, name, fields := .positional [{ name := none, type := .named "String" }] },
      fun rest => ?_⟩
    rw [List.append_assoc]
    refine yields_positionalVariant hname (hattributes _ rfl) ?_
    cases trailing <;> rfl
  starts rest := by
    rw [List.append_assoc]
    exact hfront.starts _ rfl
  balanced := hfront.balanced.append (balanced_iff.mpr (by cases trailing <;> rfl))

/-- The documentation of the variant of a declared name. -/
def variantText (name : String) : String := " The `" ++ name ++ "` error"

/-- Whether the documentation of a name can be read back: it is no comment, or none with a carriage
return in it that no line feed follows. -/
def isWritable (name : String) : Bool :=
  match docComment? false (variantText name).toList with
  | some _ => noBareReturn (docBody (variantText name).toList)
  | none => true

theorem enclosable_variantText (name : String) : Enclosable (variantText name).toList :=
  enclosable_between name rfl rfl (by decide) (by decide)

theorem isWritable_iff (name : String) : isWritable name = true ↔
    ∀ comment, docComment? false (variantText name).toList = some comment →
      noBareReturn comment = true := by
  unfold isWritable
  cases hcomment : docComment? false (variantText name).toList with
  | none => exact iff_of_true rfl nofun
  | some comment =>
    rw [← noBareReturn_docComment (enclosable_variantText name) hcomment]
    exact ⟨fun h other hother => Option.some.inj hother ▸ h, fun h => h comment rfl⟩

theorem isWritable_line {name : String} (hline : '\n' ∉ name.toList) :
    isWritable name = true ↔ '\r' ∉ name.toList := by
  have hmem : ∀ c ∈ ['\n', '\r'], c ∈ (variantText name).toList ↔ c ∈ name.toList := by
    intro c hc
    unfold variantText
    rw [toList_between, List.mem_append, List.mem_append]
    have hfront : c ∉ " The `".toList := by revert c; decide
    have hback : c ∉ "` error".toList := by revert c; decide
    rw [or_iff_left hback, or_iff_right hfront]
  have htext : '\n' ∉ (variantText name).toList := mt (hmem _ (by decide)).mp hline
  have hlegal {comment : List Char} (hcomment : docComment? false (variantText name).toList =
      some comment) : noBareReturn comment = noBareReturn (variantText name).toList := by
    rw [noBareReturn_docComment (enclosable_variantText name) hcomment, docBody_line htext]
  rw [isWritable_iff, ← hmem _ (by decide)]
  constructor
  · intro h hreturn
    obtain ⟨comment, hcomment⟩ := exists_docComment (enclosable_variantText name) htext
    have hbare := h comment hcomment
    rw [hlegal hcomment, noBareReturn_line htext hreturn] at hbare
    cases hbare
  · intro hreturn comment hcomment
    rw [hlegal hcomment]
    exact noBareReturn_of_not_mem hreturn

/-- **The documentation of a variant is read as some documentation, if its name can be written**, and
else it cannot be read at all. -/
theorem readsAs_variantText (name : String) :
    ReadsAs (Attribute.docText (variantText name)).layout .unknown true (isWritable name)
      fun tokens => ∃ body, tokens = docTokens false body := by
  unfold isWritable
  cases hcomment : docComment? false (variantText name).toList with
  | none => exact (readsAs_docAttribute hcomment true).imp fun tokens htokens => ⟨_, htokens⟩
  | some comment =>
    rw [layout_comment (docText?_docText _) hcomment]
    exact (readsAs_comment (enclosable_variantText name) hcomment endsLine_hardBreak _).imp
      fun tokens htokens => ⟨_, htokens⟩

/-- The name of a variant up to the end of its line. -/
def variantNotes (name : String) : List Note := [.text [.word name], .text [.fixed ","]]

theorem layout_declaredVariant (d : Declared) : (declaredVariant d).layout =
    (Attribute.docText (variantText d.name)).layout ++ (layoutOf (variantNotes d.variant) ++ hardBreak) := by
  simp [Variant.layout, declaredVariant, outerLayout, Attribute.docText, variantText, variantNotes,
    layoutOf, Note.piece, Part.joined, Part.text, word]

theorem lines_declaredVariant {d : Declared} (h : IsName d.variant) :
    Lines (declaredVariant d).layout true (isWritable d.name) VariantLine := by
  have hname : Scored (layoutOf (variantNotes d.variant)) .apart
      (· = .ident d.variant :: Token.sign ",") := by
    have hscore : outcomes .apart (variantNotes d.variant) =
        some [(.word, .ident d.variant :: Token.sign ",")] := rfl
    exact .of _ rfl hscore rfl (List.forall_mem_singleton.mpr h.spelled) rfl rfl
      (List.forall_mem_singleton.mpr rfl)
  have hlines := (readsAs_variantText d.name).before (hname.readsAs true).line
  rw [Bool.and_true] at hlines
  rw [layout_declaredVariant]
  refine hlines.imp ?_
  rintro _ ⟨_, _, ⟨body, rfl⟩, rfl, rfl⟩
  have hfront : OuterAttributes (docTokens false body) := by
    have hone : ∀ part ∈ [docTokens false body], OuterAttribute part :=
      List.forall_mem_singleton.mpr (outerAttribute_doc body)
    simpa using outerAttributes_of hone (show 1 < 12 by decide)
  exact ⟨_, variantTokens_plain hfront h.word, by simp⟩

/-- A variant that carries a text, up to the end of its line. -/
def carryingNotes (name : String) : List Note :=
  [.text [.word name], .opening true indent, .text [.fixed "("], .gap zero, .text [.fixed "String"],
    .gap { zero with shift := -indent, lineEnd := "," }, .text [.fixed ")"], .closing,
    .text [.fixed ","]]

/-- Its tokens in front of the comma; with a comma behind the text that it carries if `trailing`. -/
def carryingTokens (name : String) (trailing : Bool) : List Token :=
  .ident name :: argument trailing [.ident "String"]

theorem layout_carryingVariant (documentation name : String) :
    (carryingVariant documentation name).layout =
      outerLayout ([documentation].map Attribute.doc) ++
        (layoutOf (carryingNotes name) ++ hardBreak) := by
  have hshape : (carryingVariant documentation name).layout =
      outerLayout ([documentation].map Attribute.doc) ++ word name ++
        layoutOf ((carryingNotes name).drop 1).dropLast ++ [] ++ word "," ++ hardBreak := rfl
  simp [hshape, carryingNotes, layoutOf, Note.piece, Part.joined, Part.text, word]

theorem scored_carryingNotes {name : String} (h : IsName name) :
    Scored (layoutOf (carryingNotes name)) .apart fun inside => ∃ trailing,
      inside = carryingTokens name trailing ++ Token.sign "," := by
  have hscore : outcomes .apart (carryingNotes name) =
      some ([false, true].map fun trailing =>
        (.word, carryingTokens name trailing ++ Token.sign ",")) := rfl
  refine .of _ rfl hscore rfl (List.forall_mem_singleton.mpr h.spelled) rfl rfl ?_
  exact List.forall_mem_map.mpr fun trailing _ => ⟨trailing, rfl⟩

theorem lines_carryingVariant {documentation name : String} (htexts : LineTexts [documentation])
    (h : IsName name) : Lines (carryingVariant documentation name).layout true true VariantLine := by
  rw [layout_carryingVariant]
  have hline := ((scored_carryingNotes h).readsAs true).line
  refine (lines_documented htexts hline).imp ?_
  rintro _ ⟨_, _, rfl, ⟨trailing, rfl⟩, rfl⟩
  have hfront := outerAttributes_documentation htexts.few
  exact ⟨_, variantTokens_carrying hfront h.word trailing, by simp [carryingTokens]⟩

/-! ## The error type -/

/-- Tokens that are read as variants. -/
def VariantLines (tokens : List Token) : Prop :=
  ∃ parts : List (List Token), (∀ part ∈ parts, VariantLine part) ∧ tokens = parts.flatten

/-- The variants that carry a text. -/
def carryingVariants (policy : Policy) (model : Model) (unknown : String) : List Variant :=
  (namesFor model policy unknown).validation.toList.map
    (carryingVariant " The request failed validation; carries the wire identifier") ++
    [carryingVariant " An error identifier the model does not declare" unknown]

theorem lines_carryingVariants (hnamed : Named policy model unknown) :
    Lines ((carryingVariants policy model unknown).flatMap Variant.layout) true true VariantLines := by
  have hvariants : ∀ v ∈ carryingVariants policy model unknown,
      Lines v.layout true true VariantLine := by
    refine List.forall_mem_append.mpr ⟨List.forall_mem_map.mpr fun variant hvariant => ?_,
      List.forall_mem_singleton.mpr ?_⟩
    · rw [eq_of_mem_validation hvariant]
      exact lines_carryingVariant (lineTexts_of rfl rfl (by decide)) isName_validationVariant
    · exact lines_carryingVariant (lineTexts_of rfl rfl (by decide)) hnamed.unknown
  have hne : carryingVariants policy model unknown ≠ [] :=
    List.append_ne_nil_of_right_ne_nil _ (List.cons_ne_nil _ _)
  have hlines := lines_flatMap hne hvariants
  rwa [List.all_eq_true.mpr fun _ _ => rfl] at hlines

theorem lines_errorVariants (hnamed : Named policy model unknown) :
    Lines ((errorVariants policy model unknown).flatMap Variant.layout) true
      (model.sortedNames.all isWritable) VariantLines := by
  have hdeclared : ∀ name ∈ model.sortedNames, Lines
      (declaredVariant ⟨name, variantName name, constantName name⟩).layout true (isWritable name)
        VariantLine :=
    fun name hname => lines_declaredVariant (hnamed.variants name hname)
  have hlines := lines_flatMap_append hdeclared (lines_carryingVariants hnamed)
  have hlayout : (errorVariants policy model unknown).flatMap Variant.layout =
      (model.sortedNames.flatMap fun name =>
        (declaredVariant ⟨name, variantName name, constantName name⟩).layout) ++
        (carryingVariants policy model unknown).flatMap Variant.layout := by
    rw [errorVariants, List.append_assoc, List.flatMap_append, declaredFor, List.map_map,
      List.flatMap_map]
    rfl
  rw [Bool.and_true] at hlines
  rw [hlayout]
  exact hlines

theorem withCommas_cons (front : List Token) (fronts : List (List Token)) :
    withCommas true (front :: fronts) = front ++ Token.sign "," ++ withCommas true fronts := by
  cases fronts with
  | nil => simp [withCommas]
  | cons second fronts => rfl

theorem VariantLines.exists_fronts {tokens : List Token} (h : VariantLines tokens) :
    ∃ fronts : List (List Token), (∀ front ∈ fronts, VariantTokens front) ∧
      tokens = withCommas true fronts := by
  obtain ⟨parts, hparts, rfl⟩ := h
  induction parts with
  | nil => exact ⟨[], List.forall_mem_nil _, rfl⟩
  | cons part parts ih =>
    rw [List.forall_mem_cons] at hparts
    obtain ⟨front, hfront, rfl⟩ := hparts.1
    obtain ⟨fronts, hfronts, hflatten⟩ := ih hparts.2
    refine ⟨front :: fronts, List.forall_mem_cons.mpr ⟨hfront, hfronts⟩, ?_⟩
    rw [List.flatten_cons, hflatten, withCommas_cons]

/-- The attributes of the error type, each with its tokens. -/
def errorAttributeTokens (serializable : Bool) : List (List Token) :=
  [docTokens false " Errors declared by the service model".toList, (derives serializable).tokens]

theorem outerAttributes_error (serializable : Bool) :
    OuterAttributes (errorAttributeTokens serializable).flatten := by
  refine outerAttributes_of ?_ (show 2 < 12 by decide)
  exact List.forall_mem_cons.mpr ⟨outerAttribute_doc _,
    List.forall_mem_singleton.mpr (outerAttribute_derives serializable)⟩

theorem fileLines_errorAttributes (serializable : Bool) :
    FileLines (outerLayout [.doc " Errors declared by the service model", derives serializable]) true
      (· = (errorAttributeTokens serializable).flatten) := by
  have htitle : LineText " Errors declared by the service model" := .of_isLine (by decide)
  have hfirst : FileLines (Attribute.doc " Errors declared by the service model").layout true
      (· = docTokens false " Errors declared by the service model".toList) :=
    htitle.fileLines rfl rfl
  have hlayout : outerLayout [.doc " Errors declared by the service model", derives serializable] =
      (Attribute.doc " Errors declared by the service model").layout ++
        (derives serializable).layout := by
    simp [outerLayout, Attribute.doc, derives, Attribute.derive]
  rw [hlayout]
  refine (hfirst.append (fileLines_derives serializable)).imp ?_
  rintro _ ⟨_, _, rfl, rfl, rfl⟩
  simp [errorAttributeTokens]

theorem phrase_errorEnum {front : List Token} {parts : List (List Token)}
    (hfront : OuterAttributes front) (hword : isKeyword type = false)
    (hparts : ∀ part ∈ parts, VariantTokens part) :
    Phrase Anything itemAt (front ++ .ident "pub" :: .ident "enum" :: .ident type ::
      Token.group .brace (withCommas true parts)) where
  reads depth rounds hrounds := by
    simp only [List.length_append, List.length_cons, length_group] at hrounds
    obtain ⟨attributes, hattributes⟩ := hfront.reads (depth + 13) rounds
    have hall : ∀ part ∈ parts, ∃ v, (∀ rest, EndsElement true .brace rest →
        Yields (variant (Reader.readers (depth + 13))) (rounds + 12) (part ++ rest) v rest) ∧
          ∀ rest, isEnd (part ++ rest) = false := by
      intro part hpart
      obtain ⟨v, hread⟩ := (hparts part hpart).reads depth rounds
      refine ⟨v, ?_, (hparts part hpart).starts⟩
      rintro _ (⟨more⟩ | ⟨⟨⟩⟩)
      exact hread more
    obtain ⟨variants, hvariants⟩ := Text.exists_forall₂ hall
    refine ⟨.enumeration { attributes, visibility := .everyone, name := type } variants,
      fun rest _ => ?_, fun rest => ?_, fun _ => trivial⟩
    · have hlist : Yields (commaList .brace (variant (Reader.readers (depth + 13)))) (rounds + 12)
          (withCommas true parts ++ .closing .brace :: rest) variants rest := by
        have hlength : parts.length ≤ parts.flatten.length :=
          length_parts_le_flatten fun part hpart => (hparts part hpart).ne_nil
        have hcommas := length_flatten_le_withCommas true parts
        exact .bind (yields_limit _ _) (yields_commaParts hvariants (by omega) rest)
      rw [List.append_assoc, List.cons_append, List.cons_append, List.cons_append, group_append]
      exact yields_item_enumeration hword (hattributes _ rfl) hlist
    · rw [List.append_assoc]
      exact hfront.starts _ rfl
  balanced := by
    have hcommas := balanced_withCommas (fun part hpart => (hparts part hpart).balanced) true
    exact hfront.balanced.append (balanced_ident _ (balanced_ident _ (balanced_ident _
      (hcommas.group .brace))))
  plain rest := by
    rw [List.append_assoc]
    exact hfront.plain _ rfl

/-- **The error type is read as a type with variants, if all of its names can be written**, and else
nothing is read. -/
theorem fileLines_errorEnum (hnamed : Named policy model unknown) :
    FileLines (errorEnum (namesFor model policy unknown) policy.serializable
      (declaredFor model.sortedNames)).layout (model.sortedNames.all isWritable)
        (Phrase Anything itemAt) := by
  have hheading := (scored_typeNotes (.inr rfl) hnamed.error).readsAs true
  rw [errorEnum_eq]
  have hlines := (fileLines_errorAttributes policy.serializable).append
    (fileLines_braceBox hheading (lines_errorVariants hnamed))
  rw [Bool.true_and] at hlines
  refine hlines.imp ?_
  rintro _ ⟨_, _, rfl, ⟨_, _, rfl, hinside, rfl⟩, rfl⟩
  obtain ⟨fronts, hfronts, rfl⟩ := hinside.exists_fronts
  exact phrase_errorEnum (outerAttributes_error policy.serializable) hnamed.error.word hfronts

theorem mem_errorEnum {name : String} (hname : name ∈ model.sortedNames) {comment : List Char}
    (hcomment : docComment? false (variantText name).toList = some comment) :
    .text (String.ofList comment) ∈ (errorEnum (namesFor model policy unknown) policy.serializable
      (declaredFor model.sortedNames)).layout := by
  have hvariant : .text (String.ofList comment) ∈
      (declaredVariant ⟨name, variantName name, constantName name⟩).layout := by
    rw [layout_declaredVariant, layout_comment (docText?_docText _) hcomment]
    exact List.mem_append_left _ List.mem_cons_self
  have hmem : declaredVariant ⟨name, variantName name, constantName name⟩ ∈
      errorVariants policy model unknown :=
    List.mem_append_left _ (List.mem_append_left _
      (List.mem_map_of_mem (List.mem_map_of_mem hname)))
  rw [errorEnum_eq]
  exact List.mem_append_right _ (mem_braceBox (List.mem_flatMap.mpr ⟨_, hmem, hvariant⟩))

end Formatted

end WireErrors
