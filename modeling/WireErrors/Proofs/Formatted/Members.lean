import WireErrors.Proofs.Formatted.Attributes
import WireErrors.Proofs.ErrorModule.Types

/-!
# Formatted members

The functions and constants of a module as they are formatted, each with its documentation in front. The
parameters of a function may move to lines of their own, with a comma behind the last one.
-/

namespace WireErrors

open Source Layout
open Source.Reader hiding word body

namespace Formatted

open ErrorTypes Decoder ErrorModule

/-! ## Functions -/

/-- Tokens that are read as a function up to its statements, with any attributes in front. -/
structure Head (tokens : List Token) : Prop where
  reads : ∀ attributes depth rounds, ∃ s : Signature, s.attributes = attributes ∧ ∀ inside, ∃ start,
    Yields visibility (rounds + 12) (tokens ++ .opening .brace :: inside) s.visibility start ∧
    startsWith "!" (afterOne start) = false ∧ startsWithWord "default" start = false ∧
    startsSignature start = true ∧
    Yields (signature (Reader.readers (depth + 13)) attributes s.visibility false) (rounds + 12)
      start s (.opening .brace :: inside)
  no_hash : ∀ rest, afterSign? "#".toList (tokens ++ rest) = none
  starts : ∀ rest, isEnd (tokens ++ rest) = false
  plain : ∀ rest, startsInner (tokens ++ rest) = false
  balanced : Balanced tokens

theorem Head.attributed {front tokens : List Token} (h : Head tokens) (hfront : OuterAttributes front) :
    FunctionHead (front ++ tokens) where
  reads depth rounds := by
    obtain ⟨attributes, hattributes⟩ := hfront.reads (depth + 13) rounds
    obtain ⟨s, rfl, hread⟩ := h.reads attributes depth rounds
    refine ⟨s, fun inside => ?_⟩
    obtain ⟨start, hvisibility, hmark, hdefault, hstarts, hsignature⟩ := hread inside
    rw [List.append_assoc]
    exact ⟨_, start, hattributes _ (h.no_hash _), hvisibility, hmark, hdefault, hstarts, hsignature⟩
  starts rest := by
    rw [List.append_assoc]
    exact hfront.starts _ (h.starts rest)
  balanced := hfront.balanced.append h.balanced
  plain rest := by
    rw [List.append_assoc]
    exact hfront.plain _ (h.plain rest)

/-- Lines of documentation, each of which is a comment as it is. -/
structure LineTexts (documentation : List String) : Prop where
  lines : ∀ text ∈ documentation, LineText text
  texts : ∀ text ∈ documentation, (Attribute.doc text).docText? = some text
  few : documentation.length < 12

theorem lineTexts_of {documentation : List String}
    (hlines : documentation.all (fun text => isLine text.toList) = true)
    (htexts : documentation.map (fun text => (Attribute.doc text).docText?) = documentation.map some)
    (hfew : documentation.length < 12) : LineTexts documentation where
  lines text htext := .of_isLine (List.all_eq_true.mp hlines text htext)
  texts := List.map_inj_left.mp htexts
  few := hfew

/-- The tokens of lines of documentation. -/
def documentationTokens (documentation : List String) : List Token :=
  (documentation.map fun text => docTokens false text.toList).flatten

theorem outerAttributes_documentation {documentation : List String}
    (hfew : documentation.length < 12) : OuterAttributes (documentationTokens documentation) := by
  refine outerAttributes_of (List.forall_mem_map.mpr fun text _ => outerAttribute_doc _) ?_
  rwa [List.length_map]

theorem outerLayout_documentation (documentation : List String) :
    outerLayout (documentation.map Attribute.doc) =
      documentation.flatMap fun text => (Attribute.doc text).layout := by
  have hall : (documentation.map Attribute.doc).filter (fun a => !a.inner) =
      documentation.map Attribute.doc :=
    List.filter_eq_self.mpr (List.forall_mem_map.mpr fun _ _ => rfl)
  rw [outerLayout, hall, List.flatMap_map]

theorem lines_documented {documentation : List String} {body : Layout} {legal : Bool}
    {P : List Token → Prop} (htexts : LineTexts documentation) (hbody : Lines body true legal P) :
    Lines (outerLayout (documentation.map Attribute.doc) ++ body) true legal
      (Concat (· = documentationTokens documentation) P) := by
  rw [outerLayout_documentation]
  obtain ⟨hlines, hdocs, -⟩ := htexts
  induction documentation with
  | nil => exact hbody.imp fun tokens htokens => ⟨[], tokens, rfl, htokens, rfl⟩
  | cons text documentation ih =>
    rw [List.forall_mem_cons] at hlines hdocs
    have hline := hlines.1.readsAs rfl hdocs.1
    rw [List.flatMap_cons, List.append_assoc]
    refine (hline.before (ih hlines.2 hdocs.2)).imp ?_
    rintro _ ⟨_, _, rfl, ⟨_, behind, rfl, hP, rfl⟩, rfl⟩
    exact ⟨_, behind, rfl, hP, by simp [documentationTokens]⟩

/-- **A function is read as one**, with its documentation in front. -/
theorem lines_function (documentation : List String) {f : Function}
    (hattributes : f.attributes = documentation.map Attribute.doc)
    (htexts : LineTexts documentation) (hconditions : f.generics.conditions = [])
    (hhead : Scored (f.toSignature.layout ++ word " ") .unknown Head)
    (hbody : Lines (Statement.listLayout f.body) false true Statements) :
    Lines (Member.function f).layout true true (Phrase Anything memberAt) := by
  have hinner : innerLayout f.attributes = [] := by
    have hnone : (documentation.map Attribute.doc).filter (fun a => a.inner) = [] :=
      List.filter_eq_nil_iff.mpr (List.forall_mem_map.mpr fun _ _ => Bool.false_ne_true)
    rw [hattributes, innerLayout, hnone, List.flatMap_nil]
  have hlayout : (Member.function f).layout = outerLayout (documentation.map Attribute.doc) ++
      braceBox (f.toSignature.layout ++ word " ") (Statement.listLayout f.body) := by
    rw [Member.layout, Function.layout, Generics.beforeBody, hconditions, hinner, hattributes]
    rfl
  rw [hlayout]
  refine (lines_documented htexts (lines_braceBox (hhead.readsAs false) hbody)).imp ?_
  rintro _ ⟨_, _, rfl, ⟨head, inside, hhead, hinside, rfl⟩, rfl⟩
  have hfront := hhead.attributed (outerAttributes_documentation htexts.few)
  rw [← List.append_assoc]
  exact phrase_function hfront hinside

/-! ## Signatures -/

/-- The tokens of a function up to its statements, without attributes. -/
def headTokens (words : List String) (parameters : List (List Token)) (trailing : Bool)
    (result : List Token) : List Token :=
  words.map Token.ident ++ Token.group .paren (withCommas trailing parameters) ++
    .mark '-' true :: .mark '>' false :: result

/-- The tokens of a text as the type of a parameter or result. -/
def textTokens : List Token := [.mark '&' false, .ident "str"]

/-- The start of a reference that is always valid. -/
def staticTokens : List Token := [.mark '&' true, .mark '\'' true, .ident "static"]

/-- The functions with one parameter of which all words are known. -/
inductive Unary where
  | validationHelper
  | routine
  | errorTypeName
  | description
  /-- The function with which the option set conforms to a trait. -/
  | conformance

namespace Unary

/-- A function without its documentation and statements. -/
def signature : Unary → Signature
  | validationHelper =>
    { name := "is_validation_error", parameters := [.named "error_type" .text],
      result := some (.named "bool") }
  | routine =>
    { visibility := .everyone, name := "from_error_type",
      parameters := [.named "error_type" .text], result := some (.named "Self") }
  | errorTypeName =>
    { visibility := .everyone, name := "error_type_name", parameters := [.self],
      result := some .text }
  | description =>
    { visibility := .everyone, constant := true, name := "description", parameters := [.self],
      result := some (staticReference (.named "str")) }
  | conformance => { name := "description", parameters := [.self], result := some .text }

def parameter : Unary → List Token
  | validationHelper | routine => .ident "error_type" :: .mark ':' false :: textTokens
  | _ => selfTokens

/-- The tokens of a function up to its statements, from the words behind its visibility on. -/
def tokens (trailing : Bool) : Unary → List Token
  | validationHelper =>
    headTokens ["fn", "is_validation_error"] [validationHelper.parameter] trailing [.ident "bool"]
  | routine => headTokens ["fn", "from_error_type"] [routine.parameter] trailing [.ident "Self"]
  | errorTypeName => headTokens ["fn", "error_type_name"] [errorTypeName.parameter] trailing textTokens
  | description =>
    headTokens ["const", "fn", "description"] [description.parameter] trailing
      (staticTokens ++ [Token.ident "str"])
  | conformance => headTokens ["fn", "description"] [conformance.parameter] trailing textTokens

def visibilityTokens (unary : Unary) : List Token :=
  if unary.signature.visibility = .everyone then [.ident "pub"] else []

set_option maxRecDepth 4000 in
theorem head (unary : Unary) (trailing : Bool) :
    Head (unary.visibilityTokens ++ unary.tokens trailing) where
  reads attributes depth rounds :=
    ⟨{ unary.signature with attributes }, rfl, fun inside =>
      ⟨unary.tokens trailing ++ .opening .brace :: inside, by
        cases unary <;> cases trailing <;> exact ⟨rfl, rfl, rfl, rfl, rfl⟩⟩⟩
  no_hash _ := by cases unary <;> rfl
  starts _ := by cases unary <;> rfl
  plain _ := by cases unary <;> rfl
  balanced := balanced_iff.mpr (by cases unary <;> cases trailing <;> rfl)

set_option maxRecDepth 4000 in
theorem scored (unary : Unary) : Scored (unary.signature.layout ++ word " ") .unknown Head := by
  have hscore : outcomes .unknown ((unary.signature.layout ++ word " ").map noteOf) =
      some ([false, true].map fun trailing =>
        (.word, unary.visibilityTokens ++ unary.tokens trailing)) := by
    cases unary <;> rfl
  refine .of_fixed ?_ hscore ?_ ?_ ?_ (List.forall_mem_map.mpr fun trailing _ => unary.head trailing)
  all_goals cases unary <;> rfl

end Unary

/-- The tokens of the list of all identifiers up to its statements. -/
def allTokens : List Token :=
  headTokens ["pub", "fn", "all"] [] false (staticTokens ++ Token.group .bracket [.ident "Self"])

set_option maxRecDepth 4000 in
theorem head_all : Head allTokens where
  reads attributes _ _ :=
    ⟨{ allSignature with attributes }, rfl, fun inside =>
      ⟨allTokens.drop 1 ++ .opening .brace :: inside, rfl, rfl, rfl, rfl, rfl⟩⟩
  no_hash _ := rfl
  starts _ := rfl
  plain _ := rfl
  balanced := balanced_iff.mpr rfl

set_option maxRecDepth 4000 in
theorem scored_all : Scored (allSignature.layout ++ word " ") .unknown Head := by
  have hscore : outcomes .unknown ((allSignature.layout ++ word " ").map noteOf) =
      some [(.word, allTokens)] := rfl
  exact .of_fixed rfl hscore rfl rfl rfl (List.forall_mem_singleton.mpr head_all)

/-- The tokens of the parameter for the formatter, of which its first sign may touch the next one. -/
def formatterTokens (joint angle trailing : Bool) : List Token :=
  [Token.ident "f", .mark ':' false, .mark '&' false, .ident "mut"] ++ Token.path ["std", "fmt", "Formatter"] ++
    [Token.mark '<' joint, .mark '\'' true, .ident "_"] ++ withCommas angle [[]] ++ [Token.mark '>' trailing]

def fmtTokens (joint angle trailing : Bool) : List Token :=
  headTokens ["fn", "fmt"] [selfTokens, formatterTokens joint angle trailing] trailing
    (Token.path ["std", "fmt", "Result"])

set_option maxRecDepth 8000 in
theorem head_fmt (joint angle trailing : Bool) : Head (fmtTokens joint angle trailing) where
  reads attributes depth rounds :=
    ⟨{ fmtSignature with attributes }, rfl, fun inside =>
      ⟨fmtTokens joint angle trailing ++ .opening .brace :: inside, rfl, rfl, rfl, rfl, by
        cases joint <;> cases angle <;> cases trailing <;> rfl⟩⟩
  no_hash _ := rfl
  starts _ := rfl
  plain _ := rfl
  balanced := balanced_iff.mpr (by cases joint <;> cases angle <;> cases trailing <;> rfl)

set_option maxRecDepth 8000 in
theorem scored_fmt : Scored (fmtSignature.layout ++ word " ") .unknown Head := by
  have hscore : outcomes .unknown ((fmtSignature.layout ++ word " ").map noteOf) =
      some ([false, true].flatMap fun trailing => [false, true].flatMap fun angle =>
        [false, true].map fun joint => (.word, fmtTokens joint angle trailing)) := rfl
  refine .of_fixed rfl hscore rfl rfl rfl fun o ho => ?_
  obtain ⟨trailing, -, ho⟩ := List.mem_flatMap.mp ho
  obtain ⟨angle, -, ho⟩ := List.mem_flatMap.mp ho
  obtain ⟨joint, -, rfl⟩ := List.mem_map.mp ho
  exact head_fmt joint angle trailing

/-- The tokens of the accessor of the declared identifier up to its statements. -/
def errorTypeTokens (type : String) (angle trailing : Bool) : List Token :=
  headTokens ["pub", "fn", "error_type"] [selfTokens] trailing
    (.ident "Option" :: .mark '<' false :: .ident type :: (withCommas angle [[]] ++ [Token.mark '>' false]))

theorem head_errorType {type : String} (htype : isKeyword type = false) (angle trailing : Bool) :
    Head (errorTypeTokens type angle trailing) where
  reads attributes depth rounds := by
    refine ⟨{ errorTypeSignature type with attributes }, rfl, fun inside => ?_⟩
    let start : List Token := .ident "fn" :: .ident "error_type" ::
      (Token.group .paren (withCommas trailing [selfTokens]) ++ .mark '-' true ::
        .mark '>' false :: optionTokens angle type inside)
    have htokens : errorTypeTokens type angle trailing ++ .opening .brace :: inside =
        .ident "pub" :: start := by
      simp [errorTypeTokens, headTokens, start, optionTokens]
    rw [htokens]
    exact ⟨start, rfl, rfl, rfl, rfl, yields_errorTypeSignature htype attributes angle trailing inside⟩
  no_hash _ := rfl
  starts _ := rfl
  plain _ := rfl
  balanced := balanced_iff.mpr (by cases angle <;> cases trailing <;> rfl)

/-- The accessor of the declared identifier up to its statements. -/
def errorTypeNotes (type : String) : List Note :=
  [.text [.fixed "pub "], .text [.fixed "fn error_type"], .text [.fixed "("],
    .gap { zero with never := true }, .opening true 0, .gap zero, .text [.fixed "&"],
    .text [.fixed "self"], .gap { zero with shift := -indent, lineEnd := "," }, .closing,
    .text [.fixed ")"], .opening true (-indent), .text [.fixed " -> "], .text [.fixed "Option"],
    .text [.fixed "<"], .opening true indent, .gap zero, .text [.word type],
    .gap { zero with shift := -indent, lineEnd := "," }, .closing, .text [.fixed ">"], .closing,
    .text [.fixed " "]]

theorem scored_errorType {type : String} (h : IsName type) :
    Scored ((errorTypeSignature type).layout ++ word " ") .unknown Head := by
  have hscore : outcomes .unknown (errorTypeNotes type) =
      some ([false, true].flatMap fun angle => [false, true].map fun trailing =>
        (.word, errorTypeTokens type angle trailing)) := rfl
  refine .of _ rfl hscore rfl ?_ rfl rfl fun o ho => ?_
  · exact List.forall_mem_singleton.mpr h.spelled
  · obtain ⟨angle, -, ho⟩ := List.mem_flatMap.mp ho
    obtain ⟨trailing, -, rfl⟩ := List.mem_map.mp ho
    exact head_errorType h.word angle trailing

/-! ## Constants -/

/-- The value of a constant of the option set, perhaps with a comma in its braces. -/
def constantValue (name : String) (trailing : Bool) : List Token :=
  .ident "Self" :: Token.group .brace
    (withCommas trailing [[.ident "description", .mark ':' false, .literal (Text.quote name)]])

def constantTokens (d : Declared) (trailing : Bool) : List Token :=
  .ident "pub" :: .ident "const" :: .ident d.constant :: .mark ':' false :: .ident "Self" ::
    .mark '=' false :: (constantValue d.name trailing ++ [Token.mark ';' false])

theorem phrase_constant {d : Declared} (hconstant : isKeyword d.constant = false) (trailing : Bool) :
    Phrase Anything memberAt (constantTokens d trailing) where
  reads depth rounds _ := by
    refine ⟨constantDeclaration d, fun rest _ => ?_, fun _ => rfl, fun _ => trivial⟩
    have hvalue : Yields (wholeExpr (Reader.readers (depth + 13))) (rounds + 12)
        (constantValue d.name trailing ++ .mark ';' false :: rest)
        (.record (.names ["Self"]) [.plain "description" (.literal (Text.quote d.name))] none)
        (.mark ';' false :: rest) := by
      cases trailing <;> rfl
    have htokens : constantTokens d trailing ++ rest = .ident "pub" :: .ident "const" ::
        .ident d.constant :: .mark ':' false :: .ident "Self" :: .mark '=' false ::
          (constantValue d.name trailing ++ .mark ';' false :: rest) := by
      simp [constantTokens]
    rw [htokens]
    exact yields_constant hconstant hvalue
  balanced := balanced_iff.mpr (by cases trailing <;> rfl)
  plain _ := rfl

/-- A constant up to the end of its line. -/
def constantNotes (d : Declared) : List Note :=
  [.opening true 0, .text [.fixed "pub "], .text [.fixed "const ", .word d.constant, .fixed ": "],
    .text [.fixed "Self"], .text [.fixed " = "], .gap { zero with never := true },
    .opening true indent, .opening false (-indent), .text [.fixed "Self"], .closing,
    .text [.fixed " \x7b"], .gap { zero with blank := 1, optional := true },
    .text [.fixed "description: "], .opening false 0, .text [.quote d.name], .closing,
    .gap { zero with blank := 1, shift := -indent, lineEnd := "," }, .narrowClosing 34,
    .text [.fixed "\x7d"], .text [.fixed ";"], .closing]

theorem lines_constant {d : Declared} (h : IsName d.constant) (split : Bool) :
    Lines (constantDeclaration d).layout split true (Phrase Anything memberAt) := by
  have hscore : outcomes .apart (constantNotes d) =
      some ([false, true].map fun trailing => (.word, constantTokens d trailing)) := rfl
  have hscored : Scored (layoutOf (constantNotes d)) .apart (Phrase Anything memberAt) := by
    refine .of _ rfl hscore rfl (List.forall_mem_singleton.mpr h.spelled) rfl rfl ?_
    exact List.forall_mem_map.mpr fun trailing _ => phrase_constant h.word trailing
  have hlayout : (constantDeclaration d).layout = layoutOf (constantNotes d) ++ hardBreak := rfl
  rw [hlayout]
  exact (hscored.readsAs split).line

/-! ## Functions with their statements -/

/-- Tokens that are read as members. -/
def MemberTokens (tokens : List Token) : Prop :=
  ∃ parts : List (List Token), (∀ part ∈ parts, Phrase Anything memberAt part) ∧
    tokens = parts.flatten

theorem lines_members {members : List Member} (hne : members ≠ [])
    (h : ∀ m ∈ members, Lines m.layout true true (Phrase Anything memberAt)) :
    Lines (members.flatMap Member.layout) true true MemberTokens := by
  have hlines := lines_flatMap hne h
  rwa [List.all_eq_true.mpr fun _ _ => rfl] at hlines

theorem lines_alone {statement : Statement} {P : List Token → Prop}
    (h : Lines statement.layout split true P) : Lines (Statement.listLayout [statement]) split true P := by
  rw [Statement.listLayout, Statement.listLayout, List.append_nil]
  exact h

theorem lines_table (documentation : List String) {s : Signature} {arms : List Arm}
    (hattributes : s.attributes = documentation.map Attribute.doc)
    (htexts : LineTexts documentation) (hconditions : s.generics.conditions = [])
    (hhead : Scored (s.layout ++ word " ") .unknown Head) (hne : arms ≠ [])
    (harms : ∀ a ∈ arms, ScoredArm a) :
    Lines (Member.function { s with body := [.expr (.select (.names ["self"]) [] arms) false] }).layout
      true true (Phrase Anything memberAt) := by
  have hbody : Lines (Statement.listLayout [.expr (.select (.names ["self"]) [] arms) false]) false
      true Statements :=
    lines_alone ((lines_choice (.inl rfl) hne harms).imp fun _ h => h.statements.toStatements)
  exact lines_function documentation hattributes htexts hconditions hhead hbody

variable {policy : Policy} {model : Model} {unknown : String}

theorem scoredArm_nameArms (hnamed : Named policy model unknown) :
    ∀ a ∈ nameArms policy model unknown, ScoredArm a := by
  rw [nameArms, List.append_assoc]
  refine List.forall_mem_append.mpr ⟨forall_declaredArms fun name hname => ?_, ?_⟩
  · exact .plain (scoredPattern_unit (hnamed.variants name hname)) (scoredValue_quote name)
  · refine forall_carriers (fun _ _ => .method (.names ["error_type"]) "as_str" []) ?_ ?_
    · exact .plain (scoredPattern_carrier isName_validationVariant (.inr rfl)) scoredValue_asStr
    · exact .plain (scoredPattern_carrier hnamed.unknown (.inr rfl)) scoredValue_asStr

theorem scoredArm_optionArms (hnamed : Named policy model unknown) :
    ∀ a ∈ optionArms model, ScoredArm a := by
  refine List.forall_mem_append.mpr ⟨forall_declaredArms fun name hname => ?_,
    List.forall_mem_singleton.mpr ?_⟩
  · exact .plain (scoredPattern_unit (hnamed.variants name hname))
      (scoredValue_some hnamed.optionSet (hnamed.constants name hname))
  · exact .plain (scoredPattern_rest (.inl rfl)) scoredValue_none

theorem scoredArm_displayArms (hnamed : Named policy model unknown) :
    ∀ a ∈ displayArms policy model unknown, ScoredArm a := by
  rw [displayArms, List.append_assoc]
  refine List.forall_mem_append.mpr ⟨forall_declaredArms fun name hname => ?_, ?_⟩
  · exact .plain (scoredPattern_unit (hnamed.variants name hname)) (scoredValue_writeText name)
  · refine forall_carriers writeLabelled ?_ ?_
    · exact .plain (scoredPattern_carrier isName_validationVariant (.inl rfl))
        (scoredValue_writeLabelled (.inl rfl))
    · exact .plain (scoredPattern_carrier hnamed.unknown (.inr rfl))
        (scoredValue_writeLabelled (.inr rfl))

theorem lines_accessors (hnamed : Named policy model unknown) :
    ∀ m ∈ accessors (namesFor model policy unknown) (declaredFor model.sortedNames),
      Lines m.layout true true (Phrase Anything memberAt) := by
  rw [accessors_eq]
  refine List.forall_mem_cons.mpr ⟨?_, List.forall_mem_singleton.mpr ?_⟩
  · refine lines_table [" Wire identifier of the error"]
      (s := getterSignature " Wire identifier of the error" "error_type_name" .text)
      rfl (lineTexts_of rfl rfl (by decide)) rfl Unary.errorTypeName.scored ?_
      (scoredArm_nameArms hnamed)
    simp [nameArms]
  · refine lines_table [" Declared error identifier, if the error is one the model declares"]
      (s := getterSignature " Declared error identifier, if the error is one the model declares"
        "error_type" (.path (.plain false [.mk "Option" (.angled [.type (.named model.optionSetType)])])))
      rfl (lineTexts_of rfl rfl (by decide)) rfl (scored_errorType hnamed.optionSet) ?_
      (scoredArm_optionArms hnamed)
    simp [optionArms]

theorem lines_decoder (strategy : Strategy) (hnamed : Named policy model unknown) :
    ∀ m ∈ members strategy policy (casesFor model.sortedNames) unknown,
      Lines m.layout true true (Phrase Anything memberAt) := by
  have hhelper : Lines validationHelper.layout true true (Phrase Anything memberAt) := by
    have hbody : Lines (Statement.listLayout [.expr validationTests false]) false true Statements :=
      lines_alone lines_tests
    exact lines_function [" Whether a wire error identifier denotes a validation error"] rfl
      (lineTexts_of rfl rfl (by decide)) rfl Unary.validationHelper.scored hbody
  have hroutine : Lines (routine (documentation strategy)
      (body strategy policy model.sortedNames unknown)).layout true true (Phrase Anything memberAt) := by
    have hbody : Lines (Statement.listLayout (body strategy policy model.sortedNames unknown)) false
        true Statements :=
      lines_body strategy policy hnamed.variants hnamed.unknown
    rw [routine_eq]
    refine lines_function (documentation strategy) rfl ?_ rfl Unary.routine.scored hbody
    cases strategy <;> exact lineTexts_of rfl rfl (by decide)
  rw [members_eq]
  refine List.forall_mem_append.mpr ⟨fun m hm => ?_, List.forall_mem_singleton.mpr hroutine⟩
  cases hvalidation : policy.validation with
  | false =>
    rw [hvalidation] at hm
    cases hm
  | true =>
    rw [hvalidation] at hm
    rw [List.mem_singleton.mp hm]
    exact hhelper

theorem lines_optionSetMembers (hnamed : Named policy model unknown) :
    ∀ m ∈ optionSetMembers model, Lines m.layout true true (Phrase Anything memberAt) := by
  refine List.forall_mem_append.mpr ⟨List.forall_mem_map.mpr (List.forall_mem_map.mpr
    fun name hname => lines_constant (hnamed.constants name hname) true),
    List.forall_mem_cons.mpr ⟨?_, List.forall_mem_singleton.mpr ?_⟩⟩
  · have hconstants : ∀ constant ∈ (declaredFor model.sortedNames).map Declared.constant,
        IsName constant :=
      List.forall_mem_map.mpr (List.forall_mem_map.mpr hnamed.constants)
    have hbody : Lines (Statement.listLayout (allFunction model.sortedNames).body) false true
        Statements := by
      have hlist : Lines (Statement.expr (listValue
          ((declaredFor model.sortedNames).map Declared.constant)) false).layout false true Statements :=
        lines_list hconstants
      rw [listValue, listElements, List.map_map] at hlist
      exact lines_alone hlist
    exact lines_function [" Every declared error identifier"] rfl
      (lineTexts_of rfl rfl (by decide)) rfl scored_all hbody
  · exact lines_function [" Wire identifier of the error"] rfl
      (lineTexts_of rfl rfl (by decide)) rfl Unary.description.scored (lines_alone lines_description)

theorem lines_fmt {statement : Statement}
    (h : Lines (Statement.listLayout [statement]) false true Statements) :
    Lines (Member.function { fmtSignature with body := [statement] }).layout true true
      (Phrase Anything memberAt) :=
  lines_function [] rfl (lineTexts_of rfl rfl (by decide)) rfl scored_fmt h

theorem lines_conformance :
    Lines (getter .inherited false "" "description" .text description).layout true true
      (Phrase Anything memberAt) :=
  lines_function [] rfl (lineTexts_of rfl rfl (by decide)) rfl
    Unary.conformance.scored (lines_alone lines_description)

end Formatted

end WireErrors
