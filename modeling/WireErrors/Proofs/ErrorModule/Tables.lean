import WireErrors.Proofs.ErrorModule.Items
import WireErrors.Proofs.Source.Grammar.Lists

/-!
# Reading functions that choose by a variant

The accessors of the error type and its `Display` are functions that consist of one `match` over the
error. They are read through their arms (`yields_table`), each of which starts with a variant.
-/

namespace WireErrors

open Source Source.Reader

namespace ErrorModule

open ErrorTypes

variable {depth rounds : Nat} {variant : String} {tokens rest : List Token} {value : Expr}

/-! ## Arms -/

/-- The variables that arms have for the text that a variant carries. -/
def Held (holder : String) : Prop := holder = "reason" ∨ holder = "error_type"

/-- An arm that is read wherever it stands. -/
structure ReadsArm (depth rounds : Nat) (a : Arm) (rest : List Token) : Prop where
  yields : Yields (arm (Reader.readers (depth + 11))) (rounds + 12) (a.tokens ++ rest) a rest
  starts : isEnd (a.tokens ++ rest) = false
  no_attribute : startsInner (a.tokens ++ rest) = false

theorem readsArm_unit (hvariant : isKeyword variant = false)
    (hbody : Yields ((Reader.readers (depth + 11)).expr .statement) (rounds + 12)
      (value.tokens ++ .mark ',' false :: rest) value (.mark ',' false :: rest))
    (hstands : value.standsAlone = false) :
    ReadsArm depth rounds (.plain (unitPattern variant) value) rest where
  yields := by
    refine yields_arm (fun _ => rfl) (fun _ => rfl) (fun rest => ?_) hbody hstands
    exact yields_selfPattern (yields_pathPattern (.inl rfl) (.inr hvariant)
      ⟨⟨rfl, rfl⟩, rfl, rfl, rfl, rfl⟩)
  starts := rfl
  no_attribute := rfl

theorem readsArm_carrier {holder : String} (hvariant : isKeyword variant = false)
    (hholder : Held holder)
    (hbody : Yields ((Reader.readers (depth + 11)).expr .statement) (rounds + 12)
      (value.tokens ++ .mark ',' false :: rest) value (.mark ',' false :: rest))
    (hstands : value.standsAlone = false) :
    ReadsArm depth rounds (.plain (carrier variant holder) value) rest where
  yields := by
    refine yields_arm (fun _ => rfl) (fun _ => rfl) (fun rest => ?_) hbody hstands
    refine yields_selfPattern (yields_tuplePattern (.inl rfl) (.inr hvariant) ?_)
    obtain rfl | rfl := hholder <;> rfl
  starts := rfl
  no_attribute := rfl

theorem readsArm_wildcard : ReadsArm depth rounds (.plain .wildcard (.names ["None"])) rest where
  yields := yields_arm (fun _ => rfl) (fun _ => rfl) (fun _ => rfl) rfl rfl
  starts := rfl
  no_attribute := rfl

/-! ## Values of arms -/

theorem yields_quote (text : String) :
    Yields ((Reader.readers (depth + 11)).expr .statement) (rounds + 12)
      ((Expr.literal (Text.quote text)).tokens ++ .mark ',' false :: rest)
      (.literal (Text.quote text)) (.mark ',' false :: rest) := rfl

theorem yields_asStr :
    Yields ((Reader.readers (depth + 11)).expr .statement) (rounds + 12)
      ((Expr.method (.names ["error_type"]) "as_str" []).tokens ++ .mark ',' false :: rest)
      (.method (.names ["error_type"]) "as_str" []) (.mark ',' false :: rest) := rfl

theorem yields_writeText (text : String) :
    Yields ((Reader.readers (depth + 11)).expr .statement) (rounds + 12)
      ((writeText (.literal (Text.quote text))).tokens ++ .mark ',' false :: rest)
      (writeText (.literal (Text.quote text))) (.mark ',' false :: rest) := rfl

theorem yields_writeLabelled {holder : String} (hholder : Held holder) :
    Yields ((Reader.readers (depth + 11)).expr .statement) (rounds + 12)
      ((writeLabelled variant holder).tokens ++ .mark ',' false :: rest)
      (writeLabelled variant holder) (.mark ',' false :: rest) := by
  obtain rfl | rfl := hholder <;> rfl

theorem yields_wholePath {type constant : String} (htype : Nameable type)
    (hconstant : isKeyword constant = false) (hrest : Stops rest) :
    Yields (wholeExpr (Reader.readers (depth + 2))) (rounds + 2)
      ((Expr.names [type, constant]).tokens ++ rest) (.names [type, constant]) rest := by
  have hatom : Yields (atom (Reader.readers depth) true) (rounds + 2)
      ((Expr.names [type, constant]).tokens ++ rest) (.names [type, constant]) rest :=
    yields_atom htype (.inr hconstant) hrest.endsPathExpr
  exact yields_whole (yields_operand rfl rfl rfl hatom (yields_extend hrest _)) hrest

theorem yields_someConstant {type constant : String} (htype : isKeyword type = false)
    (hconstant : isKeyword constant = false) :
    Yields ((Reader.readers (depth + 11)).expr .statement) (rounds + 12)
      ((Expr.call (.names ["Some"]) [.names [type, constant]]).tokens ++ .mark ',' false :: rest)
      (.call (.names ["Some"]) [.names [type, constant]]) (.mark ',' false :: rest) := by
  have hlist : Yields (commaList .paren (wholeExpr (Reader.readers (depth + 9)))) (rounds + 12)
      (pair type constant ++ .closing .paren :: .mark ',' false :: rest) [.names [type, constant]]
      (.mark ',' false :: rest) := by
    refine yields_separated Expr.tokens [.names [type, constant]] ?_ ?_ ?_ _
    · intro e he rest hrest
      obtain rfl := List.mem_singleton.mp he
      exact yields_wholePath (.inr htype) hconstant hrest
    · intro e he rest
      obtain rfl := List.mem_singleton.mp he
      rfl
    · show 1 < rounds + 12
      omega
  have hatom : Yields (atom (Reader.readers (depth + 9)) true) (rounds + 12)
      (.ident "Some" :: .opening .paren :: (pair type constant ++ .closing .paren ::
        .mark ',' false :: rest)) (.names ["Some"])
      (.opening .paren :: (pair type constant ++ .closing .paren :: .mark ',' false :: rest)) := rfl
  exact yields_statementExpr rfl rfl
    (yields_operand rfl rfl rfl hatom (yields_call _ hlist (.comma rest))) rfl (.comma rest)

/-! ## Functions -/

/-- The tokens of a `match` over the error, up to the end of the braces that it stands in. -/
theorem yields_table {arms : List Arm} (harms : ∀ a ∈ arms, ∀ rest, ReadsArm depth rounds a rest)
    (hlength : arms.length < rounds + 12) :
    Yields (Reader.readers (depth + 13)).statements (rounds + 12)
      (inBraces [.expr (.select (.names ["self"]) [] arms) false] rest)
      [.expr (.select (.names ["self"]) [] arms) false] rest := by
  have hinner : startsInner (arms.flatMap Arm.tokens ++ .closing .brace :: .closing .brace :: rest) =
      false := by
    cases arms with
    | nil => rfl
    | cons a arms =>
      rw [List.flatMap_cons, List.append_assoc]
      exact (harms a List.mem_cons_self _).no_attribute
  show Yields (statementsStep (Reader.readers (depth + 12))) _ _ _ _
  refine .bind (yields_limit _ _) (yields_statementRounds_last rfl rfl ?_)
  rw [inBraces, Statement.listTokens, Statement.listTokens, List.append_nil, tokens_select]
  exact yields_select rfl (fun a ha rest => (harms a ha rest).yields)
    (fun a ha rest => (harms a ha rest).starts) hinner hlength ⟨rfl, rfl, rfl⟩

/-- A function without parameters but `self`, without its statements. -/
def getterSignature (documentation name : String) (result : TypeExpr) : Signature where
  attributes := [.doc documentation]
  visibility := .everyone
  name := name
  parameters := [.self]
  result := some result

/-- The tokens of the parameter for the value itself. -/
def selfTokens : List Token := [.mark '&' false, .ident "self"]

open scoped Spelled in
theorem tokens_getterSignature (documentation name : String) (result : TypeExpr) :
    (getterSignature documentation name result).tokens =
      attributeTokens [.doc documentation] ++ .ident "pub" :: .ident "fn" :: .ident name ::
        (Token.group .paren selfTokens ++ Token.sign "->") ++ result.tokens := by
  have hself : commaSeparated [Token.sign "&" ++ [.ident "self"]] = selfTokens := rfl
  simp [getterSignature, hself]

theorem yields_documentation (documentation : String) (word : String) (rest : List Token) :
    Yields (outerAttributes (Reader.readers (depth + 13))) (rounds + 12)
      (attributeTokens [.doc documentation] ++ .ident word :: rest) [.doc documentation]
      (.ident word :: rest) := rfl

theorem getter_eq {documentation : String} (hdocumentation : documentation.isEmpty = false)
    (name : String) (result : TypeExpr) (body : Expr) :
    getter .everyone false documentation name result body =
      .function { getterSignature documentation name result with body := [.expr body false] } := by
  rw [getter, hdocumentation]
  rfl

theorem isEnd_getter {documentation name : String} {result : TypeExpr} {body : Expr}
    (hdocumentation : documentation.isEmpty = false) :
    isEnd ((getter .everyone false documentation name result body).tokens ++ rest) = false := by
  rw [getter_eq hdocumentation, Member.tokens, Function.tokens, tokens_getterSignature]
  rfl

theorem yields_getter {documentation name : String} {result : TypeExpr} {arms : List Arm}
    (hdocumentation : documentation.isEmpty = false)
    (hsignature : ∀ inside, ReadsSignature (Reader.readers (depth + 13)) (rounds + 12)
      ((getterSignature documentation name result).tokens ++ .opening .brace :: inside)
      (getterSignature documentation name result) (.opening .brace :: inside))
    (harms : ∀ a ∈ arms, ∀ rest, ReadsArm depth rounds a rest)
    (hlength : arms.length < rounds + 12) :
    Yields (member (Reader.readers (depth + 13))) (rounds + 12)
      ((getter .everyone false documentation name result
        (.select (.names ["self"]) [] arms)).tokens ++ rest)
      (getter .everyone false documentation name result (.select (.names ["self"]) [] arms)) rest := by
  rw [getter_eq hdocumentation]
  exact yields_function rfl (hsignature _) rfl (yields_table harms hlength)

theorem readsSignature_errorTypeName (documentation : String) (inside : List Token) :
    ReadsSignature (Reader.readers (depth + 13)) (rounds + 12)
      ((getterSignature documentation "error_type_name" .text).tokens ++ .opening .brace :: inside)
      (getterSignature documentation "error_type_name" .text) (.opening .brace :: inside) := by
  rw [tokens_getterSignature, List.append_assoc, List.append_assoc]
  exact ⟨_, _, yields_documentation documentation "pub" _, rfl, rfl, rfl, rfl, rfl⟩

/-- The accessor of the declared identifier, of which the type is the option set. -/
def errorTypeSignature (type : String) : Signature where
  visibility := .everyone
  name := "error_type"
  parameters := [.self]
  result := some (.path (.plain false [.mk "Option" (.angled [.type (.named type)])]))

theorem yields_errorTypeSignature {type : String} (htype : isKeyword type = false)
    (attributes : List Attribute) (angle trailing : Bool) (inside : List Token) :
    Yields (signature (Reader.readers (depth + 13)) attributes .everyone false) (rounds + 12)
      (.ident "fn" :: .ident "error_type" :: (Token.group .paren (withCommas trailing [selfTokens]) ++
        .mark '-' true :: .mark '>' false :: optionTokens angle type inside))
      { errorTypeSignature type with attributes } (.opening .brace :: inside) := by
  let behind : List Token := .mark '-' true :: .mark '>' false :: optionTokens angle type inside
  have hoption : Yields (result? (Reader.readers (depth + 13)) true) (rounds + 12) behind
      (some (.path (.plain false [.mk "Option" (.angled [.type (.named type)])])))
      (.opening .brace :: inside) :=
    .step true (optionTokens angle type inside) rfl
      (.of_pos rfl ((yields_optionType angle htype inside).map some))
  refine .bind (yields_no_word rfl) ?_
  refine .bind (yields_no_word rfl) ?_
  refine .bind (yields_no_word rfl) ?_
  refine .step Convention.standard (.ident "fn" :: _) rfl ?_
  refine .step () (.ident "error_type" :: _) rfl ?_
  refine .step "error_type" (.opening .paren :: _) rfl ?_
  refine .step [] (.opening .paren :: _) rfl ?_
  refine .step () (withCommas trailing [selfTokens] ++ .closing .paren :: behind) ?_ ?_
  · cases trailing <;> rfl
  refine .bind (yields_limit _ _) ?_
  refine .step ([Parameter.self], none) behind ?_ ?_
  · cases trailing <;> rfl
  refine .bind hoption ?_
  exact .step [] (.opening .brace :: inside) rfl rfl

theorem readsSignature_errorType {type : String} (htype : isKeyword type = false)
    (documentation : String) (inside : List Token) :
    ReadsSignature (Reader.readers (depth + 13)) (rounds + 12)
      ((getterSignature documentation "error_type" (.path (.plain false
        [.mk "Option" (.angled [.type (.named type)])]))).tokens ++ .opening .brace :: inside)
      (getterSignature documentation "error_type" (.path (.plain false
        [.mk "Option" (.angled [.type (.named type)])])))
      (.opening .brace :: inside) := by
  rw [tokens_getterSignature, List.append_assoc, List.append_assoc]
  refine ⟨_, _, yields_documentation documentation "pub" _, rfl, rfl, rfl, rfl, ?_⟩
  exact yields_errorTypeSignature htype _ false false inside

/-! ## Accessors -/

section

variable {policy : Policy} {model : Model} {unknown : String}

theorem length_declaredArms (names : List String) (result : Declared → Expr) :
    (declaredArms names result).length = names.length := by
  simp [declaredArms, declaredFor]

theorem length_validation_le (policy : Policy) (model : Model) (unknown : String) :
    (namesFor model policy unknown).validation.toList.length ≤ 1 := by
  unfold namesFor
  split
  · exact Nat.le_refl 1
  · exact Nat.zero_le 1

theorem length_nameArms_le (policy : Policy) (model : Model) (unknown : String) :
    (nameArms policy model unknown).length ≤ model.sortedNames.length + 2 := by
  have hvalidation := length_validation_le policy model unknown
  simp only [nameArms, List.length_append, length_declaredArms, List.length_map, List.length_cons,
    List.length_nil]
  omega

theorem length_optionArms_le (model : Model) :
    (optionArms model).length ≤ model.sortedNames.length + 2 := by
  simp only [optionArms, List.length_append, length_declaredArms, List.length_cons,
    List.length_nil]
  omega

theorem length_displayArms_le (policy : Policy) (model : Model) (unknown : String) :
    (displayArms policy model unknown).length ≤ model.sortedNames.length + 2 := by
  have hvalidation := length_validation_le policy model unknown
  simp only [displayArms, List.length_append, length_declaredArms, List.length_map,
    List.length_cons, List.length_nil]
  omega

theorem readsArm_nameArms (hnamed : Named policy model unknown) :
    ∀ a ∈ nameArms policy model unknown, ∀ rest, ReadsArm depth rounds a rest := by
  intro a ha
  rw [nameArms, List.append_assoc] at ha
  rcases List.mem_append.mp ha with ha | ha
  · refine forall_declaredArms (P := fun a => ∀ rest, ReadsArm depth rounds a rest) ?_ a ha
    exact fun name hname _ => readsArm_unit (hnamed.variants name hname).word (yields_quote name) rfl
  · refine forall_carriers (P := fun a => ∀ rest, ReadsArm depth rounds a rest)
      (fun _ _ => .method (.names ["error_type"]) "as_str" []) ?_ ?_ a ha
    · exact fun _ => readsArm_carrier isName_validationVariant.word (.inr rfl) yields_asStr rfl
    · exact fun _ => readsArm_carrier hnamed.unknown.word (.inr rfl) yields_asStr rfl

theorem readsArm_optionArms (hnamed : Named policy model unknown) :
    ∀ a ∈ optionArms model, ∀ rest, ReadsArm depth rounds a rest := by
  intro a ha
  rcases List.mem_append.mp ha with ha | ha
  · refine forall_declaredArms (P := fun a => ∀ rest, ReadsArm depth rounds a rest) ?_ a ha
    exact fun name hname _ => readsArm_unit (hnamed.variants name hname).word
      (yields_someConstant hnamed.optionSet.word (hnamed.constants name hname).word) rfl
  · obtain rfl := List.mem_singleton.mp ha
    exact fun _ => readsArm_wildcard

theorem readsArm_displayArms (hnamed : Named policy model unknown) :
    ∀ a ∈ displayArms policy model unknown, ∀ rest, ReadsArm depth rounds a rest := by
  intro a ha
  rw [displayArms, List.append_assoc] at ha
  rcases List.mem_append.mp ha with ha | ha
  · refine forall_declaredArms (P := fun a => ∀ rest, ReadsArm depth rounds a rest) ?_ a ha
    exact fun name hname _ => readsArm_unit (hnamed.variants name hname).word
      (yields_writeText name) rfl
  · refine forall_carriers (P := fun a => ∀ rest, ReadsArm depth rounds a rest) writeLabelled
      ?_ ?_ a ha
    · exact fun _ => readsArm_carrier isName_validationVariant.word (.inl rfl)
        (yields_writeLabelled (.inl rfl)) rfl
    · exact fun _ => readsArm_carrier hnamed.unknown.word (.inr rfl)
        (yields_writeLabelled (.inr rfl)) rfl

theorem yields_accessors (hnamed : Named policy model unknown)
    (hrounds : model.sortedNames.length + 2 < rounds + 12) :
    ∀ m ∈ accessors (namesFor model policy unknown) (declaredFor model.sortedNames), ∀ rest,
      Yields (member (Reader.readers (depth + 13))) (rounds + 12) (m.tokens ++ rest) m rest ∧
        isEnd (m.tokens ++ rest) = false := by
  have hnameArms : (nameArms policy model unknown).length < rounds + 12 :=
    Nat.lt_of_le_of_lt (length_nameArms_le ..) hrounds
  have hoptionArms : (optionArms model).length < rounds + 12 :=
    Nat.lt_of_le_of_lt (length_optionArms_le ..) hrounds
  intro m hm rest
  rw [accessors_eq] at hm
  rcases List.mem_cons.mp hm with rfl | hm
  · refine ⟨?_, isEnd_getter rfl⟩
    exact yields_getter rfl (readsSignature_errorTypeName _) (readsArm_nameArms hnamed) hnameArms
  · obtain rfl := List.mem_singleton.mp hm
    refine ⟨?_, isEnd_getter rfl⟩
    exact yields_getter rfl (readsSignature_errorType hnamed.optionSet.word _)
      (readsArm_optionArms hnamed) hoptionArms

end

end ErrorModule

end WireErrors
