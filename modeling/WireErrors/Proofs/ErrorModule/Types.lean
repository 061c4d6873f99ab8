import WireErrors.Proofs.ErrorModule.Tables

/-!
# Reading the types of a module

The option set with its constants, the error enum with its variants and the implementations of traits
for both are read as the items that they were made from.
-/

namespace WireErrors

open Source Source.Reader

namespace ErrorModule

open ErrorTypes

variable {depth rounds : Nat} {type : String} {tokens rest : List Token}

/-! ## The option set -/

theorem yields_constantDeclaration (d : Declared) (hconstant : isKeyword d.constant = false) :
    Yields (member (Reader.readers (depth + 13))) (rounds + 12)
      ((constantDeclaration d).tokens ++ rest) (constantDeclaration d) rest := by
  have hvalue : Yields (wholeExpr (Reader.readers (depth + 13))) (rounds + 12)
      ((Expr.record (.names ["Self"]) [.plain "description" (.literal (Text.quote d.name))]
        none).tokens ++ .mark ';' false :: rest)
      (.record (.names ["Self"]) [.plain "description" (.literal (Text.quote d.name))] none)
      (.mark ';' false :: rest) := rfl
  exact yields_constant hconstant hvalue

theorem readsSignature_all (inside : List Token) :
    ReadsSignature (Reader.readers (depth + 13)) (rounds + 12)
      (allSignature.tokens ++ .opening .brace :: inside) allSignature (.opening .brace :: inside) :=
  ⟨_, _, rfl, rfl, rfl, rfl, rfl, rfl⟩

theorem yields_allFunction {names : List String}
    (hconstants : ∀ name ∈ names, isKeyword (constantName name) = false)
    (hrounds : names.length < rounds + 12) :
    Yields (member (Reader.readers (depth + 13))) (rounds + 12)
      ((allFunction names).tokens ++ rest) (.function (allFunction names)) rest := by
  let list : List Expr := (declaredFor names).map fun d => .names ["Self", d.constant]
  have hread : ∀ e ∈ list, ∀ rest, Stops rest →
      Yields (wholeExpr (Reader.readers (depth + 9))) (rounds + 12) (e.tokens ++ rest) e rest := by
    intro e he rest hrest
    obtain ⟨d, hd, rfl⟩ := List.mem_map.mp he
    obtain ⟨name, hname, rfl⟩ := List.mem_map.mp hd
    exact yields_wholePath (.inl rfl) (hconstants name hname) hrest
  have hstart : ∀ e ∈ list, ∀ rest, isEnd (e.tokens ++ rest) = false := by
    intro e he rest
    obtain ⟨d, hd, rfl⟩ := List.mem_map.mp he
    rfl
  have hlength : list.length < rounds + 12 := by simpa [list, declaredFor] using hrounds
  have harray : Yields (atom (Reader.readers (depth + 9)) true) (rounds + 12)
      ((Expr.array list).tokens ++ .closing .brace :: rest) (.array list)
      (.closing .brace :: rest) := yields_array hread hstart hlength _
  have hreference : Yields (unary (Reader.readers (depth + 10)) true) (rounds + 12)
      (.mark '&' false :: ((Expr.array list).tokens ++ .closing .brace :: rest))
      (.reference false (.array list)) (.closing .brace :: rest) :=
    yields_reference rfl rfl
      (yields_operand rfl rfl rfl harray (yields_extend (.closing _ rest) _))
  have hvalue : Yields ((Reader.readers (depth + 12)).expr .statement) (rounds + 12)
      (.mark '&' false :: ((Expr.array list).tokens ++ .closing .brace :: rest))
      (.reference false (.array list)) (.closing .brace :: rest) :=
    yields_statementExpr rfl rfl hreference rfl (.closing _ rest)
  have htokens : inBraces (allFunction names).body rest =
      .mark '&' false :: ((Expr.array list).tokens ++ .closing .brace :: rest) := by
    simp [inBraces, allFunction, Statement.listTokens, Statement.tokens, Expr.tokens, signIf, wordIf,
      list, Token.sign, Token.sign.go]
  have hbody : Yields (Reader.readers (depth + 13)).statements (rounds + 12)
      (inBraces (allFunction names).body rest) (allFunction names).body rest := by
    rw [htokens]
    show Yields (statementsStep (Reader.readers (depth + 12))) _ _ _ _
    refine .bind (yields_limit _ _) (yields_statementRounds_last rfl rfl ?_)
    exact yields_statement rfl rfl rfl rfl hvalue (yields_no_sign rfl) rfl
  exact yields_function rfl (readsSignature_all _) (by rw [htokens]; rfl) hbody

theorem yields_descriptionGetter :
    Yields (member (Reader.readers (depth + 13))) (rounds + 12)
      ((getter .everyone true " Wire identifier of the error" "description"
        (staticReference (.named "str")) description).tokens ++ rest)
      (getter .everyone true " Wire identifier of the error" "description"
        (staticReference (.named "str")) description) rest := rfl

theorem yields_optionSetMembers {model : Model} (htype : isKeyword type = false)
    (hconstants : ∀ name ∈ model.sortedNames, isKeyword (constantName name) = false)
    (hrounds : model.sortedNames.length + 2 < rounds + 12) (rest : List Token) :
    Yields (Reader.readers (depth + 14)).item (rounds + 12)
      ((implementation none type (optionSetMembers model)).tokens ++ rest)
      (implementation none type (optionSetMembers model)) rest := by
  have hmembers : ∀ m ∈ optionSetMembers model, ∀ rest,
      Yields (member (Reader.readers (depth + 13))) (rounds + 12) (m.tokens ++ rest) m rest := by
    intro m hm rest
    rcases List.mem_append.mp hm with hm | hm
    · obtain ⟨d, hd, rfl⟩ := List.mem_map.mp hm
      obtain ⟨name, hname, rfl⟩ := List.mem_map.mp hd
      exact yields_constantDeclaration ⟨name, variantName name, constantName name⟩
        (hconstants name hname)
    · rcases List.mem_cons.mp hm with rfl | hm
      · exact yields_allFunction hconstants (by omega)
      · obtain rfl := List.mem_singleton.mp hm
        exact yields_descriptionGetter
  have hstart : ∀ m ∈ optionSetMembers model, ∀ rest, isEnd (m.tokens ++ rest) = false := by
    intro m hm rest
    rcases List.mem_append.mp hm with hm | hm
    · obtain ⟨d, hd, rfl⟩ := List.mem_map.mp hm
      rfl
    · rcases List.mem_cons.mp hm with rfl | hm
      · rw [Member.tokens, Function.tokens, List.append_assoc]
        rfl
      · obtain rfl := List.mem_singleton.mp hm
        rfl
  have hlength : (optionSetMembers model).length < rounds + 12 := by
    simp only [optionSetMembers, List.length_append, List.length_map, declaredFor,
      List.length_cons, List.length_nil]
    omega
  have hinner : startsInner ((optionSetMembers model).flatMap Member.tokens ++
      .closing .brace :: rest) = false := by
    unfold optionSetMembers
    cases model.sortedNames with
    | nil => rfl
    | cons name names => rfl
  rw [tokens_inherent, List.cons_append, List.cons_append, group_append]
  exact yields_inherent htype hinner (yields_upTo hmembers hstart hlength rest)

/-! ## Display -/

/-- The function of `Display` without its statements. -/
def fmtSignature : Signature where
  name := "fmt"
  parameters := [.self, .named "f" (.reference none true formatter)]
  result := some (.names ["std", "fmt", "Result"])

theorem displayImpl_eq (type : String) (body : Expr) :
    displayImpl type body = implementation (some (.names ["std", "fmt", "Display"])) type
      [.function { fmtSignature with body := [.expr body false] }] := rfl

set_option maxRecDepth 4000 in
theorem readsSignature_fmt (inside : List Token) :
    ReadsSignature (Reader.readers (depth + 13)) (rounds + 12)
      (fmtSignature.tokens ++ .opening .brace :: inside) fmtSignature
      (.opening .brace :: inside) := ⟨_, _, rfl, rfl, rfl, rfl, rfl, rfl⟩

/-- The function that writes the text of an error, with one expression for its body. -/
def fmtFunction (body : Expr) : Function := { fmtSignature with body := [.expr body false] }

theorem yields_displayImpl {body : Expr} (htype : isKeyword type = false)
    (hinner : ∀ rest, startsInner (inBraces [.expr body false] rest) = false)
    (hbody : ∀ rest, Yields (Reader.readers (depth + 13)).statements (rounds + 12)
      (inBraces [.expr body false] rest) [.expr body false] rest) (rest : List Token) :
    Yields (Reader.readers (depth + 14)).item (rounds + 12) ((displayImpl type body).tokens ++ rest)
      (displayImpl type body) rest := by
  have hmember : ∀ m ∈ [Member.function (fmtFunction body)], ∀ rest,
      Yields (member (Reader.readers (depth + 13))) (rounds + 12) (m.tokens ++ rest) m rest := by
    intro m hm rest
    obtain rfl := List.mem_singleton.mp hm
    exact yields_function rfl (readsSignature_fmt _) (hinner rest) (hbody rest)
  have hstart : ∀ m ∈ [Member.function (fmtFunction body)], ∀ rest, isEnd (m.tokens ++ rest) = false := by
    intro m hm rest
    obtain rfl := List.mem_singleton.mp hm
    rw [Member.tokens, Function.tokens, List.append_assoc]
    rfl
  have hstarts : startsInner ([Member.function (fmtFunction body)].flatMap Member.tokens ++
      .closing .brace :: rest) = false := by
    rw [List.flatMap_singleton, Member.tokens, Function.tokens, List.append_assoc]
    rfl
  have hone : [Member.function (fmtFunction body)].length < rounds + 12 := by
    show 1 < rounds + 12
    omega
  rw [displayImpl_eq, tokens_interface, List.cons_append, List.append_assoc, List.cons_append,
    List.cons_append, group_append]
  exact yields_interface htype ⟨rfl, rfl, rfl, rfl⟩ rfl rfl hstarts
    (yields_upTo hmember hstart hone rest)

/-! ## Conformance -/

set_option maxRecDepth 4000 in
theorem yields_writeDescription :
    Yields (Reader.readers (depth + 13)).statements (rounds + 12)
      (inBraces [.expr (writeText description) false] rest)
      [.expr (writeText description) false] rest := rfl

set_option maxRecDepth 4000 in
theorem yields_descriptionMember :
    Yields (member (Reader.readers (depth + 13))) (rounds + 12)
      ((getter .inherited false "" "description" .text description).tokens ++ rest)
      (getter .inherited false "" "description" .text description) rest := rfl

/-- What a custom conformance implements. -/
def descriptionMembers : List Member :=
  [getter .inherited false "" "description" .text description]

theorem yields_conformanceImpl {conformance : Conformance} (htype : isKeyword type = false)
    (hinterface : ∀ library interface, conformance = .custom library interface →
      isKeyword interface = false) :
    ∀ item ∈ conformanceImpl conformance type, ∀ rest,
      Yields (Reader.readers (depth + 14)).item (rounds + 12) (item.tokens ++ rest) item rest := by
  intro item hitem rest
  cases conformance with
  | none => cases hitem
  | display =>
    obtain rfl := List.mem_singleton.mp hitem
    exact yields_displayImpl htype (fun _ => rfl) (fun _ => yields_writeDescription) rest
  | custom library interface =>
    obtain rfl := List.mem_singleton.mp hitem
    have hword := hinterface library interface rfl
    have hmember : ∀ m ∈ descriptionMembers, ∀ rest,
        Yields (member (Reader.readers (depth + 13))) (rounds + 12) (m.tokens ++ rest) m rest := by
      intro m hm rest
      obtain rfl := List.mem_singleton.mp hm
      exact yields_descriptionMember
    have hstart : ∀ m ∈ descriptionMembers, ∀ rest, isEnd (m.tokens ++ rest) = false := by
      intro m hm rest
      obtain rfl := List.mem_singleton.mp hm
      rfl
    have hone : descriptionMembers.length < rounds + 12 := by
      show 1 < rounds + 12
      omega
    rw [tokens_interface, List.cons_append, List.append_assoc, List.cons_append,
      List.cons_append, group_append]
    exact yields_interface htype (startsType_name hword _) rfl
      (yields_named hword ⟨⟨rfl, rfl⟩, rfl, rfl, rfl⟩) rfl (yields_upTo hmember hstart hone rest)

/-! ## Types -/

theorem yields_optionSetRecord {expected : String} (htype : isKeyword type = false)
    (rest : List Token) :
    Yields (Reader.readers (depth + 14)).item (rounds + 12)
      ((optionSetRecord type expected).tokens ++ rest) (optionSetRecord type expected) rest :=
  yields_item_record htype rfl rfl

/-- The variant of a declared error. -/
def declaredVariant (d : Declared) : Variant where
  attributes := [.docText (" The `" ++ d.name ++ "` error")]
  name := d.variant

theorem yields_declaredVariant (d : Declared) (hvariant : isKeyword d.variant = false)
    (rest : List Token) :
    Yields (variant (Reader.readers (depth + 13))) (rounds + 12)
      (variantTokens (declaredVariant d) ++ .mark ',' false :: rest) (declaredVariant d)
      (.mark ',' false :: rest) :=
  yields_plainVariant hvariant rfl

theorem yields_carryingVariant {documentation name : String} (hname : isKeyword name = false)
    (rest : List Token) :
    Yields (variant (Reader.readers (depth + 13))) (rounds + 12)
      (variantTokens (carryingVariant documentation name) ++ .mark ',' false :: rest)
      (carryingVariant documentation name) (.mark ',' false :: rest) :=
  yields_positionalVariant hname rfl rfl

/-- The variants of the error type. -/
def errorVariants (policy : Policy) (model : Model) (unknown : String) : List Variant :=
  (declaredFor model.sortedNames).map declaredVariant ++
    ((namesFor model policy unknown).validation.toList.map
      (carryingVariant " The request failed validation; carries the wire identifier")) ++
    [carryingVariant " An error identifier the model does not declare" unknown]

theorem errorEnum_eq (policy : Policy) (model : Model) (unknown : String) :
    errorEnum (namesFor model policy unknown) policy.serializable (declaredFor model.sortedNames) =
      .enumeration
        { attributes := [.doc " Errors declared by the service model", derives policy.serializable]
          visibility := .everyone
          name := model.errorType }
        (errorVariants policy model unknown) := rfl

theorem forall_errorVariants {policy : Policy} {model : Model} {unknown : String}
    {P : Variant → Prop} (hdeclared : ∀ name ∈ model.sortedNames, P (declaredVariant ⟨name, variantName name, constantName name⟩))
    (hvalidation : P (carryingVariant " The request failed validation; carries the wire identifier"
      Policy.validationVariant))
    (hunknown : P (carryingVariant " An error identifier the model does not declare" unknown)) :
    ∀ v ∈ errorVariants policy model unknown, P v := by
  intro v hv
  rw [errorVariants, declaredFor, List.mem_append, List.mem_append] at hv
  rcases hv with (hv | hv) | hv
  · obtain ⟨d, hd, rfl⟩ := List.mem_map.mp hv
    obtain ⟨name, hname, rfl⟩ := List.mem_map.mp hd
    exact hdeclared name hname
  · obtain ⟨variant, hvariant, rfl⟩ := List.mem_map.mp hv
    rw [eq_of_mem_validation hvariant]
    exact hvalidation
  · rw [List.mem_singleton.mp hv]
    exact hunknown

theorem yields_errorEnum {policy : Policy} {model : Model} {unknown : String}
    (hnamed : Named policy model unknown)
    (hrounds : model.sortedNames.length + 2 < rounds + 12) (rest : List Token) :
    Yields (Reader.readers (depth + 14)).item (rounds + 12)
      ((errorEnum (namesFor model policy unknown) policy.serializable
        (declaredFor model.sortedNames)).tokens ++ rest)
      (errorEnum (namesFor model policy unknown) policy.serializable
        (declaredFor model.sortedNames)) rest := by
  have hvariants : ∀ v ∈ errorVariants policy model unknown, ∀ rest,
      Yields (variant (Reader.readers (depth + 13))) (rounds + 12)
        (variantTokens v ++ .mark ',' false :: rest) v (.mark ',' false :: rest) := by
    refine forall_errorVariants (P := fun v => ∀ rest, Yields _ _
      (variantTokens v ++ .mark ',' false :: rest) v (.mark ',' false :: rest)) ?_ ?_ ?_
    · intro name hname rest
      exact yields_declaredVariant ⟨name, variantName name, constantName name⟩
        (hnamed.variants name hname).word rest
    · exact yields_carryingVariant isName_validationVariant.word
    · exact yields_carryingVariant hnamed.unknown.word
  have hstart : ∀ v ∈ errorVariants policy model unknown, ∀ rest,
      isEnd (variantTokens v ++ rest) = false :=
    forall_errorVariants (P := fun v => ∀ rest, isEnd (variantTokens v ++ rest) = false)
      (fun _ _ _ => rfl) (fun _ => rfl) fun _ => rfl
  have hlength : (errorVariants policy model unknown).length < rounds + 12 := by
    have hvalidation := length_validation_le policy model unknown
    simp only [errorVariants, List.length_append, List.length_map, declaredFor, List.length_cons,
      List.length_nil]
    omega
  have hinside : (errorVariants policy model unknown).flatMap Variant.tokens ++
      [.closing .brace] ++ rest = ((errorVariants policy model unknown).flatMap fun v =>
        variantTokens v ++ Token.sign ",") ++ .closing .brace :: rest := by
    rw [List.append_assoc]
    rfl
  have hlist : Yields (commaList .brace (variant (Reader.readers (depth + 13)))) (rounds + 12)
      ((errorVariants policy model unknown).flatMap Variant.tokens ++ [.closing .brace] ++ rest)
      (errorVariants policy model unknown) rest := by
    rw [hinside]
    exact yields_commaList hvariants hstart hlength rest
  rw [errorEnum_eq]
  cases policy.serializable with
  | false => exact yields_item_enumeration hnamed.error.word rfl hlist
  | true => exact yields_item_enumeration hnamed.error.word rfl hlist

end ErrorModule

end WireErrors
