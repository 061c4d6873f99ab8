import WireErrors.Proofs.ErrorModule.Names
import WireErrors.Proofs.Execution.Accessors

/-!
# The items of an error module

`itemsFor` are the items that the blocks of a module consist of, without the import, and `IsModule` is
said of the programs of these items. Here is what the two types of a module have in it: the members of
each type and of its `Display`, the variants, and the constants.
-/

namespace WireErrors

open Source

namespace ErrorModule

open ErrorTypes Decoder

/-! ## Items -/

/-- The members of the error type. -/
def errorMembers (strategy : Strategy) (policy : Policy) (model : Model) (unknown : String) :
    List Member :=
  members strategy policy (casesFor model.sortedNames) unknown ++
    accessors (namesFor model policy unknown) (declaredFor model.sortedNames)

/-- The arms of the function for the wire identifier of an error. -/
def nameArms (policy : Policy) (model : Model) (unknown : String) : List Arm :=
  declaredArms model.sortedNames (fun d => .literal (Text.quote d.name)) ++
    ((namesFor model policy unknown).validation.toList.map fun variant =>
      .plain (carrier variant "error_type") (.method (.names ["error_type"]) "as_str" [])) ++
    [.plain (carrier unknown "error_type") (.method (.names ["error_type"]) "as_str" [])]

/-- The arms of the function for the declared identifier of an error. -/
def optionArms (model : Model) : List Arm :=
  declaredArms model.sortedNames (fun d =>
      .call (.names ["Some"]) [.names [model.optionSetType, d.constant]]) ++
    [.plain .wildcard (.names ["None"])]

/-- The arms of the function that displays an error. -/
def displayArms (policy : Policy) (model : Model) (unknown : String) : List Arm :=
  declaredArms model.sortedNames (fun d => writeText (.literal (Text.quote d.name))) ++
    ((namesFor model policy unknown).validation.toList.map fun variant =>
      .plain (carrier variant "reason") (writeLabelled variant "reason")) ++
    [.plain (carrier unknown "error_type") (writeLabelled unknown "error_type")]

theorem forall_declaredArms {names : List String} {result : Declared → Expr} {P : Arm → Prop}
    (h : ∀ name ∈ names, P (.plain (unitPattern (variantName name))
      (result ⟨name, variantName name, constantName name⟩))) :
    ∀ a ∈ declaredArms names result, P a := by
  intro a ha
  obtain ⟨d, hd, rfl⟩ := List.mem_map.mp ha
  obtain ⟨name, hname, rfl⟩ := List.mem_map.mp hd
  exact h name hname

theorem forall_carriers {policy : Policy} {model : Model} {unknown first last : String}
    {P : Arm → Prop} (result : String → String → Expr)
    (hvalidation : P (.plain (carrier Policy.validationVariant first)
      (result Policy.validationVariant first)))
    (hunknown : P (.plain (carrier unknown last) (result unknown last))) :
    ∀ a ∈ ((namesFor model policy unknown).validation.toList.map fun variant =>
        Arm.plain (carrier variant first) (result variant first)) ++
        [.plain (carrier unknown last) (result unknown last)], P a := by
  intro a ha
  rcases List.mem_append.mp ha with ha | ha
  · obtain ⟨variant, hvariant, rfl⟩ := List.mem_map.mp ha
    rw [eq_of_mem_validation hvariant]
    exact hvalidation
  · rw [List.mem_singleton.mp ha]
    exact hunknown

/-- The items for `Display`, if there are any. -/
def displayItems (policy : Policy) (model : Model) (unknown : String) : List Item :=
  if policy.display then
    ErrorTypes.display (namesFor model policy unknown) (declaredFor model.sortedNames)
  else []

/-- The items of a module behind its import; `expected` is the trait named in the documentation of
the option set. -/
def itemsFor (strategy : Strategy) (policy : Policy) (expected : String) (model : Model)
    (unknown : String) : List Item :=
  let types := namesFor model policy unknown
  let declared := declaredFor model.sortedNames
  ErrorTypes.optionSet types policy.conformance expected declared ++
    [errorEnum types policy.serializable declared,
      implementation none model.errorType (errorMembers strategy policy model unknown)] ++
    displayItems policy model unknown

/-- A program that consists of the items of a module, with imports in front of them or without. -/
structure IsModule (program : Program) (strategy : Strategy) (policy : Policy) (expected : String)
    (model : Model) (unknown : String) : Prop where
  exists_imports : ∃ imports : List Item,
    program.items = imports ++ itemsFor strategy policy expected model unknown ∧
    ∀ item ∈ imports, ∃ attributes visibility absolute tree,
      item = .use attributes visibility absolute tree

theorem IsModule.flatMap_items {program : Program} {strategy : Strategy} {policy : Policy}
    {expected : String} {model : Model} {unknown : String} {α : Type} {f : Item → List α}
    (h : IsModule program strategy policy expected model unknown)
    (hf : ∀ attributes visibility absolute tree, f (.use attributes visibility absolute tree) = []) :
    program.items.flatMap f = (itemsFor strategy policy expected model unknown).flatMap f := by
  obtain ⟨imports, hitems, huse⟩ := h.exists_imports
  rw [hitems, List.flatMap_append, List.flatMap_eq_nil_iff.mpr, List.nil_append]
  intro item hitem
  obtain ⟨attributes, visibility, absolute, tree, rfl⟩ := huse item hitem
  exact hf attributes visibility absolute tree

variable (strategy : Strategy) (policy : Policy) (expected : String) (model : Model)
  (unknown : String)

/-! ## The two types -/

theorem errorType_ne_optionSetType : model.errorType ≠ model.optionSetType := by
  intro h
  have hlength := congrArg (fun name => name.toList.length) h
  simp [Model.errorType, Model.optionSetType] at hlength

theorem path?_names (names : List String) : (TypeExpr.names names).path? = some ⟨false, names⟩ := by
  have hnames : Route.path?.names? (names.map Segment.plain) = some names := by
    induction names with
    | nil => rfl
    | cons name names ih =>
      show (Route.path?.names? (names.map Segment.plain)).map (name :: ·) = _
      rw [ih]
      rfl
  show (Route.path?.names? (names.map Segment.plain)).map _ = _
  rw [hnames]
  rfl

theorem membersFor_inherent (interface : Option Path) (type implementer : String)
    (members : List Member) :
    (implementation none implementer members).membersFor interface type =
      if interface = none ∧ implementer = type then members else [] := by
  rw [implementation, Item.membersFor, path?_names]
  simp [eq_comm]

theorem membersFor_interface (names : List String) (interface : Option Path)
    (type implementer : String) (members : List Member) :
    (implementation (some (.names names)) implementer members).membersFor interface type =
      if interface = some ⟨false, names⟩ ∧ implementer = type then members else [] := by
  rw [implementation, Item.membersFor, Option.bind_some, path?_names, path?_names]
  simp [eq_comm]

/-- The path of the trait `Display`. -/
def displayPath : Path := ⟨false, ["std", "fmt", "Display"]⟩

theorem flatMap_conformanceImpl {interface : Option Path} {type : String}
    (h : interface = none ∨ model.optionSetType ≠ type) :
    (conformanceImpl policy.conformance model.optionSetType).flatMap
      (Item.membersFor interface type) = [] := by
  have hno : ∀ names, ¬(interface = some ⟨false, names⟩ ∧ model.optionSetType = type) := by
    rintro names ⟨hinterface, htype⟩
    rcases h with hnone | hne
    · rw [hnone] at hinterface
      cases hinterface
    · exact hne htype
  cases policy.conformance with
  | none => rfl
  | display =>
    unfold conformanceImpl displayImpl
    rw [List.flatMap_singleton, membersFor_interface, if_neg (hno _)]
  | custom library interface =>
    unfold conformanceImpl
    rw [List.flatMap_singleton, membersFor_interface, if_neg (hno _)]

/-- The function that lists the constants, without its statements. -/
def allSignature : Signature where
  attributes := [.doc " Every declared error identifier"]
  visibility := .everyone
  name := "all"
  parameters := []
  result := some (staticReference (.slice (.named "Self")))

def allFunction (names : List String) : Function where
  toSignature := allSignature
  body := [.expr (.reference false (.array
    ((declaredFor names).map fun d => .names ["Self", d.constant]))) false]

/-- The members of the option set. -/
def optionSetMembers : List Member :=
  (declaredFor model.sortedNames).map constantDeclaration ++
    [.function (allFunction model.sortedNames),
     getter .everyone true " Wire identifier of the error" "description"
      (staticReference (.named "str")) description]

/-- The type of the option set, without its constants. -/
def optionSetRecord (type expected : String) : Item :=
  .record
    { attributes :=
        [.doc " Identifiers of the errors declared by the service model", .doc "",
          .docText (" Expected to conform to `" ++ expected ++ "`."),
          .derive [["Debug"], ["Clone"], ["Copy"], ["PartialEq"], ["Eq"], ["Hash"]]]
      visibility := .everyone
      name := type }
    (.named [{ name := some "description", type := staticReference (.named "str") }])

theorem optionSet_eq (policy : Policy) (expected : String) (model : Model) (unknown : String) :
    optionSet (namesFor model policy unknown) policy.conformance expected
        (declaredFor model.sortedNames) =
      [optionSetRecord model.optionSetType expected,
        implementation none model.optionSetType (optionSetMembers model)] ++
        conformanceImpl policy.conformance model.optionSetType := rfl

theorem flatMap_displayItems_inherent (type : String) :
    (displayItems policy model unknown).flatMap (Item.membersFor none type) = [] := by
  unfold displayItems
  cases policy.display with
  | false => rfl
  | true => simp [ErrorTypes.display, displayImpl, membersFor_interface]

section

variable {strategy policy expected model unknown} {program : Program}

theorem IsModule.membersFor (h : IsModule program strategy policy expected model unknown)
    {interface : Option Path} {type : String}
    (hinterface : interface = none ∨ model.optionSetType ≠ type) :
    program.membersFor interface type =
      (if interface = none ∧ model.optionSetType = type then optionSetMembers model else []) ++
      (if interface = none ∧ model.errorType = type then
        errorMembers strategy policy model unknown else []) ++
      (displayItems policy model unknown).flatMap (Item.membersFor interface type) := by
  rw [Program.membersFor, h.flatMap_items fun _ _ _ _ => rfl]
  unfold itemsFor ErrorTypes.optionSet
  simp only [List.flatMap_append, List.flatMap_cons, List.flatMap_nil]
  rw [show (namesFor model policy unknown).optionSet = model.optionSetType from rfl,
    flatMap_conformanceImpl policy model hinterface, membersFor_inherent, membersFor_inherent]
  simp only [Item.membersFor, errorEnum, List.nil_append, List.append_nil]
  rfl

theorem IsModule.membersFor_errorType (h : IsModule program strategy policy expected model unknown) :
    program.membersFor none model.errorType = errorMembers strategy policy model unknown := by
  rw [h.membersFor (.inl rfl), flatMap_displayItems_inherent,
    if_neg fun hboth => errorType_ne_optionSetType model hboth.2.symm, if_pos ⟨rfl, rfl⟩,
    List.nil_append, List.append_nil]

theorem IsModule.membersFor_optionSetType
    (h : IsModule program strategy policy expected model unknown) :
    program.membersFor none model.optionSetType = optionSetMembers model := by
  rw [h.membersFor (.inl rfl), flatMap_displayItems_inherent, if_pos ⟨rfl, rfl⟩,
    if_neg fun hboth => errorType_ne_optionSetType model hboth.2, List.append_nil, List.append_nil]

end

theorem accessors_eq :
    accessors (namesFor model policy unknown) (declaredFor model.sortedNames) =
      [getter .everyone false " Wire identifier of the error" "error_type_name" .text
        (.select (.names ["self"]) [] (nameArms policy model unknown)),
       getter .everyone false " Declared error identifier, if the error is one the model declares"
        "error_type"
        (.path (.plain false [.mk "Option" (.angled [.type (.named model.optionSetType)])]))
        (.select (.names ["self"]) [] (optionArms model))] := by
  simp only [accessors, nameArms, optionArms, declaredArms, List.map_append, List.append_assoc]
  rfl

theorem mem_sortedNames {model : Model} {name : String} :
    name ∈ model.sortedNames ↔ name ∈ model.errorNames := List.mem_mergeSort

section

variable {strategy policy expected model unknown} {program : Program}

end

end ErrorModule

end WireErrors
