import WireErrors.Proofs.Collation
import WireErrors.Proofs.ErrorModule.Identifiers
import WireErrors.Proofs.ErrorModule.Order
import WireErrors.Proofs.ErrorModule.Variants

/-!
# Rows of a module

A module has one row for each declared error in its constants, its variants and the arms of its
functions. A row is read from the tree alone: the texts in it, and the members of types that it names.
The rows of a module are those of the sorted names, in their order (`inOrder_itemsFor`), which is
that of their bytes (`eq_sortedNames_iff`).
-/

namespace WireErrors

namespace Source

/-! ## Rows of a tree -/

/-- What is in one row of a table: the values of its literals, and the members of types. -/
structure Row where
  texts : List (Option String)
  members : List String
deriving DecidableEq, Repr

/-- The member of a type that a path of two names leads to. -/
def Route.member? (route : Route) : Option String :=
  route.path?.bind fun path =>
    match path.segments with
    | [_, member] => some member
    | _ => none

def Expr.member? : Expr → Option String
  | .path route => route.member?
  | _ => none

/-- The members that an expression names, in a call also those among the arguments. -/
def Expr.members : Expr → List String
  | .call function arguments => (function :: arguments).filterMap Expr.member?
  | value => value.member?.toList

def Pattern.member? : Pattern → Option String
  | .path route | .tuple route _ => route.member?
  | _ => none

def Expr.row (value : Expr) : Row := ⟨literalValues value.tokens, value.members⟩

def Arm.row : Arm → Row
  | .mk _ pattern _ body =>
    ⟨literalValues pattern.tokens ++ literalValues body.tokens,
      pattern.member?.toList ++ body.members⟩

/-- The rows of a statement: the arms of a choice, the elements of a list, a test with what is given
back where it holds, or else the statement itself. -/
def Statement.rows : Statement → List Row
  | .expr (.select _ _ arms) _ => arms.map Arm.row
  | .expr (.reference _ (.array elements)) _ => elements.map Expr.row
  | .expr (.conditional condition [.expr (.giveBack (some value)) _] .none) _ =>
    [⟨literalValues condition.tokens ++ literalValues value.tokens, value.members⟩]
  | .expr value _ => [value.row]
  | _ => []

def Function.rows (f : Function) : List Row := f.body.flatMap Statement.rows

/-- The rows of a function, if it has the given name. -/
def Member.rowsNamed (name : String) : Member → List Row
  | .function f => if f.name = name then f.rows else []
  | _ => []

def Member.constantRow? : Member → Option Row
  | .constant c => some ⟨literalValues (Member.constant c).tokens, [c.name]⟩
  | _ => none

def Variant.row (v : Variant) : Row := ⟨literalValues v.tokens, [v.name]⟩

/-- The rows of the variants of a type. -/
def Item.variantRows (type : String) : Item → List Row
  | .enumeration heading variants => if heading.name = type then variants.map Variant.row else []
  | _ => []

namespace Program

variable (program : Program)

def constantRows (type : String) : List Row :=
  (program.membersFor none type).filterMap Member.constantRow?

def variantRows (type : String) : List Row := program.items.flatMap (Item.variantRows type)

/-- The rows of the functions of a name that a type has, or a trait for it. -/
def functionRows (interface : Option Path) (type name : String) : List Row :=
  (program.membersFor interface type).flatMap (Member.rowsNamed name)

end Program

end Source

open Source

namespace ErrorModule

open ErrorTypes Decoder

/-! ## Rows of a module -/

/-- The tables of a module, with one row for each declared error in the order of the sorted names. -/
structure InOrder (program : Program) (policy : Policy) (model : Model) (unknown : String) :
    Prop where
  constants : program.constantRows model.optionSetType =
    model.sortedNames.map fun name => ⟨[some name], [constantName name]⟩
  /-- All constants in a list. -/
  all : program.functionRows none model.optionSetType "all" =
    model.sortedNames.map fun name => ⟨[], [constantName name]⟩
  variants : program.variantRows model.errorType =
    (model.sortedNames.map fun name =>
      ⟨[some (" The `" ++ name ++ "` error")], [variantName name]⟩) ++
      (policy.reserved.map fun variant =>
        ⟨[some " The request failed validation; carries the wire identifier"], [variant]⟩) ++
      [⟨[some " An error identifier the model does not declare"], [unknown]⟩]
  /-- The decode routine, which looks for validation errors first. -/
  decoded : program.functionRows none model.errorType "from_error_type" =
    (policy.reserved.map fun variant => ⟨[], [variant]⟩) ++
      (model.sortedNames.map fun name => ⟨[some name], [variantName name]⟩) ++ [⟨[], [unknown]⟩]
  /-- The wire identifiers of errors. -/
  names : program.functionRows none model.errorType "error_type_name" =
    (model.sortedNames.map fun name => ⟨[some name], [variantName name]⟩) ++
      (policy.reserved ++ [unknown]).map fun variant => ⟨[], [variant]⟩
  /-- The declared identifiers of errors. -/
  options : program.functionRows none model.errorType "error_type" =
    (model.sortedNames.map fun name => ⟨[], [variantName name, constantName name]⟩) ++ [⟨[], []⟩]
  displayed : policy.display = true →
    program.functionRows (some displayPath) model.errorType "fmt" =
      (model.sortedNames.map fun name => ⟨[some name], [variantName name]⟩) ++
        (policy.reserved ++ [unknown]).map fun variant =>
          ⟨[some (variant ++ ": \x7b\x7d")], [variant]⟩

/-! ## Single rows -/

theorem row_unitArm (d : Declared) {value : Expr} (hvalue : value.members = []) :
    (Arm.plain (unitPattern d.variant) value).row = ⟨literalValues value.tokens, [d.variant]⟩ := by
  simp only [Arm.row, literalValues_unitPattern, hvalue, List.nil_append, List.append_nil]
  rfl

theorem row_carrier (variant holder : String) {value : Expr} (hvalue : value.members = []) :
    (Arm.plain (carrier variant holder) value).row = ⟨literalValues value.tokens, [variant]⟩ := by
  simp only [Arm.row, literalValues_carrier, hvalue, List.nil_append, List.append_nil]
  rfl

theorem map_row_declaredArms (names : List String) {result : Declared → Expr} {row : Declared → Row}
    (h : ∀ d, (Arm.plain (unitPattern d.variant) (result d)).row = row d) :
    (declaredArms names result).map Arm.row =
      names.map fun name => row ⟨name, variantName name, constantName name⟩ := by
  rw [declaredArms, declaredFor, List.map_map, List.map_map]
  exact List.map_congr_left fun name _ => h _

/-! ## Functions -/

theorem rowsNamed_getter (visibility : Visibility) (constant : Bool)
    (documentation function : String) (result : TypeExpr) (body : Expr) (name : String) :
    (getter visibility constant documentation function result body).rowsNamed name =
      if function = name then (Statement.expr body false).rows else [] := by
  simp [getter, Member.rowsNamed, Function.rows]

section

variable (strategy : Strategy) (policy : Policy) (model : Model) (unknown : String)

theorem rows_lookup (names : List String) :
    (lookup strategy (casesFor names) unknown).flatMap Statement.rows =
      (names.map fun name => ⟨[some name], [variantName name]⟩) ++ [⟨[], [unknown]⟩] := by
  cases strategy with
  | matching =>
    have hcase : ∀ c : Case, (Arm.plain (.literal (Text.quote c.name)) (unitValue c.variant)).row =
        ⟨[some c.name], [c.variant]⟩ := by
      intro c
      have hpattern : literalValues (Pattern.literal (Text.quote c.name)).tokens = [some c.name] :=
        literalValues_quote c.name
      rw [Arm.row, hpattern]
      rfl
    have hother : (Arm.plain (.binding "other") (carrying unknown "other")).row = ⟨[], [unknown]⟩ :=
      rfl
    rw [lookup, List.flatMap_singleton, Statement.rows, List.map_append, List.map_map,
      List.map_singleton, hother, casesFor, List.map_map]
    exact congrArg (· ++ _) (List.map_congr_left fun name _ => hcase _)
  | chain =>
    have htest : ∀ c : Case, (test c).rows = [⟨[some c.name], [c.variant]⟩] := by
      intro c
      have hliteral : literalValues (Expr.binary .equal (.names ["error_type"])
          (.literal (Text.quote c.name))).tokens = [some c.name] := literalValues_quote c.name
      rw [test, Statement.rows, hliteral]
      rfl
    show ((casesFor names).map test ++
      [Statement.expr (carrying unknown "error_type") false]).flatMap Statement.rows = _
    rw [List.flatMap_append, List.flatMap_map, casesFor, List.flatMap_map, List.map_eq_flatMap]
    simp only [htest]
    rfl

theorem rows_body (names : List String) :
    (body strategy policy names unknown).flatMap Statement.rows =
      (policy.reserved.map fun variant => ⟨[], [variant]⟩) ++
        (names.map fun name => ⟨[some name], [variantName name]⟩) ++ [⟨[], [unknown]⟩] := by
  have hcheck : validationCheck.rows = [⟨[], [Policy.validationVariant]⟩] := rfl
  rw [body, List.flatMap_append, rows_lookup, Policy.reserved, List.append_assoc]
  cases policy.validation <;> simp [hcheck]

theorem rowsNamed_members (names : List String) (name : String)
    (hname : name ≠ "is_validation_error") :
    (members strategy policy (casesFor names) unknown).flatMap (Member.rowsNamed name) =
      if "from_error_type" = name then (body strategy policy names unknown).flatMap Statement.rows
      else [] := by
  have hhelper : validationHelper.rowsNamed name = [] := if_neg (Ne.symm hname)
  have hroutine : (routine (documentation strategy) (body strategy policy names unknown)).rowsNamed
      name = if "from_error_type" = name then
        (body strategy policy names unknown).flatMap Statement.rows else [] := rfl
  rw [members_eq]
  cases policy.validation <;> simp [hhelper, hroutine]

theorem rows_nameArms :
    (nameArms policy model unknown).map Arm.row =
      (model.sortedNames.map fun name => ⟨[some name], [variantName name]⟩) ++
        (policy.reserved ++ [unknown]).map fun variant => ⟨[], [variant]⟩ := by
  have hname : ∀ d : Declared, (Arm.plain (unitPattern d.variant)
      (.literal (Text.quote d.name))).row = ⟨[some d.name], [d.variant]⟩ := by
    intro d
    rw [row_unitArm d rfl, literalValues_quote]
  have hcarrier : ∀ variant, (Arm.plain (carrier variant "error_type")
      (.method (.names ["error_type"]) "as_str" [])).row = ⟨[], [variant]⟩ :=
    fun variant => row_carrier variant _ rfl
  rw [nameArms, List.map_append, List.map_append, map_row_declaredArms _ hname, validation_toList,
    List.append_assoc, List.map_append, List.map_map]
  simp only [Function.comp_def, hcarrier, List.map_singleton]

theorem rows_optionArms :
    (optionArms model).map Arm.row =
      (model.sortedNames.map fun name => ⟨[], [variantName name, constantName name]⟩) ++
        [⟨[], []⟩] := by
  have hoption : ∀ d : Declared, (Arm.plain (unitPattern d.variant) (.call (.names ["Some"])
      [.names [model.optionSetType, d.constant]])).row = ⟨[], [d.variant, d.constant]⟩ :=
    fun _ => rfl
  rw [optionArms, List.map_append, map_row_declaredArms _ hoption]
  rfl

theorem rows_displayArms :
    (displayArms policy model unknown).map Arm.row =
      (model.sortedNames.map fun name => ⟨[some name], [variantName name]⟩) ++
        (policy.reserved ++ [unknown]).map fun variant =>
          ⟨[some (variant ++ ": \x7b\x7d")], [variant]⟩ := by
  have hname : ∀ d : Declared, (Arm.plain (unitPattern d.variant)
      (writeText (.literal (Text.quote d.name)))).row = ⟨[some d.name], [d.variant]⟩ := by
    intro d
    rw [row_unitArm d rfl, literalValues_writeText]
  have hcarrier : ∀ variant holder, (Arm.plain (carrier variant holder)
      (writeLabelled variant holder)).row = ⟨[some (variant ++ ": \x7b\x7d")], [variant]⟩ := by
    intro variant holder
    rw [row_carrier variant holder rfl, literalValues_writeLabelled]
  rw [displayArms, List.map_append, List.map_append, map_row_declaredArms _ hname,
    validation_toList, List.append_assoc, List.map_append, List.map_map]
  simp only [Function.comp_def, hcarrier, List.map_singleton]

theorem rowsNamed_accessors (name : String) :
    (accessors (namesFor model policy unknown) (declaredFor model.sortedNames)).flatMap
        (Member.rowsNamed name) =
      (if "error_type_name" = name then (nameArms policy model unknown).map Arm.row else []) ++
        if "error_type" = name then (optionArms model).map Arm.row else [] := by
  rw [accessors_eq, List.flatMap_cons, List.flatMap_singleton, rowsNamed_getter, rowsNamed_getter]
  rfl

theorem rowsNamed_errorMembers (name : String) (hname : name ≠ "is_validation_error") :
    (errorMembers strategy policy model unknown).flatMap (Member.rowsNamed name) =
      (if "from_error_type" = name then
        (body strategy policy model.sortedNames unknown).flatMap Statement.rows else []) ++
      ((if "error_type_name" = name then (nameArms policy model unknown).map Arm.row else []) ++
        if "error_type" = name then (optionArms model).map Arm.row else []) := by
  rw [errorMembers, List.flatMap_append, rowsNamed_members strategy policy unknown _ name hname,
    rowsNamed_accessors]

/-! ## Tables -/

theorem filterMap_constantRow? :
    (optionSetMembers model).filterMap Member.constantRow? =
      model.sortedNames.map fun name => ⟨[some name], [constantName name]⟩ := by
  have hconstant : ∀ d : Declared,
      (constantDeclaration d).constantRow? = some ⟨[some d.name], [d.constant]⟩ := by
    intro d
    have hrow : (constantDeclaration d).constantRow? =
      some ⟨literalValues (constantDeclaration d).tokens, [d.constant]⟩ := rfl
    rw [hrow, literalValues_constantDeclaration]
  rw [optionSetMembers, List.filterMap_append, List.filterMap_map, declaredFor, List.filterMap_map,
    ← List.filterMap_eq_map]
  simp only [Function.comp_def, hconstant]
  exact List.append_nil _

theorem rowsNamed_optionSetMembers :
    (optionSetMembers model).flatMap (Member.rowsNamed "all") =
      model.sortedNames.map fun name => ⟨[], [constantName name]⟩ := by
  have hconstant : ∀ d : Declared, (constantDeclaration d).rowsNamed "all" = [] := fun _ => rfl
  have hall : (Member.function (allFunction model.sortedNames)).rowsNamed "all" =
      (declaredFor model.sortedNames).map fun d => ⟨[], [d.constant]⟩ := by
    have hrows : (Member.function (allFunction model.sortedNames)).rowsNamed "all" =
        ((declaredFor model.sortedNames).map fun d => .names ["Self", d.constant]).map Expr.row ++
          [] := rfl
    rw [hrows, List.append_nil, List.map_map]
    rfl
  rw [optionSetMembers, List.flatMap_append, List.flatMap_map, List.flatMap_cons,
    List.flatMap_singleton, rowsNamed_getter, if_neg (by decide), hall, declaredFor, List.map_map]
  simp [hconstant, Function.comp_def]

theorem rows_errorVariants :
    (errorVariants policy model unknown).map Variant.row =
      (model.sortedNames.map fun name =>
        ⟨[some (" The `" ++ name ++ "` error")], [variantName name]⟩) ++
        (policy.reserved.map fun variant =>
          ⟨[some " The request failed validation; carries the wire identifier"], [variant]⟩) ++
        [⟨[some " An error identifier the model does not declare"], [unknown]⟩] := by
  have hdeclared : ∀ d : Declared, (declaredVariant d).row =
      ⟨[some (" The `" ++ d.name ++ "` error")], [d.variant]⟩ := by
    intro d
    rw [Variant.row, literalValues_declaredVariant]
    rfl
  have hvalidation : ∀ variant, (carryingVariant
      " The request failed validation; carries the wire identifier" variant).row =
        ⟨[some " The request failed validation; carries the wire identifier"], [variant]⟩ :=
    fun _ => rfl
  have hunknown : (carryingVariant " An error identifier the model does not declare" unknown).row =
      ⟨[some " An error identifier the model does not declare"], [unknown]⟩ := rfl
  rw [errorVariants, List.map_append, List.map_append, validation_toList, List.map_map,
    List.map_map, List.map_singleton, hunknown, declaredFor, List.map_map]
  simp only [Function.comp_def, hdeclared, hvalidation]

variable (expected : String)

theorem isModule_itemsFor : IsModule (.ofItems (itemsFor strategy policy expected model unknown))
    strategy policy expected model unknown :=
  ⟨[], rfl, nofun⟩

theorem variantRows_itemsFor :
    (Program.ofItems (itemsFor strategy policy expected model unknown)).variantRows model.errorType =
      (errorVariants policy model unknown).map Variant.row := by
  have hset : (ErrorTypes.optionSet (namesFor model policy unknown) policy.conformance expected
      (declaredFor model.sortedNames)).flatMap (Item.variantRows model.errorType) = [] := by
    rw [optionSet_eq]
    cases policy.conformance <;> rfl
  have hdisplay : (displayItems policy model unknown).flatMap
      (Item.variantRows model.errorType) = [] := by
    unfold displayItems
    cases policy.display <;> rfl
  have henum : (errorEnum (namesFor model policy unknown) policy.serializable
      (declaredFor model.sortedNames)).variantRows model.errorType =
        (errorVariants policy model unknown).map Variant.row := by
    rw [errorEnum_eq]
    exact if_pos rfl
  show (itemsFor strategy policy expected model unknown).flatMap _ = _
  rw [itemsFor, List.flatMap_append, List.flatMap_append, hset, hdisplay, List.flatMap_cons, henum]
  exact (List.append_nil _).trans (List.append_nil _)

theorem rowsNamed_display (hdisplay : policy.display = true) :
    (Program.ofItems (itemsFor strategy policy expected model unknown)).functionRows (some displayPath)
        model.errorType "fmt" = (displayArms policy model unknown).map Arm.row := by
  have hitems : displayItems policy model unknown =
      [displayImpl model.errorType (.select (.names ["self"]) [] (displayArms policy model unknown)),
        implementation (some (.names ["std", "error", "Error"])) model.errorType []] := by
    rw [displayItems, if_pos hdisplay, display_eq]
  have hrows : ∀ value, ((displayImpl model.errorType value).membersFor (some displayPath)
      model.errorType).flatMap (Member.rowsNamed "fmt") = (Statement.expr value false).rows := by
    intro value
    rw [displayImpl, membersFor_interface, if_pos ⟨rfl, rfl⟩]
    simp [Member.rowsNamed, Function.rows]
  have hmodule := isModule_itemsFor strategy policy model unknown expected
  rw [Program.functionRows, hmodule.membersFor
    (.inr (Ne.symm (errorType_ne_optionSetType model))), if_neg (by simp), if_neg (by simp), hitems,
    List.flatMap_cons, List.flatMap_singleton, membersFor_interface, List.nil_append,
    List.nil_append, List.flatMap_append, hrows, ite_self]
  exact List.append_nil _

/-- **The rows of a module are in the order of the sorted names.** -/
theorem inOrder_itemsFor : InOrder (.ofItems (itemsFor strategy policy expected model unknown))
    policy model unknown where
  constants := by
    rw [Program.constantRows, (isModule_itemsFor ..).membersFor_optionSetType, filterMap_constantRow?]
  all := by
    rw [Program.functionRows, (isModule_itemsFor ..).membersFor_optionSetType, rowsNamed_optionSetMembers]
  variants := by
    rw [variantRows_itemsFor, rows_errorVariants]
  decoded := by
    rw [Program.functionRows, (isModule_itemsFor ..).membersFor_errorType, rowsNamed_errorMembers _ _ _ _ _ (by decide),
      if_pos rfl, if_neg (by decide), if_neg (by decide), rows_body]
    exact List.append_nil _
  names := by
    rw [Program.functionRows, (isModule_itemsFor ..).membersFor_errorType, rowsNamed_errorMembers _ _ _ _ _ (by decide),
      if_neg (by decide), if_pos rfl, if_neg (by decide), rows_nameArms]
    exact List.append_nil _
  options := by
    rw [Program.functionRows, (isModule_itemsFor ..).membersFor_errorType, rowsNamed_errorMembers _ _ _ _ _ (by decide),
      if_neg (by decide), if_neg (by decide), if_pos rfl, rows_optionArms]
    rfl
  displayed hdisplay := by
    rw [rowsNamed_display strategy policy model unknown expected hdisplay, rows_displayArms]

end

/-! ## Collation -/

theorem eq_sortedNames_iff {model : Model} {names : List String} :
    names = model.sortedNames ↔ names.Perm model.errorNames ∧
      names.IsChain fun first second => Text.bytes first ≤ Text.bytes second := by
  have htrans : IsTrans String (· ≤ ·) := ⟨fun _ _ _ => String.le_trans⟩
  simp only [Text.bytes_le_iff]
  rw [List.isChain_iff_pairwise]
  constructor
  · rintro rfl
    exact ⟨model.sortedNames_perm, model.pairwise_sortedNames⟩
  · rintro ⟨hperm, hsorted⟩
    exact (hperm.trans model.sortedNames_perm.symm).eq_of_pairwise
      (fun _ _ _ _ => String.le_antisymm) hsorted model.pairwise_sortedNames

/-- A module is emitted around what its delegate emits for the sorted names. With a decode routine in
this place, its rows are in order. -/
theorem exists_inOrder_of_emitted {delegate : Delegate} {model : Model} {unknown : String}
    (h : (emit delegate model unknown).result = .ok ()) :
    ∃ imports front back,
      (emit delegate model unknown).blocks =
        imports ++ (front ++ (delegate.emit model.sortedNames unknown).blocks ++ back) ∧
      Imports delegate.policy.conformance imports ∧
      ∀ (strategy : Strategy) (target : String), ∃ file,
        File.read (Draft.contents ⟨front ++ (Decoder.emit strategy target delegate.policy
          model.sortedNames unknown).blocks ++ back⟩) = .ok file ∧
        InOrder (.ofItems file.items) delegate.policy model unknown := by
  obtain ⟨imports, hstaged, hblocks⟩ := of_emit_eq_ok h
  have hsplit : ∃ front back, ∀ routine,
      blocksWith delegate model unknown [] routine = front ++ routine ++ back :=
    ⟨_, _, fun routine => List.append_assoc ..⟩
  obtain ⟨front, back, hsplit⟩ := hsplit
  -- what stands around the blocks of the delegate does not depend on them
  rw [blocksWith_eq, hsplit] at hblocks
  refine ⟨imports, front, back, hblocks, hstaged.imports_emitted, fun strategy target => ?_⟩
  have hroutine : (Decoder.emit strategy target delegate.policy model.sortedNames unknown).result =
      .ok () := by
    rw [Decoder.result_emit_of_accepted strategy target
      (checkNames_eq_ok_iff.mpr hstaged.accepted), if_pos (isBare_of_isSpelled hstaged.unknown_spelled)]
  rw [(Decoder.of_emit_eq_ok hroutine).2, ← hsplit]
  exact ⟨_, read_blocksWith strategy hstaged.named, inOrder_itemsFor ..⟩

/-- **Collation is by bytes.** The sorted names are the only arrangement of the declared ones, repeated
ones included, in which the bytes of no name are less than those of the one before it. This is the
order of code points as well. Every module that is emitted has its constants, its variants and the arms
of its functions in this order; in one of another delegate, this holds of all that is not its own. -/
theorem emit_collated :
    (∀ (model : Model) (names : List String), names = model.sortedNames ↔
      names.Perm model.errorNames ∧
      names.IsChain fun first second => Text.bytes first ≤ Text.bytes second) ∧
    (∀ first second, Text.bytes first < Text.bytes second ↔
      Text.codePoints first < Text.codePoints second) ∧
    (∀ (strategy : Strategy) (target : String) (policy : Policy) (model : Model) (unknown : String),
      (emit (strategy.delegate target policy) model unknown).result = .ok () →
      ∃ imports blocks file,
        (emit (strategy.delegate target policy) model unknown).blocks = imports ++ blocks ∧
        Imports policy.conformance imports ∧
        File.read (Draft.contents ⟨blocks⟩) = .ok file ∧
        InOrder (.ofItems file.items) policy model unknown) ∧
    ∀ (delegate : Delegate) (model : Model) (unknown : String),
      (emit delegate model unknown).result = .ok () →
      ∃ imports front back,
        (emit delegate model unknown).blocks =
          imports ++ (front ++ (delegate.emit model.sortedNames unknown).blocks ++ back) ∧
        Imports delegate.policy.conformance imports ∧
        ∀ (strategy : Strategy) (target : String), ∃ file,
          File.read (Draft.contents ⟨front ++ (Decoder.emit strategy target delegate.policy
            model.sortedNames unknown).blocks ++ back⟩) = .ok file ∧
          InOrder (.ofItems file.items) delegate.policy model unknown := by
  refine ⟨fun model names => eq_sortedNames_iff,
    fun first second => Text.bytes_lt_iff.trans Text.codePoints_lt_iff.symm,
    fun strategy target policy model unknown h => ?_, fun delegate model unknown =>
      exists_inOrder_of_emitted⟩
  obtain ⟨imports, front, back, hblocks, himports, hread⟩ := exists_inOrder_of_emitted h
  obtain ⟨file, hfile, horder⟩ := hread strategy target
  exact ⟨imports, _, file, hblocks, himports, hfile, horder⟩

/-- Capital letters come before small ones, and letters of two bytes come last. -/
theorem emit_collated_capitals :
    Model.sortedNames ⟨"Queue", ["étude", "zeta", "Throttling"]⟩ = ["Throttling", "zeta", "étude"] ∧
    ∃ blocks file,
      (emit (Strategy.matching.delegate "rust" (.plain .display))
        ⟨"Queue", ["étude", "zeta", "Throttling"]⟩ "UnknownError").blocks = blocks ∧
      File.read (Draft.contents ⟨blocks⟩) = .ok file ∧
      (Program.ofItems file.items).functionRows none "QueueErrorTypes" "all" =
        [⟨[], ["THROTTLING"]⟩, ⟨[], ["ZETA"]⟩, ⟨[], ["ÉTUDE"]⟩] := by
  have hsorted : Model.sortedNames ⟨"Queue", ["étude", "zeta", "Throttling"]⟩ =
      ["Throttling", "zeta", "étude"] := by
    refine ((emit_collated.1 ⟨"Queue", ["étude", "zeta", "Throttling"]⟩ _).mpr ⟨?_, ?_⟩).symm
    · decide
    · decide +kernel
  have hresult : (emit (Strategy.matching.delegate "rust" (.plain .display))
      ⟨"Queue", ["étude", "zeta", "Throttling"]⟩ "UnknownError").result = .ok () := by
    rw [result_emit]
    unfold stage
    dsimp only
    rw [hsorted]
    rfl
  obtain ⟨imports, blocks, file, hblocks, rfl, hfile, horder⟩ :=
    emit_collated.2.2.1 _ _ _ _ _ hresult
  refine ⟨hsorted, blocks, file, hblocks, hfile, ?_⟩
  have hall := horder.all
  rw [hsorted] at hall
  exact hall.trans rfl

end ErrorModule

end WireErrors
