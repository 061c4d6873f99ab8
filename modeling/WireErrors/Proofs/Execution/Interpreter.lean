import WireErrors.Proofs.Execution.TypeWords
import WireErrors.Source.Identity

/-!
# Running source trees

An interpreter for the part of the language that decode routines and error modules are made of.
Expressions have a value (`Expr.value?`) and conditions, which are the expressions of type `bool`,
have a truth value (`Expr.holds?`). A path to a name of a type stands for the variant of that name;
only where the type has none does it stand for a function in a condition and for a constant in any
other place. Everything is `none` outside of that part of the language and where a name stands for
nothing that fits, and nothing is run in a program in which names are taken twice: by two variants of
a type, by two members of an item, by an import and a type or the start of a path, or by a type and
the start of an import (`Program.separates`).
-/

namespace WireErrors.Source

/-! ## Names -/

/-- When names of variants, functions and constants are the same. -/
inductive Comparison where
  /-- If they are spelled alike. -/
  | spellings
  /-- If they are the same identifiers, as in the language itself. -/
  | identifiers
deriving DecidableEq

namespace Comparison

/-- What names are compared by. -/
def key : Comparison → String → String
  | spellings, name => name
  | identifiers, name => identity name

/-- Whether some names are none of some words. -/
def apart (comparison : Comparison) (names words : List String) : Bool :=
  names.all fun name => !(words.map comparison.key).contains (comparison.key name)

end Comparison

/-! ## Values -/

/-- References are left out, for nothing that is run here changes what is referred to. -/
inductive Value where
  | text (content : String)
  | variant (type name : String) (fields : List Value)
  | record (type : String) (fields : List (String × Value))
  | list (elements : List Value)
  /-- A formatter to which nothing has been written yet. -/
  | formatter
  /-- The result of writing a text to the formatter. -/
  | written (content : String)

abbrev Variables := List (String × Value)

namespace Value

def field? : Value → String → Option Value
  | .record _ fields, name => fields.lookup name
  | _, _ => none

def method? : Value → String → List Value → Option Value
  | .text content, "to_string", [] => some (.text content)
  | .text content, "as_str", [] => some (.text content)
  | .formatter, "write_str", [.text content] => some (.written content)
  | _, _, _ => none

/-- The truth value of a method of a text. -/
def test? : Value → String → List Value → Option Bool
  | .text content, "starts_with", [.text start] =>
    some (start.toList.isPrefixOf content.toList)
  | _, _, _ => none

end Value

/-! ## Scopes -/

/-- Whether a variant has the given number of fields without names. -/
def Variant.takes (v : Variant) (count : Nat) : Bool :=
  match v.fields with
  | .none => count == 0
  | .positional fields => count == fields.length
  | .named _ => false

/-- What the names in a piece of code stand for, apart from its variables. -/
structure Scope where
  /-- The type that the code belongs to. -/
  self : String
  comparison : Comparison
  /-- The variant of a type with a name. -/
  variantNamed? : String → String → Option Variant
  constant? : String → String → Option Value
  /-- The truth value that a function of a type has for some arguments. -/
  test? : String → String → List Value → Option Bool

namespace Scope

variable (scope : Scope)

def type (word : String) : String := if word = "Self" then scope.self else word

/-- Whether a name of a type stands for a variant with the given number of fields. -/
def constructs (type name : String) (count : Nat) : Bool :=
  (scope.variantNamed? type name).any (·.takes count)

def variant? (type name : String) (fields : List Value) : Option Value :=
  if scope.constructs type name fields.length then some (.variant type name fields) else none

/-- The value of a path: a variable, a variant without fields, or a constant. -/
def value? (locals : Variables) (route : Route) : Option Value :=
  match route.path? with
  | some ⟨false, [name]⟩ =>
    if name = "None" then some (.variant "Option" "None" []) else locals.lookup name
  | some ⟨false, [word, name]⟩ =>
    if (scope.variantNamed? (scope.type word) name).isSome then
      scope.variant? (scope.type word) name []
    else scope.constant? (scope.type word) name
  | _ => none

/-- The value of a call to what a path names, which builds a variant. -/
def built? (function : Expr) (fields : List Value) : Option Value :=
  match function with
  | .path route =>
    match route.path?, fields with
    | some ⟨false, ["Some"]⟩, [_] => some (.variant "Option" "Some" fields)
    | some ⟨false, [word, name]⟩, _ => scope.variant? (scope.type word) name fields
    | _, _ => none
  | _ => none

/-- Whether the path in a pattern for so many fields stands for the variant of a type with a name. -/
def denotes? (route : Route) (count : Nat) (type name : String) : Option Bool :=
  match route.path? with
  | some ⟨false, [word, expected]⟩ =>
    if scope.type word = type ∧ scope.constructs type expected count then
      some (scope.comparison.key expected == scope.comparison.key name)
    else none
  | _ => none

/-- The name of the type that a path stands for. -/
def typeOf? (route : Route) : Option String :=
  match route.path? with
  | some ⟨false, [word]⟩ => some (scope.type word)
  | _ => none

end Scope

/-! ## Patterns -/

mutual

/-- The variables that a pattern binds, or `some none` where the value does not match. -/
def Pattern.bindings? (scope : Scope) : Pattern → Value → Option (Option Variables)
  | .wildcard, _ => some (some [])
  | .binding name, value => some (some [(name, value)])
  | .literal spelling, .text text =>
    (Text.literalValue? spelling).map fun expected => if expected = text then some [] else none
  | .path route, .variant type name fields =>
    match scope.denotes? route 0 type name with
    | some true => Pattern.listBindings? scope [] fields
    | some false => some none
    | none => none
  | .tuple route patterns, .variant type name fields =>
    match scope.denotes? route patterns.length type name with
    | some true => Pattern.listBindings? scope patterns fields
    | some false => some none
    | none => none
  | _, _ => none

def Pattern.listBindings? (scope : Scope) : List Pattern → List Value → Option (Option Variables)
  | [], [] => some (some [])
  | pattern :: patterns, value :: values =>
    match pattern.bindings? scope value, Pattern.listBindings? scope patterns values with
    | some (some first), some (some others) => some (some (first ++ others))
    | some none, some _ => some none
    | some _, some none => some none
    | _, _ => none
  | _, _ => none

end

/-! ## Macros -/

/-- A text with texts in place of the pairs of braces in it; a doubled brace stands for one. -/
def format? : List Char → List String → Option (List Char)
  | [], [] => some []
  | '{' :: '{' :: rest, values => (format? rest values).map ('{' :: ·)
  | '}' :: '}' :: rest, values => (format? rest values).map ('}' :: ·)
  | '{' :: '}' :: rest, value :: values => (format? rest values).map (value.toList ++ ·)
  | c :: rest, values =>
    if c = '{' ∨ c = '}' then none else (format? rest values).map (c :: ·)
  | _, _ => none

/-- The texts of string literals with `|` between them. -/
def alternativeTexts? : List Token → Option (List String)
  | [.literal spelling] => (Text.literalValue? spelling).map fun text => [text]
  | .literal spelling :: .mark '|' _ :: rest =>
    match Text.literalValue? spelling, alternativeTexts? rest with
    | some text, some texts => some (text :: texts)
    | _, _ => none
  | _ => none

/-- The truth value of `matches!` for a variable and string literals. -/
def matches? (locals : Variables) : List Token → Option Bool
  | .ident name :: .mark ',' _ :: alternatives =>
    match locals.lookup name, alternativeTexts? alternatives with
    | some (.text text), some texts => some (texts.contains text)
    | _, _ => none
  | _ => none

/-- The result of `write!` for a formatter, a format and a variable. -/
def write? (locals : Variables) : List Token → Option Value
  | [.ident target, .mark ',' _, .literal spelling, .mark ',' _, .ident name] =>
    match locals.lookup target, Text.literalValue? spelling, locals.lookup name with
    | some .formatter, some format, some (.text text) =>
      (format? format.toList [text]).map fun chars => .written (String.ofList chars)
    | _, _, _ => none
  | _ => none

/-! ## Expressions -/

mutual

/-- The value of an expression that is no condition. -/
def Expr.value? (scope : Scope) (locals : Variables) : Expr → Option Value
  | .path route => scope.value? locals route
  | .literal spelling => (Text.literalValue? spelling).map .text
  | .reference false target => target.value? scope locals
  | .array elements => (Expr.listValues? scope locals elements).map .list
  | .record route fields none =>
    match scope.typeOf? route, FieldValue.listValues? scope locals fields with
    | some type, some values => some (.record type values)
    | _, _ => none
  | .field receiver name => (receiver.value? scope locals).bind fun value => value.field? name
  | .call function arguments =>
    (Expr.listValues? scope locals arguments).bind (scope.built? function)
  | .method receiver name arguments =>
    match receiver.value? scope locals, Expr.listValues? scope locals arguments with
    | some value, some values => value.method? name values
    | _, _ => none
  | .invocation ⟨false, ["write"]⟩ .paren body => write? locals body
  | .select subject [] arms =>
    (subject.value? scope locals).bind fun value => Arm.firstValue? scope locals value arms
  | _ => none

def Expr.listValues? (scope : Scope) (locals : Variables) : List Expr → Option (List Value)
  | [] => some []
  | value :: rest =>
    match value.value? scope locals, Expr.listValues? scope locals rest with
    | some first, some values => some (first :: values)
    | _, _ => none

def FieldValue.listValues? (scope : Scope) (locals : Variables) :
    List FieldValue → Option (List (String × Value))
  | [] => some []
  | .mk [] name (some value) :: rest =>
    match value.value? scope locals, FieldValue.listValues? scope locals rest with
    | some first, some values => some ((name, first) :: values)
    | _, _ => none
  | _ => none

/-- The value of the first arm that a value matches. -/
def Arm.firstValue? (scope : Scope) (locals : Variables) (value : Value) :
    List Arm → Option Value
  | .mk [] pattern none body :: rest =>
    match pattern.bindings? scope value with
    | some (some bound) => body.value? scope (bound ++ locals)
    | some none => Arm.firstValue? scope locals value rest
    | none => none
  | _ => none

end

/-- The truth value of a condition. -/
def Expr.holds? (scope : Scope) (locals : Variables) : Expr → Option Bool
  | .binary .or left right =>
    match left.holds? scope locals with
    | some true => some true
    | some false => right.holds? scope locals
    | none => none
  | .binary .equal left right =>
    match left.value? scope locals, right.value? scope locals with
    | some (.text a), some (.text b) => some (a == b)
    | _, _ => none
  | .method receiver name arguments =>
    match receiver.value? scope locals, Expr.listValues? scope locals arguments with
    | some value, some values => value.test? name values
    | _, _ => none
  | .invocation ⟨false, ["matches"]⟩ .paren body => matches? locals body
  | .call (.path route) arguments =>
    match route.path?, Expr.listValues? scope locals arguments with
    | some ⟨false, [word, name]⟩, some values => scope.test? (scope.type word) name values
    | _, _ => none
  | _ => none

/-! ## Statements -/

mutual

/-- The value with which a statement leaves the function, or `some none` where it does not. -/
def Statement.leaves? (scope : Scope) (locals : Variables) : Statement → Option (Option Value)
  | .expr (.giveBack (some value)) _ => (value.value? scope locals).map some
  | .expr (.conditional condition body .none) _ =>
    match condition.holds? scope locals with
    | some true => Statement.listLeaves? scope locals body
    | some false => some none
    | none => none
  | _ => none

def Statement.listLeaves? (scope : Scope) (locals : Variables) :
    List Statement → Option (Option Value)
  | [] => some none
  | statement :: rest =>
    match statement.leaves? scope locals with
    | some none => Statement.listLeaves? scope locals rest
    | result => result

end

/-- The value of the body of a function: the one with which a statement leaves it, or that of the
expression at its end. -/
def Statement.bodyValue? (scope : Scope) (locals : Variables) : List Statement → Option Value
  | [] => none
  | [.expr value false] => value.value? scope locals
  | statement :: rest =>
    match statement.leaves? scope locals with
    | some none => Statement.bodyValue? scope locals rest
    | some (some value) => some value
    | none => none

/-! ## Functions and constants -/

/-- The variables for the arguments of a function. -/
def Parameter.bindAll? : List Parameter → List Value → Option Variables
  | [], [] => some []
  | .receiver .. :: parameters, value :: values =>
    (Parameter.bindAll? parameters values).map (("self", value) :: ·)
  | .typed _ (.binding name) _ :: parameters, value :: values =>
    (Parameter.bindAll? parameters values).map ((name, value) :: ·)
  | _, _ => none

def Function.value? (scope : Scope) (f : Function) (arguments : List Value) : Option Value :=
  (Parameter.bindAll? f.parameters arguments).bind fun locals =>
    Statement.bodyValue? scope locals f.body

/-- The truth value of a function that consists of a condition. -/
def Function.holds? (scope : Scope) (f : Function) (arguments : List Value) : Option Bool :=
  (Parameter.bindAll? f.parameters arguments).bind fun locals =>
    match f.body with
    | [.expr condition false] => condition.holds? scope locals
    | _ => none

def TypeExpr.path? : TypeExpr → Option Path
  | .path route => route.path?
  | _ => none

/-- The members that an item gives a type, or those of a trait for the type. -/
def Item.membersFor (interface : Option Path) (type : String) : Item → List Member
  | .implementation _ _ _ _ false implemented implementer members =>
    if implemented.bind TypeExpr.path? = interface ∧ implementer.path? = some ⟨false, [type]⟩ then
      members
    else []
  | _ => []

def Member.functionNamed? (comparison : Comparison) (name : String) : Member → Option Function
  | .function f => if comparison.key f.name = comparison.key name then some f else none
  | _ => none

def Member.constantNamed? (comparison : Comparison) (name : String) : Member → Option Constant
  | .constant c => if comparison.key c.name = comparison.key name then some c else none
  | _ => none

/-- The variant with a name that an item gives a type. -/
def Item.variantNamed? (comparison : Comparison) (type name : String) : Item → Option Variant
  | .enumeration heading variants =>
    if heading.name = type then
      variants.find? fun v => comparison.key v.name == comparison.key name
    else none
  | _ => none

def Member.name? : Member → Option String
  | .function f => some f.name
  | .constant c => some c.name
  | _ => none

/-- Whether the variants or members of an item have different names. -/
def Item.separates (comparison : Comparison) : Item → Bool
  | .enumeration _ variants => decide (variants.map fun v => comparison.key v.name).Nodup
  | .implementation _ _ _ _ _ _ _ members =>
    decide ((members.filterMap Member.name?).map comparison.key).Nodup
  | _ => true

/-! ## Programs -/

/-- Items, and when the names in them are the same. -/
structure Program where
  comparison : Comparison
  items : List Item

namespace Program

variable (program : Program)

/-- Items with the names of the language. -/
def ofItems (items : List Item) : Program := ⟨.identifiers, items⟩

/-- Whether names that have to differ do, in each item and between imports and the other items. -/
def separates : Bool :=
  program.items.all (Item.separates program.comparison) &&
    (program.comparison.apart (program.items.filterMap Item.imported?)
        (typeWords program.items ++ pathRoots program.items) &&
      program.comparison.apart (program.items.filterMap Item.importRoot?)
        (program.items.filterMap Item.definedType?))

/-- The members of a type, or those of a trait for it. -/
def membersFor (interface : Option Path) (type : String) : List Member :=
  program.items.flatMap (Item.membersFor interface type)

def variantNamed? (type name : String) : Option Variant :=
  program.items.findSome? (Item.variantNamed? program.comparison type name)

/-- The function of a type, or of a trait for it, with a name. -/
def functionNamed? (interface : Option Path) (type name : String) : Option Function :=
  (program.membersFor interface type).findSome? (Member.functionNamed? program.comparison name)

/-- The scope of code that neither reads constants nor calls functions. -/
def plainScope (type : String) : Scope where
  self := type
  comparison := program.comparison
  variantNamed? := program.variantNamed?
  constant? _ _ := none
  test? _ _ _ := none

def constant? (type name : String) : Option Value :=
  ((program.membersFor none type).findSome?
    (Member.constantNamed? program.comparison name)).bind fun c =>
      c.value.value? (program.plainScope type) []

/-- The truth value of a call of a function by its path, which a variant of its name stands before. -/
def test? (type name : String) (arguments : List Value) : Option Bool :=
  if (program.variantNamed? type name).isSome then none
  else (program.functionNamed? none type name).bind fun f =>
    f.holds? (program.plainScope type) arguments

def scope (type : String) : Scope :=
  { program.plainScope type with constant? := program.constant?, test? := program.test? }

/-- The value that a function of a type, or of a trait for it, has for some arguments; this is what a
call of a method gives. -/
def run? (interface : Option Path) (type name : String) (arguments : List Value) : Option Value :=
  if program.separates then
    (program.functionNamed? interface type name).bind fun f =>
      f.value? (program.scope type) arguments
  else none

/-- The value of a call of a function by its path, which a variant of its name stands before. -/
def call? (type name : String) (arguments : List Value) : Option Value :=
  if (program.variantNamed? type name).isSome then none
  else program.run? none type name arguments

end Program

end WireErrors.Source
