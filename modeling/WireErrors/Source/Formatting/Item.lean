import WireErrors.Source.Tree.Item
import WireErrors.Source.Formatting.Expression

/-!
# Formatting items and files

The layout of items in the customary style of Rust, and `File.format?`, the text of a whole file.
Some of what can be read has no layout, and then neither has the file.
-/

namespace WireErrors.Source

open Layout

/-! ## Items with a body -/

/-- The inside of braces after a heading: a line for each part. -/
def braceBox (heading parts : Layout) : Layout :=
  group indent (heading ++ word "\x7b" ++ shiftLast (-indent) (hardBreakIfMore ++ parts)) ++
    word "\x7d" ++ hardBreak

/-- A type after an equals sign. -/
def assignedType (type : TypeExpr) : Layout := word "= " ++ noBreak ++ fill (-indent) type.layout

/-! ## Functions, constants and aliases -/

def Parameter.layout : Parameter → Layout
  | .receiver attributes reference mutable type =>
    outerLayout attributes ++ (match reference with
      | some (some name) => word ("&'" ++ name ++ " ")
      | some none => word "&"
      | none => []) ++
      wordIf? mutable "mut " ++ word "self" ++
      (match type with | some type => word ": " ++ type.layout | none => [])
  | .typed attributes pattern type =>
    outerLayout attributes ++ pattern.layout ++ word ": " ++ type.layout
  | .further attributes pattern =>
    outerLayout attributes ++
      (match pattern with | some pattern => pattern.layout ++ word ": " | none => []) ++ word "..."

/-- Parameters with the comma after each of them; dots have none. -/
def Parameter.listLayout : List Parameter → Layout
  | [] => []
  | [.further attributes pattern] => (Parameter.further attributes pattern).layout ++ softBreak
  | [parameter] => parameter.layout ++ comma true 0
  | parameter :: rest => parameter.layout ++ comma false 0 ++ Parameter.listLayout rest

/-- A function up to its conditions, without its attributes. -/
def Signature.layout (s : Signature) : Layout :=
  s.visibility.layout ++ wordIf? s.replaceable "default " ++ wordIf? s.constant "const " ++
    wordIf? s.deferred "async " ++ wordIf? s.unchecked "unsafe " ++ s.convention.layout ++
    word ("fn " ++ s.name) ++ s.generics.parameterLayout ++ word "(" ++ noBreak ++
    group 0 (shiftLast (-indent) (softBreak ++ Parameter.listLayout s.parameters)) ++
    word ")" ++ group (-indent) (TypeExpr.resultLayout s.result)

def Function.layout (f : Function) : Layout :=
  outerLayout f.attributes ++
    braceBox (f.toSignature.layout ++ f.generics.beforeBody)
      (innerLayout f.attributes ++ Statement.listLayout f.body)

/-- A constant or static variable with some words in front of its name. -/
def Constant.layoutWith (words : String) (c : Constant) : Layout :=
  outerLayout c.attributes ++
    group 0 (c.visibility.layout ++ wordIf? c.replaceable "default " ++
      word (words ++ c.name ++ ": ") ++ c.type.layout ++ word " = " ++ noBreak ++
      c.value.layout .inner .alone ++ word ";") ++ hardBreak

def Constant.layout (c : Constant) : Layout := c.layoutWith "const "

/-- Another name for a type; conditions stand in front of the type in an item and after it in a
member. -/
def Alias.layout (isMember : Bool) (a : Alias) : Layout :=
  outerLayout a.attributes ++
    group indent (a.visibility.layout ++ wordIf? a.replaceable "default " ++
      word ("type " ++ a.name) ++ a.generics.parameterLayout ++
      (if isMember then word " " ++ assignedType a.type ++ a.generics.inLine true
        else a.generics.inLine false ++ assignedType a.type ++ word ";")) ++ hardBreak

def Invocation.layout (i : Invocation) : Layout :=
  outerLayout i.attributes ++
    (match i.definition? with
      | some name => definitionLayout name i.body
      | none => invocationLayout i.path i.name i.delimiter i.body (i.delimiter ≠ .brace)) ++
    hardBreak

/-- The start of an item, from a word for its kind on, without attributes and conditions. -/
def Heading.layout (heading : Heading) (words : String) : Layout :=
  heading.visibility.layout ++ word (words ++ heading.name) ++ heading.generics.parameterLayout

def Member.layout : Member → Layout
  | .function f => f.layout
  | .constant c => c.layout
  | .alias a => a.layout true
  | .invocation i => i.layout
  | .functionDeclaration s =>
    outerLayout s.attributes ++ group indent (s.layout ++ s.generics.beforeSemicolon) ++ hardBreak
  | .constantDeclaration attributes name type =>
    outerLayout attributes ++
      group 0 (word ("const " ++ name ++ ": ") ++ type.layout ++ word ";") ++ hardBreak
  | .typeDeclaration attributes name generics bounds standard =>
    outerLayout attributes ++
      group indent (word ("type " ++ name) ++ generics.parameterLayout ++
        boundsLayout (Bound.listLayout bounds) ++
        (match standard with | some type => word " " ++ assignedType type | none => []) ++
        generics.inLine true) ++ hardBreak
  | .staticDeclaration attributes visibility mutable name type =>
    outerLayout attributes ++
      group 0 (visibility.layout ++ word "static " ++ wordIf? mutable "mut " ++
        word (name ++ ": ") ++ type.layout ++ word ";") ++ hardBreak
  | .foreignType heading =>
    outerLayout heading.attributes ++ group 0 (heading.layout "type " ++ word ";") ++ hardBreak
  | .unformatted _ => missing

/-! ## Types with fields -/

def Field.layout (field : Field) : Layout :=
  outerLayout field.attributes ++ field.visibility.layout ++ namedLayout field.name ++
    field.type.layout

/-- Fields in parentheses, in the box around them. -/
def positionalLayout (fields : List Field) : Layout :=
  word "(" ++ shiftLast (-indent) (softBreak ++ commaLayout (fields.map Field.layout)) ++ word ")"

/-- Named fields, each on a line of its own. -/
def fieldLines (fields : List Field) : Layout :=
  fields.flatMap fun field => field.layout ++ word "," ++ hardBreak

def Variant.layout (variant : Variant) : Layout :=
  outerLayout variant.attributes ++ word variant.name ++
    (match variant.fields with
      | .none => []
      | .positional fields => group indent (positionalLayout fields)
      | .named fields =>
        word " \x7b" ++
          group indent (shiftLast (-indent)
            (space ++ fieldsLayout false (fields.map Field.layout))) ++
          word "\x7d") ++
    (match variant.value with
      | some value => word " = " ++ value.layout .inner .alone
      | none => []) ++
    word "," ++ hardBreak

/-! ## Imports -/

/-- Whether a path of imports ends with a group of them. -/
def Import.endsWithGroup : Import → Bool
  | .inside _ tree => tree.endsWithGroup
  | .several _ => true
  | _ => false

/-- Whether an import is that of what a group is inside of. -/
def Import.isSelf : Import → Bool
  | .item name | .renamed name _ => name == "self"
  | _ => false

/-- The imports of a group, the layouts of which are given. -/
def importsLayout : List Import → List Layout → Layout
  | tree :: rest@(_ :: _), part :: parts =>
    part ++ word "," ++ (if tree.endsWithGroup then hardBreak else space) ++
      importsLayout rest parts
  | _, parts => parts.flatten

/-- A group of imports in its braces, which a single import does without unless it is `self`. -/
def importGroup (trees : List Import) (parts : List Layout) : Layout :=
  word "\x7b" ++ group indent (softBreak ++ fill 0 (importsLayout trees parts) ++
    shiftLast (-indent) (comma true 0)) ++ word "\x7d"

mutual

def Import.layout : Import → Layout
  | .item name => word name
  | .renamed name newName => word (name ++ " as " ++ newName)
  | .all => word "*"
  | .inside name tree => word (name ++ "::") ++ tree.layout
  | .several trees =>
    match trees, Import.listLayout trees with
    | [tree], [part] => if tree.isSelf then importGroup trees [part] else part
    | trees, parts => importGroup trees parts

def Import.listLayout : List Import → List Layout
  | [] => []
  | tree :: rest => tree.layout :: Import.listLayout rest

end

/-! ## Items -/

mutual

def Item.layout : Item → Layout
  | .use attributes visibility absolute tree =>
    outerLayout attributes ++ visibility.layout ++ word (if absolute then "use ::" else "use ") ++
      tree.layout ++ word ";" ++ hardBreak
  | .library attributes visibility name newName =>
    outerLayout attributes ++ visibility.layout ++ word ("extern crate " ++ name) ++
      (match newName with | some newName => word (" as " ++ newName) | none => []) ++ word ";" ++
      hardBreak
  | .record heading .none =>
    outerLayout heading.attributes ++
      group indent (heading.layout "struct " ++ heading.generics.beforeSemicolon) ++ hardBreak
  | .record heading (.positional fields) =>
    outerLayout heading.attributes ++
      group indent (heading.layout "struct " ++ positionalLayout fields ++
        heading.generics.beforeSemicolon) ++ hardBreak
  | .record heading (.named fields) =>
    outerLayout heading.attributes ++
      braceBox (heading.layout "struct " ++ heading.generics.beforeBody) (fieldLines fields)
  | .union heading fields =>
    outerLayout heading.attributes ++
      braceBox (heading.layout "union " ++ heading.generics.beforeBody) (fieldLines fields)
  | .enumeration heading variants =>
    outerLayout heading.attributes ++
      braceBox (heading.layout "enum " ++ heading.generics.beforeBody)
        (variants.flatMap Variant.layout)
  | .implementation attributes replaceable unchecked generics negative implemented type members =>
    outerLayout attributes ++
      braceBox
        (fill (-indent) (group indent (wordIf? replaceable "default " ++
            wordIf? unchecked "unsafe " ++ word "impl" ++ generics.parameterLayout) ++ word " " ++
          (match implemented with
            | some path => wordIf? negative "!" ++ path.layout ++ space ++ word "for "
            | none => []) ++
          type.layout) ++ generics.beforeBody)
        (innerLayout attributes ++ members.flatMap Member.layout)
  | .interface heading unchecked automatic bounds members =>
    outerLayout heading.attributes ++
      braceBox
        (heading.layout ((if unchecked then "unsafe " else "") ++
            (if automatic then "auto " else "") ++ "trait ") ++
          (if bounds.isEmpty then []
            else word ": " ++ joinedLayout (word " + ") (Bound.listLayout bounds)) ++
          heading.generics.beforeBody)
        (innerLayout heading.attributes ++ members.flatMap Member.layout)
  | .interfaceAlias heading bounds =>
    outerLayout heading.attributes ++
      group indent (heading.layout "trait " ++ word " = " ++ noBreak ++
        joinedLayout (space ++ word "+ ") (Bound.listLayout bounds) ++
        heading.generics.beforeSemicolon) ++ hardBreak
  | .foreign attributes unchecked convention members =>
    outerLayout attributes ++
      braceBox (wordIf? unchecked "unsafe " ++ convention.layout)
        (innerLayout attributes ++ members.flatMap Member.layout)
  | .function f => f.layout
  | .constant c => c.layout
  | .static mutable c => c.layoutWith (if mutable then "static mut " else "static ")
  | .alias a => a.layout false
  | .invocation i => i.layout
  | .module attributes visibility unchecked name items =>
    outerLayout attributes ++
      braceBox (visibility.layout ++ wordIf? unchecked "unsafe " ++ word ("mod " ++ name ++ " "))
        (innerLayout attributes ++ Item.listLayout items)
  | .moduleFile attributes visibility unchecked name =>
    outerLayout attributes ++
      group indent (visibility.layout ++ wordIf? unchecked "unsafe " ++
        word ("mod " ++ name ++ ";")) ++ hardBreak
  | .unformatted _ => missing

def Item.listLayout : List Item → Layout
  | [] => []
  | item :: rest => item.layout ++ Item.listLayout rest

end

/-! ## Files -/

def File.layout (file : File) : Layout :=
  group 0 ((match file.loader with | some line => word line ++ hardBreak | none => []) ++
    innerLayout file.attributes ++ Item.listLayout file.items)

/-- The text of a file, if there is a layout for all that is in it. -/
def File.format? (file : File) : Option String :=
  let layout := file.layout
  if layout.isComplete then some (Layout.render layout) else none

end WireErrors.Source
