import WireErrors.Source.Tree.Type
import WireErrors.Source.Formatting.Attribute

/-!
# Formatting types

The layout of types and of the paths in types, patterns and expressions, of bounds, and of the
parameters and conditions of generic items.
-/

namespace WireErrors.Source

open Layout

/-! ## Lists -/

/-- The elements of a list, each with the comma after it. -/
def commaLayout : List Layout → Layout
  | [] => []
  | [part] => part ++ comma true 0
  | part :: rest => part ++ comma false 0 ++ commaLayout rest

/-- The elements of a list with the comma after each of them and a blank after the last one, if all
are on one line; `more` if something follows them. -/
def fieldsLayout (more : Bool) : List Layout → Layout
  | [] => []
  | [part] => part ++ comma (!more) 1
  | part :: rest => part ++ comma false 1 ++ fieldsLayout more rest

/-- A list inside delimiters that moves to lines of its own if it does not fit. -/
def listBox (parts : List Layout) : Layout :=
  group indent (shiftLast (-indent) (softBreak ++ commaLayout parts))

/-- A tuple, in which a comma follows a single element. -/
def tupleLayout (parts : List Layout) : Layout :=
  word "(" ++
    (match parts with
      | [part] =>
        group indent (shiftLast (-indent) (softBreak ++ part ++ word "," ++ softBreak))
      | _ => listBox parts) ++
    word ")"

/-- Parts with a text between two of them. -/
def joinedLayout (separator : Layout) (parts : List Layout) : Layout :=
  List.intercalate separator parts

def lifetimeWord (name : String) : Layout := word ("'" ++ name)

/-- Words where a condition holds. -/
def wordIf? (condition : Bool) (text : String) : Layout := if condition then word text else []

/-! ## Types -/

def Convention.layout : Convention → Layout
  | .standard => []
  | .foreign none => word "extern "
  | .foreign (some name) => word ("extern " ++ name ++ " ")

/-- A name with the colon after it, if one is given. -/
def namedLayout : Option String → Layout
  | none => []
  | some name => word (name ++ ": ")

def FurtherInputs.layout (further : FurtherInputs) : Layout :=
  outerLayout further.attributes ++ namedLayout further.name ++ word "..."

/-- Bounds after a colon. -/
def boundsLayout (bounds : List Layout) : Layout :=
  if bounds.isEmpty then [] else word ": " ++ joinedLayout (space ++ word "+ ") bounds

def Captured.layout : Captured → Layout
  | .lifetime name => lifetimeWord name
  | .type name => word name

/-- The inputs of a function type. -/
def inputsLayout (further : Option FurtherInputs) (inputs : List Layout) : Layout :=
  match further with
  | none => commaLayout inputs
  | some further => inputs.flatMap (· ++ comma false 0) ++ further.layout ++ softBreak

def Argument.isLifetime : Argument → Bool
  | .lifetime _ => true
  | _ => false

/-- The arguments of a path with their layouts, lifetimes first, between angle brackets. -/
def angledLayout (inType : Bool) (arguments : List Argument) (parts : List Layout) : Layout :=
  let pairs := arguments.zip parts
  let sorted := pairs.filter (fun p => p.1.isLifetime) ++ pairs.filter fun p => !p.1.isLifetime
  if parts.isEmpty then []
  else wordIf? (!inType) "::" ++ word "<" ++ listBox (sorted.map Prod.snd) ++ word ">"

mutual

def TypeExpr.layout : TypeExpr → Layout
  | .path route => route.layout true
  | .reference lifetime mutable target =>
    word "&" ++ (match lifetime with | some name => word ("'" ++ name ++ " ") | none => []) ++
      wordIf? mutable "mut " ++ target.layout
  | .pointer mutable target => word (if mutable then "*mut " else "*const ") ++ target.layout
  | .slice element => word "[" ++ element.layout ++ word "]"
  | .array element length =>
    word "[" ++ element.layout ++ word "; " ++ length.layout ++ word "]"
  | .tuple elements => tupleLayout (TypeExpr.listLayout elements)
  | .enclosed type => word "(" ++ type.layout ++ word ")"
  | .never => word "!"
  | .inferred => word "_"
  | .function binder unchecked convention inputs further result =>
    binderLayout binder ++ wordIf? unchecked "unsafe " ++ convention.layout ++
      word "fn(" ++
      group indent (shiftLast (-indent)
        (softBreak ++ inputsLayout further (FunctionInput.listLayout inputs))) ++
      word ")" ++ TypeExpr.resultLayout result
  | .object bounds => word "dyn " ++ joinedLayout (word " + ") (Bound.listLayout bounds)
  | .hidden bounds => word "impl " ++ joinedLayout (word " + ") (Bound.listLayout bounds)
  | .invocation path delimiter body => invocationLayout path none delimiter body false
  | .unformatted _ => missing

def TypeExpr.listLayout : List TypeExpr → List Layout
  | [] => []
  | type :: rest => type.layout :: TypeExpr.listLayout rest

def FunctionInput.layout : FunctionInput → Layout
  | .mk attributes name type => outerLayout attributes ++ namedLayout name ++ type.layout

def FunctionInput.listLayout : List FunctionInput → List Layout
  | [] => []
  | input :: rest => input.layout :: FunctionInput.listLayout rest

def TypeExpr.resultLayout : Option TypeExpr → Layout
  | none => []
  | some type => word " -> " ++ type.layout

/-- The layout of a path; in expressions, `::` stands in front of arguments. -/
def Route.layout (inType : Bool) : Route → Layout
  | .plain absolute segments =>
    wordIf? absolute "::" ++ joinedLayout (word "::") (Segment.listLayout inType segments)
  | .within type absolute interface segments =>
    word "<" ++ type.layout ++
      (if interface.isEmpty then []
        else word " as " ++ wordIf? absolute "::" ++
          joinedLayout (word "::") (Segment.listLayout true interface)) ++
      word ">::" ++ joinedLayout (word "::") (Segment.listLayout inType segments)

def Segment.layout (inType : Bool) : Segment → Layout
  | .mk name arguments => word name ++ arguments.layout inType

def Segment.listLayout (inType : Bool) : List Segment → List Layout
  | [] => []
  | segment :: rest => segment.layout inType :: Segment.listLayout inType rest

def Arguments.layout (inType : Bool) : Arguments → Layout
  | .none => []
  | .angled list => angledLayout inType list (Argument.listLayout list)
  | .called inputs result =>
    group indent (shiftLast (-indent) (word "(" ++ softBreak ++
      commaLayout (TypeExpr.listLayout inputs)) ++ word ")" ++ TypeExpr.resultLayout result)

def Argument.layout : Argument → Layout
  | .lifetime name => lifetimeWord name
  | .type t => t.layout
  | .constant value => value.layout
  | .equal segment t => segment.layout true ++ word " = " ++ t.layout
  | .equalConstant segment value => segment.layout true ++ word " = " ++ value.layout
  | .bounded segment bounds =>
    segment.layout true ++ fill indent (boundsLayout (Bound.listLayout bounds))

def Argument.listLayout : List Argument → List Layout
  | [] => []
  | argument :: rest => argument.layout :: Argument.listLayout rest

def Bound.layout : Bound → Layout
  | .lifetime name => lifetimeWord name
  | .interface enclosed binder isOptional absolute segments =>
    wordIf? enclosed "(" ++ binderLayout binder ++ wordIf? isOptional "?" ++
      wordIf? absolute "::" ++ joinedLayout (word "::") (Segment.listLayout true segments) ++
      wordIf? enclosed ")"
  | .capture names =>
    word "use<" ++ joinedLayout (word ", ") (names.map Captured.layout) ++ word ">"
  | .unformatted _ => missing

def Bound.listLayout : List Bound → List Layout
  | [] => []
  | bound :: rest => bound.layout :: Bound.listLayout rest

def GenericParameter.layout : GenericParameter → Layout
  | .lifetime attributes name bounds =>
    outerLayout attributes ++ lifetimeWord name ++ (if bounds.isEmpty then []
      else word ": " ++ joinedLayout (word " + ") (bounds.map lifetimeWord))
  | .type attributes name bounds standard =>
    outerLayout attributes ++ word name ++ fill indent (boundsLayout (Bound.listLayout bounds) ++
      (match standard with | some t => space ++ word "= " ++ t.layout | none => []))
  | .constant attributes name t standard =>
    outerLayout attributes ++ word ("const " ++ name ++ ": ") ++ t.layout ++
      (match standard with | some value => word " = " ++ value.layout | none => [])

def GenericParameter.listLayout : List GenericParameter → List Layout
  | [] => []
  | parameter :: rest => parameter.layout :: GenericParameter.listLayout rest

/-- The parameters for any choice of which something holds. -/
def binderLayout : Option (List GenericParameter) → Layout
  | none => []
  | some parameters =>
    word "for<" ++ joinedLayout (word ", ") (GenericParameter.listLayout parameters) ++ word "> "

end

/-! ## Generic items -/

def GenericParameter.isLifetime : GenericParameter → Bool
  | .lifetime .. => true
  | _ => false

/-- The parameters of a generic item in angle brackets, lifetimes first. -/
def Generics.parameterLayout (generics : Generics) : Layout :=
  let sorted := generics.parameters.filter (fun p => p.isLifetime) ++
    generics.parameters.filter fun p => !p.isLifetime
  if sorted.isEmpty then []
  else
    word "<" ++ group 0 (shiftLast (-indent) (softBreak ++
      commaLayout (sorted.map GenericParameter.layout))) ++ word ">"

/-- The bounds in a condition, after its colon. -/
def conditionBounds (shift : Int) (bounds : List Layout) : Layout :=
  fill shift (if bounds.isEmpty then []
    else word " " ++ joinedLayout (space ++ word "+ ") bounds)

def Condition.layout : Condition → Layout
  | .lifetime name bounds =>
    lifetimeWord name ++ word ":" ++ conditionBounds indent (bounds.map lifetimeWord)
  | .type binder t bounds =>
    binderLayout binder ++ t.layout ++ word ":" ++
      conditionBounds (if bounds.length = 1 then 0 else indent) (Bound.listLayout bounds)

/-- The word in front of conditions, on a line of its own. -/
def conditionsWord : Layout := shiftLast (-indent) hardBreak ++ word "where" ++ hardBreak

/-- The conditions in front of a body, each on a line of its own, or else a blank. -/
def Generics.beforeBody (generics : Generics) : Layout :=
  if generics.conditions.isEmpty then word " "
  else
    conditionsWord ++ shiftLast (-indent)
      (generics.conditions.flatMap fun c => c.layout ++ word "," ++ hardBreak)

/-- The conditions at the end of an item without a body, with the semicolon after them. -/
def Generics.beforeSemicolon (generics : Generics) : Layout :=
  if generics.conditions.isEmpty then word ";"
  else
    conditionsWord ++
      joinedLayout (word "," ++ hardBreak) (generics.conditions.map Condition.layout) ++ word ";"

/-- The conditions of an alias, on its line if they fit, and a semicolon or blank after them. -/
def Generics.inLine (semicolon : Bool) (generics : Generics) : Layout :=
  let parts := generics.conditions.map Condition.layout
  if parts.isEmpty then word (if semicolon then ";" else " ")
  else
    shiftLast (-indent) space ++ word "where" ++ space ++
      if semicolon then joinedLayout (word "," ++ space) parts ++ word ";"
      else shiftLast (-indent) (fieldsLayout false parts)

end WireErrors.Source
