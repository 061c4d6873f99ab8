import WireErrors.Source.Tree.Attribute
import WireErrors.Source.TokenTree
import WireErrors.Text.Split
import WireErrors.Layout.Render

/-!
# Formatting attributes and token lists

Documentation attributes are written as comments where a comment can hold their text. The tokens of
other attributes and of macro uses are set by rules of their own, for they need not be Rust.
-/

namespace WireErrors.Source

open Layout

/-! ## Comments -/

/-- A text without the blanks at its end. -/
def withoutEndBlanks (text : List Char) : List Char :=
  (text.reverse.dropWhile (· == ' ')).reverse

/-- A text of several lines without the blanks at the end of each line but the last. -/
def withoutInteriorBlanks (text : List Char) : List Char :=
  match (WireErrors.Text.splitAt '\n' text).reverse with
  | [] => []
  | last :: lines => List.intercalate ['\n'] ((lines.map withoutEndBlanks).reverse ++ [last])

/-- Whether a text can be the inside of a block comment: the comments in it are all closed, and
none is closed that was not opened. -/
def isCommentBody : Nat → List Char → Bool
  | depth, [] => depth = 0
  | depth, '/' :: '*' :: rest => isCommentBody (depth + 1) rest
  | depth, '*' :: '/' :: rest => if depth = 0 then false else isCommentBody (depth - 1) rest
  | depth, _ :: rest => isCommentBody depth rest

/-- Whether the first character of a text is one of the given ones. -/
def startsWithAny (chars : List Char) : List Char → Bool
  | [] => false
  | c :: _ => chars.contains c

/-- The block comment with a text, if there is one; the text must not start with some characters. -/
def blockComment? (opening : String) (exceptions text : List Char) : Option (List Char) :=
  if isCommentBody 0 text && text.getLast? != some '/' && !startsWithAny exceptions text then
    some (opening.toList ++ withoutInteriorBlanks text ++ ['*', '/'])
  else none

/-- The comment that stands for a documentation text, if there is one. -/
def docComment? (inner : Bool) (text : List Char) : Option (List Char) :=
  if !text.contains '\n' && (inner || !startsWithAny ['/'] text) then
    some ((if inner then "//!" else "///").toList ++ withoutEndBlanks text)
  else if inner then blockComment? "/*!" [] text
  else blockComment? "/**" ['*', '/'] text

/-- The comment that stands for the text of an attribute named `comment`, if there is one. -/
def plainComment? (text : List Char) : Option (List Char) :=
  if !text.contains '\n' then some ("//".toList ++ withoutEndBlanks text)
  else blockComment? "/*" ['*', '!'] text

/-- The comment that is written for an attribute, if it is one that a comment can stand for. -/
def Attribute.comment? (a : Attribute) : Option (List Char) :=
  match a.docText? with
  | some text => docComment? a.inner text.toList
  | none => (a.textOf? "comment").bind fun text => plainComment? text.toList

/-! ## Attributes -/

def tokenWord (t : Token) : Layout := word (String.ofList t.chars)

def openingWord (delimiter : Delimiter) : Layout := tokenWord (.opening delimiter)

def closingWord (delimiter : Delimiter) : Layout := tokenWord (.closing delimiter)

/-- Whether a comma ends a list. -/
def endsWithComma (trees : List TokenTree) : Bool :=
  match trees.getLast? with
  | some (.token (.mark ',' _)) => true
  | _ => false

/-- The inside of an attribute; `afterWord` tells whether a word stands in front. -/
def attributeTrees : Bool → List TokenTree → Layout
  | _, [] => []
  | afterWord, .token (.mark c _) :: rest =>
    if c = ',' && rest.isEmpty then comma true 0
    else
      word (if c = '=' then if afterWord then " = " else "= " else String.ofList [c]) ++
        (if c = ',' then space else []) ++ attributeTrees false rest
  | afterWord, .token t :: rest =>
    (if afterWord then space else []) ++ tokenWord t ++ attributeTrees true rest
  | _, .group delimiter body :: rest =>
    openingWord delimiter ++
      (if delimiter = .paren then
        group indent (shiftLast (-indent) (softBreak ++ attributeTrees false body ++
          if endsWithComma body then [] else softBreak))
      else attributeTrees false body) ++
      closingWord delimiter ++ attributeTrees false rest

def pathText (path : Path) : String :=
  (if path.absolute then "::" else "") ++ "::".intercalate path.segments

def AttributeArgument.layout : AttributeArgument → Layout
  | .none => []
  | .value spelling => word (" = " ++ spelling)
  | .expr e => word " = " ++ e.layout
  | .list delimiter body => attributeTrees false [.group delimiter (TokenTree.ofTokens body)]

def Attribute.layout (a : Attribute) : Layout :=
  match a.comment? with
  | some comment => word (String.ofList comment) ++ hardBreak
  | none =>
    word (if a.inner then "#![" else "#[") ++ word (pathText a.path) ++ a.argument.layout ++
      word "]" ++ space

/-- The attributes in front of an item. -/
def outerLayout (attributes : List Attribute) : Layout :=
  (attributes.filter fun a => !a.inner).flatMap Attribute.layout

/-- The attributes inside of an item. -/
def innerLayout (attributes : List Attribute) : Layout :=
  (attributes.filter fun a => a.inner).flatMap Attribute.layout

def Visibility.layout : Visibility → Layout
  | .inherited => []
  | .everyone => word "pub "
  | .within path =>
    let isShort := !path.absolute && ["self", "super", "crate"].any fun w => path.segments = [w]
    word ("pub(" ++ (if isShort then "" else "in ") ++ pathText path ++ ") ")

/-! ## Tokens of macros -/

/-- What was written last in the tokens of a macro. -/
inductive MacroState where
  | start
  | dollar
  | dollarCrate
  | dollarName
  | dollarNameColon
  | dollarParen
  | dollarParenSeparator
  | pound
  | poundBang
  | dot
  | colon
  | colons
  | ident
  | identBang
  | delimiter
  | other
deriving DecidableEq

/-- Words that are set apart from what is around them. -/
def apartWords : List String :=
  ["as", "async", "await", "box", "break", "const", "continue", "crate", "dyn", "else", "enum",
   "extern", "fn", "for", "if", "impl", "in", "let", "loop", "macro", "match", "mod", "move",
   "mut", "pub", "ref", "return", "static", "struct", "trait", "type", "unsafe", "use", "where",
   "while", "yield"]

/-- Whether a blank separates a token from what was written last, and what has been written after
it; in a matcher, variables have kinds. -/
def MacroState.next (matcher : Bool) : MacroState → TokenTree → Bool × MacroState
  | .dollar, .token (.ident name) =>
    (false, if matcher then .dollarName else if name == "crate" then .dollarCrate else .other)
  | .dollarName, .token (.mark ':' false) => (false, .dollarNameColon)
  | .dollarNameColon, .token (.ident _) => (false, .other)
  | .dollarParen, .token (.ident _) | .dollarParen, .token (.literal _) =>
    (false, .dollarParenSeparator)
  | .dollarParen, .token (.mark c joint) =>
    if joint then (false, .dollarParen)
    else if "+*?".toList.contains c then (false, .other)
    else (false, .dollarParenSeparator)
  | .dollar, .group .paren _ => (false, .dollarParen)
  | .pound, .group .bracket _ | .poundBang, .group .bracket _ => (false, .other)
  | .ident, .group .paren _ | .ident, .group .bracket _ => (false, .delimiter)
  | .identBang, .group .paren _ | .identBang, .group .bracket _ => (false, .other)
  | _, .group .paren _ | _, .group .bracket _ => (true, .delimiter)
  | _, .group .brace _ => (true, .other)
  | state, .token (.ident name) =>
    if apartWords.contains name then (true, .other)
    else (state != .dot && state != .colons, .ident)
  | state, .token (.literal text) => (state != .dot, if text.endsWith "." then .other else .ident)
  | state, .token (.mark c joint) =>
    if state = .dollarParenSeparator && "+*".toList.contains c then (false, .other)
    else if state = .pound && c = '!' then (false, .poundBang)
    else if state = .ident && c = '!' && !joint then (false, .identBang)
    else if state = .colon && c = ':' then (false, .colons)
    else if c = ',' || c = ';' then (false, .other)
    else if c = '.' && !matcher then (state != .ident && state != .delimiter, .dot)
    else if c = ':' && joint then (state != .ident && state != .dollarCrate, .colon)
    else if c = '$' then (true, .dollar)
    else if c = '#' then (true, .pound)
    else (true, .other)
  | _, .token _ => (true, .other)

/-- Whether nothing separates a token from the one after it. -/
def isJoined : TokenTree → Bool
  | .token (.mark c joint) => joint || c = '$'
  | _ => false

def isDot : TokenTree → Bool
  | .token (.mark '.' _) => true
  | _ => false

/-- The tokens of a macro; `joined` if nothing separates the first one from what is in front. -/
def macroTrees (matcher : Bool) (state : MacroState) (joined : Bool) : List TokenTree → Layout
  | [] => []
  | .token t :: rest =>
    let (apart, state) := state.next matcher (.token t)
    macroGap joined apart (isDot (.token t)) ++ tokenWord t ++
      macroTrees matcher state (isJoined (.token t)) rest
  | .group delimiter body :: rest =>
    let (apart, state) := state.next matcher (.group delimiter body)
    let edge := if delimiter = .brace && !body.isEmpty then space else []
    macroGap joined apart false ++ openingWord delimiter ++ edge ++
      macroTrees matcher .start true body ++ edge ++ closingWord delimiter ++
      macroTrees matcher state false rest
where
  macroGap (joined apart dot : Bool) : Layout :=
    if joined then [] else if apart then space else if dot then softBreak else []

/-- All tokens between the delimiters of a macro, with a gap at both ends. -/
def macroBox (matcher : Bool) (edge : Layout) (body : List TokenTree) : Layout :=
  if body.isEmpty then []
  else
    group indent (edge ++ fill 0 (macroTrees matcher .start true body) ++ shiftLast (-indent) edge)

/-! ## Uses and definitions of macros -/

/-- A use of a macro with the name after its path; `ended` if a semicolon ends it. -/
def invocationLayout (path : Path) (name : Option String) (delimiter : Delimiter)
    (body : List Token) (ended : Bool) : Layout :=
  let edge := if delimiter = .brace then hardBreak else softBreak
  word (pathText path ++ "!") ++ (match name with | some name => word (" " ++ name) | none => []) ++
    (if delimiter = .brace then word " \x7b" else openingWord delimiter) ++
    macroBox false edge (TokenTree.ofTokens body) ++ closingWord delimiter ++
    (if ended then word ";" else [])

/-- What was written last in the rules of a macro. -/
inductive RuleState where
  | start
  | matcher
  | equals
  | arrow
  | expansion

/-- The rules that define a macro; rules of another form have no layout. -/
def rulesLayout : RuleState → List TokenTree → Layout
  | .start, [] => []
  | .expansion, [] => word ";" ++ hardBreak
  | _, [] => hardBreak
  | .start, .group delimiter body :: rest =>
    openingWord delimiter ++ macroBox true softBreak body ++ closingWord delimiter ++
      rulesLayout .matcher rest
  | .matcher, .token (.mark '=' true) :: rest => word " =" ++ rulesLayout .equals rest
  | .equals, .token (.mark '>' false) :: rest => word ">" ++ rulesLayout .arrow rest
  | .arrow, .group _ body :: rest =>
    word " \x7b" ++ noBreak ++ macroBox false hardBreak body ++ word "\x7d" ++
      rulesLayout .expansion rest
  | .expansion, .token (.mark ';' false) :: rest =>
    word ";" ++ hardBreak ++ rulesLayout .start rest
  | _, _ :: _ => missing

/-- The definition of a macro by rules. -/
def definitionLayout (name : String) (body : List Token) : Layout :=
  word ("macro_rules! " ++ name ++ " \x7b") ++
    group indent (shiftLast (-indent)
      (hardBreakIfMore ++ rulesLayout .start (TokenTree.ofTokens body))) ++ word "\x7d"

end WireErrors.Source
